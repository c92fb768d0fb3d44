import Mathlib.Data.List.Induction
import SharedListener.Proofs.Scope.Index

/-!
# The index under any caller

Nothing keeps a caller from registering a connection that is registered already.
Its metadata are the new ones then, but it stays listed where it was.  So an
application lists the connections that were registered as its own and have not
been unregistered as its own since (`Placed`).  These are the ones that the
metadata speak of as long as no connection is moved from one application to
another (`Moves`).
-/

namespace SharedListener.Scope.Registry

/-! ## Sequences of calls -/

/-- One thing that a caller can do to a registry. -/
inductive Call where
  | setEnabled (app : String) (enabled : Bool)
  | register (id : ConnectionId) (metadata : Metadata)
  | unregister (id : ConnectionId)

def step (registry : Registry) : Call → Registry
  | .setEnabled app enabled => registry.setEnabled app enabled
  | .register id metadata => registry.register id metadata
  | .unregister id => registry.unregister id

def ofCalls (calls : List Call) : Registry :=
  calls.foldl step {}

@[simp] theorem ofCalls_concat (calls : List Call) (call : Call) :
    ofCalls (calls ++ [call]) = (ofCalls calls).step call := by
  rw [ofCalls, List.foldl_append]
  rfl

variable {registry : Registry} {calls : List Call} {call : Call} {id other : ConnectionId}
  {app : String}

/-! ## What one call does to the index -/

theorem mem_members_unregister_iff (registry : Registry) (id : ConnectionId) :
    other ∈ members (registry.unregister id).index app ↔
      other ∈ members registry.index app ∧
        ¬ (id = other ∧ registry.application? other = some app) := by
  cases hid : registry.connections[id]? with
  | none =>
      -- what is not registered belongs to no application, and the index stays
      have hnone : ¬ (id = other ∧ registry.application? other = some app) := by
        rintro ⟨rfl, happ⟩
        rw [application?, hid] at happ
        cases happ
      rw [Registry.unregister, hid, and_iff_left hnone]
  | some metadata =>
      rw [mem_members_unregister hid]
      refine and_congr_right fun _ => not_congr (and_congr_right ?_)
      rintro rfl
      rw [application?, hid, Option.bind_some]

/-- The call registers a connection that belongs to one application under another one, or under
none. -/
def Moves (registry : Registry) : Call → Prop
  | .register id metadata =>
      ∃ app, registry.application? id = some app ∧ applicationOf metadata.path ≠ some app
  | .setEnabled _ _ | .unregister _ => False

/-- A call that moves no connection keeps the index right. -/
theorem Indexed.step (h : registry.Indexed) (hstays : ¬ registry.Moves call) :
    (registry.step call).Indexed := by
  cases call with
  | setEnabled app enabled => exact h.setEnabled app enabled
  | unregister id => exact h.unregister id
  | register id metadata =>
      intro app other
      show other ∈ members (registry.register id metadata).index app ↔ _
      rw [mem_members_register, h app other, Registry.step, application?_register]
      split_ifs with heq
      · subst heq
        -- if it is listed already, then under the application that it is registered under again
        have hsame : registry.application? id = some app →
            applicationOf metadata.path = some app := by
          intro hlisted
          by_contra hother
          exact hstays ⟨app, hlisted, hother⟩
        simpa using hsame
      · simp [heq]

/-- A connection that is moved stays listed where it was. -/
theorem not_indexed_step_of_moves (h : registry.Indexed) (hmoves : registry.Moves call) :
    ¬ (registry.step call).Indexed := by
  cases call with
  | setEnabled | unregister => exact hmoves.elim
  | register id metadata =>
      obtain ⟨app, hlisted, hother⟩ := hmoves
      intro hafter
      have hstill : id ∈ members (registry.register id metadata).index app :=
        (mem_members_register registry id metadata).mpr (.inr ((h app id).mpr hlisted))
      have hclaimed := (hafter app id).mp hstill
      rw [Registry.step, application?_register, if_pos rfl] at hclaimed
      exact hother hclaimed

/-! ## Where a connection is listed -/

/-- Some call registered the connection as one of the application, and no later call unregistered it
while it was. -/
def Placed (calls : List Call) (app : String) (id : ConnectionId) : Prop :=
  ∃ before metadata behind, calls = before ++ .register id metadata :: behind ∧
    applicationOf metadata.path = some app ∧
    ∀ between, between ++ [.unregister id] <+: behind →
      (ofCalls (before ++ .register id metadata :: between)).application? id ≠ some app

private theorem not_placed_nil : ¬ Placed [] app id := by
  rintro ⟨before, metadata, behind, hcalls, _⟩
  simp at hcalls

theorem placed_concat_iff :
    Placed (calls ++ [call]) app id ↔
      (∃ metadata, call = .register id metadata ∧ applicationOf metadata.path = some app) ∨
        Placed calls app id ∧
          ¬ (call = .unregister id ∧ (ofCalls calls).application? id = some app) := by
  constructor
  · rintro ⟨before, metadata, behind, hcalls, happ, hkept⟩
    rcases List.eq_nil_or_concat behind with rfl | ⟨behind, last, rfl⟩
    · obtain ⟨-, hlast⟩ := List.append_inj' hcalls rfl
      exact .inl ⟨metadata, List.singleton_inj.mp hlast, happ⟩
    · rw [List.concat_eq_append] at hcalls hkept
      rw [← List.cons_append, ← List.append_assoc] at hcalls
      obtain ⟨rfl, hlast⟩ := List.append_inj' hcalls rfl
      obtain rfl := List.singleton_inj.mp hlast
      refine .inr ⟨⟨before, metadata, behind, rfl, happ, fun between hbetween =>
        hkept between (hbetween.trans (List.prefix_append _ _))⟩, ?_⟩
      rintro ⟨rfl, hlisted⟩
      exact hkept behind (List.prefix_refl _) hlisted
  · rintro (⟨metadata, rfl, happ⟩ | ⟨⟨before, metadata, behind, rfl, happ, hkept⟩, hlast⟩)
    · exact ⟨calls, metadata, [], rfl, happ, fun between hbetween => by simp at hbetween⟩
    · refine ⟨before, metadata, behind ++ [call], by simp, happ, fun between hbetween => ?_⟩
      rcases List.prefix_concat_iff.mp hbetween with heq | hearlier
      · obtain ⟨rfl, hcall⟩ := List.append_inj' heq rfl
        exact fun hlisted => hlast ⟨(List.singleton_inj.mp hcall).symm, hlisted⟩
      · exact hkept between hearlier

theorem mem_members_ofCalls (calls : List Call) :
    id ∈ members (ofCalls calls).index app ↔ Placed calls app id := by
  induction calls using List.reverseRecOn with
  | nil => exact iff_of_false (by simp [members, ofCalls]) not_placed_nil
  | append_singleton calls call ih =>
      rw [ofCalls_concat, placed_concat_iff, ← ih]
      cases call with
      | setEnabled name enabled =>
          show id ∈ members (ofCalls calls).index app ↔ _
          simp
      | register other metadata =>
          show id ∈ members ((ofCalls calls).register other metadata).index app ↔ _
          rw [mem_members_register]
          simp
      | unregister other =>
          show id ∈ members ((ofCalls calls).unregister other).index app ↔ _
          rw [mem_members_unregister_iff]
          simp

/-! ## When the index is right -/

/-- The index is right after each of the calls exactly if none of them moves a connection. -/
theorem indexed_ofCalls_iff (calls : List Call) :
    (∀ before, before <+: calls → (ofCalls before).Indexed) ↔
      ∀ before call, before ++ [call] <+: calls → ¬ (ofCalls before).Moves call := by
  constructor
  · intro hright before call hbefore hmoves
    have hearlier := hright before ((List.prefix_append _ _).trans hbefore)
    refine not_indexed_step_of_moves hearlier hmoves ?_
    rw [← ofCalls_concat]
    exact hright _ hbefore
  · intro hstays before hbefore
    induction before using List.reverseRecOn with
    | nil => exact ofApps_indexed []
    | append_singleton before call ih =>
        rw [ofCalls_concat]
        exact (ih ((List.prefix_append _ _).trans hbefore)).step (hstays before call hbefore)

/-- The connections under an application are those whose metadata say so. -/
theorem indexed_iff :
    registry.Indexed ↔ ∀ app id, id ∈ registry.connectionsIn app ↔
      ∃ metadata, registry.metadata? id = some metadata ∧
        applicationOf metadata.path = some app := by
  refine forall_congr' fun app => forall_congr' fun id => ?_
  rw [mem_connectionsIn, application?, Option.bind_eq_some_iff]
  rfl

/-- **The index under any caller.**  After any calls an application lists, in increasing order, the
connections that were registered as its own and not unregistered as its own since.  After each of
the calls these are the connections whose metadata name the application, unless a call registers a
connection of one application under another one; and then they are not. -/
theorem connectionsIn_ofCalls (calls : List Call) :
    (∀ app, ((ofCalls calls).connectionsIn app).Pairwise (· < ·) ∧
      ∀ id, id ∈ (ofCalls calls).connectionsIn app ↔ Placed calls app id) ∧
    ((∀ before, before <+: calls → ∀ app id, id ∈ (ofCalls before).connectionsIn app ↔
        ∃ metadata, (ofCalls before).metadata? id = some metadata ∧
          applicationOf metadata.path = some app) ↔
      ∀ before call, before ++ [call] <+: calls → ¬ (ofCalls before).Moves call) := by
  refine ⟨fun app => ⟨connectionsIn_increasing _ app, fun id => ?_⟩, ?_⟩
  · rw [mem_connectionsIn, mem_members_ofCalls]
  · rw [← indexed_ofCalls_iff]
    exact forall₂_congr fun before _ => indexed_iff.symm

/-- A connection that was moved is listed under its earlier application, even when it is no longer
registered at all. -/
theorem connectionsIn_moved :
    let moved : List Call := [.register 1 { path := "/a" }, .register 1 { path := "/b" }]
    (ofCalls moved).connectionsIn "a" = [1] ∧
    ((ofCalls moved).metadata? 1).map Metadata.path = some "/b" ∧ applicationOf "/b" = some "b" ∧
    (ofCalls (moved ++ [.unregister 1])).connectionsIn "a" = [1] ∧
    ((ofCalls (moved ++ [.unregister 1])).metadata? 1).isNone := by
  decide +kernel

end SharedListener.Scope.Registry
