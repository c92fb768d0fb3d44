import Mathlib.Algebra.GroupWithZero.Nat
import Mathlib.Data.List.Nodup
import SharedListener.Operations

/-!
# The index of the registry

The registry keeps the upgraded connections twice: under their numbers, with
what their requests said, and under their applications.  `Indexed` says that the
two agree, and registering and unregistering keep it as long as no connection is
registered while it is there already.

If besides every connection belongs to an application that has a switch
(`Known`), then each connection is counted once in the listing of all
applications (`sum_connections_listing`).
-/

namespace SharedListener.Scope.Registry

variable {registry : Registry} {id other : ConnectionId} {app : String} {metadata : Metadata}

/-! ## What the registry knows of a connection -/

/-- The connections that stand in an index under an application. -/
def members (index : Std.ExtTreeMap String (Std.ExtTreeSet ConnectionId)) (app : String) :
    Std.ExtTreeSet ConnectionId :=
  index[app]?.getD ∅

/-- The application that a registered connection belongs to. -/
def application? (registry : Registry) (id : ConnectionId) : Option String :=
  registry.connections[id]?.bind fun metadata => applicationOf metadata.path

theorem mem_connectionsIn : id ∈ registry.connectionsIn app ↔ id ∈ members registry.index app :=
  Std.ExtTreeSet.mem_toList

theorem connectionsIn_increasing (registry : Registry) (app : String) :
    (registry.connectionsIn app).Pairwise (· < ·) :=
  Std.ExtTreeSet.ordered_toList.imp Nat.compare_eq_lt.mp

theorem connectionsIn_nodup (registry : Registry) (app : String) :
    (registry.connectionsIn app).Nodup :=
  (connectionsIn_increasing registry app).imp Nat.ne_of_lt

theorem connections_register (registry : Registry) (id : ConnectionId) (metadata : Metadata) :
    (registry.register id metadata).connections[other]? =
      if id = other then some metadata else registry.connections[other]? := by
  rw [register, Std.ExtTreeMap.getElem?_insert]
  simp only [Std.LawfulEqCmp.compare_eq_iff_eq]

theorem connections_unregister (registry : Registry) (id : ConnectionId) :
    (registry.unregister id).connections[other]? =
      if id = other then none else registry.connections[other]? := by
  unfold unregister
  cases h : registry.connections[id]? with
  | none =>
      split_ifs with heq
      · rwa [← heq]
      · rfl
  | some metadata =>
      rw [Std.ExtTreeMap.getElem?_erase]
      simp only [Std.LawfulEqCmp.compare_eq_iff_eq]

theorem apps_unregister (registry : Registry) (id : ConnectionId) :
    (registry.unregister id).apps = registry.apps := by
  unfold unregister
  split <;> rfl

theorem application?_register (registry : Registry) (id : ConnectionId) (metadata : Metadata) :
    (registry.register id metadata).application? other =
      if id = other then applicationOf metadata.path else registry.application? other := by
  rw [application?, connections_register]
  split_ifs <;> rfl

theorem application?_unregister (registry : Registry) (id : ConnectionId) :
    (registry.unregister id).application? other =
      if id = other then none else registry.application? other := by
  rw [application?, connections_unregister]
  split_ifs <;> rfl

/-! ## What stands in the index -/

section Members

variable (index : Std.ExtTreeMap String (Std.ExtTreeSet ConnectionId)) (name : String)

private theorem members_insert (ids : Std.ExtTreeSet ConnectionId) :
    members (index.insert name ids) app = if name = app then ids else members index app := by
  rw [members, Std.ExtTreeMap.getElem?_insert]
  simp only [Std.LawfulEqCmp.compare_eq_iff_eq]
  split_ifs <;> rfl

private theorem members_erase :
    members (index.erase name) app = if name = app then ∅ else members index app := by
  rw [members, Std.ExtTreeMap.getElem?_erase]
  simp only [Std.LawfulEqCmp.compare_eq_iff_eq]
  split_ifs <;> rfl

/-- An application that loses its last member is dropped, and so has no members. -/
private theorem members_withoutMember (id : ConnectionId) :
    members (withoutMember index name id) app =
      if name = app then (members index app).erase id else members index app := by
  unfold withoutMember
  cases hids : index[name]? with
  | none =>
      split_ifs with hname
      · rw [← hname, members, hids, Option.getD_none, Std.ExtTreeSet.erase_empty]
      · rfl
  | some ids =>
      have hmembers : members index name = ids := by rw [members, hids, Option.getD_some]
      by_cases hempty : (ids.erase id).isEmpty
      · simp only [hempty, if_true, members_erase]
        split_ifs with hname
        · rw [← hname, hmembers, Std.ExtTreeSet.isEmpty_iff.mp hempty]
        · rfl
      · simp only [hempty, Bool.false_eq_true, if_false, members_insert]
        split_ifs with hname
        · rw [← hname, hmembers]
        · rfl

end Members

theorem mem_members_register (registry : Registry) (id : ConnectionId) (metadata : Metadata) :
    other ∈ members (registry.register id metadata).index app ↔
      id = other ∧ applicationOf metadata.path = some app ∨
        other ∈ members registry.index app := by
  unfold register
  cases happ : applicationOf metadata.path with
  | none => simp
  | some name =>
      show other ∈ members (registry.index.insert name _) app ↔ _
      rw [members_insert, Option.some.injEq]
      split_ifs with hname
      · subst hname
        rw [Std.ExtTreeSet.mem_insert]
        simp [members]
      · simp [hname]

theorem mem_members_unregister (h : registry.connections[id]? = some metadata) :
    other ∈ members (registry.unregister id).index app ↔
      other ∈ members registry.index app ∧
        ¬ (id = other ∧ applicationOf metadata.path = some app) := by
  unfold unregister
  simp only [h]
  cases happ : applicationOf metadata.path with
  | none => simp
  | some name =>
      simp only [members_withoutMember, Option.some.injEq]
      split_ifs with hname
      · simp [hname, Std.ExtTreeSet.mem_erase, and_comm]
      · simp [hname]

/-! ## The index agrees with the registered connections -/

/-- Under an application stand the connections that belong to it. -/
def Indexed (registry : Registry) : Prop :=
  ∀ app id, id ∈ members registry.index app ↔ registry.application? id = some app

/-- Every connection belongs to an application that has a switch. -/
def Known (registry : Registry) : Prop :=
  ∀ id ∈ registry.connections, ∃ app ∈ registry.apps, registry.application? id = some app

theorem ofApps_empty (apps : List (String × Bool)) :
    (ofApps apps).connections = ∅ ∧ (ofApps apps).index = ∅ := by
  suffices h : ∀ registry : Registry, registry.connections = ∅ ∧ registry.index = ∅ →
      let later := apps.foldl (fun registry app => registry.setEnabled app.1 app.2) registry
      later.connections = ∅ ∧ later.index = ∅ from h {} ⟨rfl, rfl⟩
  induction apps with
  | nil => exact fun registry h => h
  | cons app apps ih => exact fun registry h => ih (registry.setEnabled app.1 app.2) h

theorem ofApps_indexed (apps : List (String × Bool)) : (ofApps apps).Indexed := by
  intro app id
  simp [members, application?, (ofApps_empty apps).1, (ofApps_empty apps).2]

theorem ofApps_known (apps : List (String × Bool)) : (ofApps apps).Known := by
  intro id hid
  simp [(ofApps_empty apps).1] at hid

/-- The gate opens only for paths of applications that have a switch. -/
theorem exists_app_of_isEnabled {path : String} (h : registry.isEnabled path) :
    ∃ app ∈ registry.apps, applicationOf path = some app := by
  unfold isEnabled at h
  split at h
  · next app happ =>
      refine ⟨app, ?_, happ⟩
      rw [Std.ExtTreeMap.mem_iff_isSome_getElem?]
      cases hswitch : registry.apps[app]? with
      | none => simp [isAppEnabled, hswitch] at h
      | some enabled => rfl
  · cases h

theorem Indexed.register (h : registry.Indexed) (hnew : registry.connections[id]? = none)
    (metadata : Metadata) : (registry.register id metadata).Indexed := by
  intro app other
  rw [mem_members_register, application?_register, h app other]
  split_ifs with heq
  · -- the number is new, so it stands nowhere else
    subst heq
    simp [application?, hnew]
  · simp [heq]

theorem Known.register (h : registry.Known) {metadata : Metadata} (hmember : app ∈ registry.apps)
    (happ : applicationOf metadata.path = some app) (id : ConnectionId) :
    (registry.register id metadata).Known := by
  intro other hother
  rw [application?_register]
  split_ifs with heq
  · exact ⟨app, hmember, happ⟩
  · rw [Std.ExtTreeMap.mem_iff_isSome_getElem?, connections_register, if_neg heq,
      ← Std.ExtTreeMap.mem_iff_isSome_getElem?] at hother
    exact h other hother

theorem Known.unregister (h : registry.Known) (id : ConnectionId) :
    (registry.unregister id).Known := by
  intro other hother
  rw [Std.ExtTreeMap.mem_iff_isSome_getElem?, connections_unregister] at hother
  rw [application?_unregister, apps_unregister]
  split_ifs at hother ⊢ with heq
  · cases hother
  · exact h other (Std.ExtTreeMap.mem_iff_isSome_getElem?.mpr hother)

theorem Indexed.setEnabled (h : registry.Indexed) (app : String) (enabled : Bool) :
    (registry.setEnabled app enabled).Indexed := h

/-- Switches are never taken away. -/
theorem Known.setEnabled (h : registry.Known) (app : String) (enabled : Bool) :
    (registry.setEnabled app enabled).Known := by
  intro id hid
  obtain ⟨name, hname, happ⟩ := h id hid
  exact ⟨name, Std.ExtTreeMap.mem_insert.mpr (.inr hname), happ⟩

theorem Indexed.unregister (h : registry.Indexed) (id : ConnectionId) :
    (registry.unregister id).Indexed := by
  cases hid : registry.connections[id]? with
  | none =>
      rw [Registry.unregister, hid]
      exact h
  | some metadata =>
      intro app other
      rw [mem_members_unregister hid, application?_unregister, h app other]
      split_ifs with heq
      · subst heq
        simp [application?, hid]
      · simp [heq]

/-! ## Counting the connections of all applications -/

/-- The lists of all applications together have each connection once. -/
theorem keys_perm_flatMap (hindexed : registry.Indexed) (hknown : registry.Known) :
    registry.connections.keys.Perm (registry.apps.keys.flatMap registry.connectionsIn) := by
  refine (List.perm_ext_iff_of_nodup Std.ExtTreeMap.nodup_keys ?_).mpr ?_
  · refine List.nodup_flatMap.mpr ⟨fun app _ => connectionsIn_nodup registry app, ?_⟩
    refine Std.ExtTreeMap.nodup_keys.imp ?_
    intro first second hne id hfirst hsecond
    -- a connection belongs to one application only
    rw [mem_connectionsIn, hindexed] at hfirst hsecond
    exact hne (Option.some.inj (hfirst.symm.trans hsecond))
  · intro id
    simp only [List.mem_flatMap, Std.ExtTreeMap.mem_keys, mem_connectionsIn, hindexed _ id]
    constructor
    · exact hknown id
    · rintro ⟨app, _, happ⟩
      obtain ⟨metadata, hmetadata, _⟩ := Option.bind_eq_some_iff.mp happ
      rw [Std.ExtTreeMap.mem_iff_isSome_getElem?, hmetadata]
      rfl

theorem sum_connections_listing (hindexed : registry.Indexed) (hknown : registry.Known) :
    ((Operations.listing registry).map Operations.ScopeStatus.connections).sum = registry.size := by
  have hcounts : (Operations.listing registry).map Operations.ScopeStatus.connections =
      registry.apps.keys.map fun app => (registry.connectionsIn app).length := by
    rw [← Std.ExtTreeMap.map_fst_toList_eq_keys, List.map_map, Operations.listing, List.map_map]
    rfl
  calc ((Operations.listing registry).map Operations.ScopeStatus.connections).sum
      = (registry.apps.keys.flatMap registry.connectionsIn).length := by
        rw [hcounts, List.length_flatMap]
    _ = registry.connections.keys.length := (keys_perm_flatMap hindexed hknown).length_eq.symm
    _ = registry.size := Std.ExtTreeMap.length_keys

end SharedListener.Scope.Registry
