import Mathlib.Algebra.BigOperators.Group.List.Basic
import Mathlib.Data.List.Nodup
import SharedListener.Proofs.Router.Run

/-!
# The lives of all entries

An entry lives from its first chunk until it is dropped, or to the end of the
run.  `lives` lists all of them, those that are over and those that go on, each
with all that was exchanged and with the connection as it was last.

A chunk goes to one life, which it may begin, and leaves the others as they are
(`lives_receive`).  Dropping an entry ends a life and changes none
(`lives_close`).  So every exchange of a run belongs to one life
(`flatMap_exchanges_lives`), and a sum over all lives grows by what a chunk adds
to one of them (`sum_lives_receive`).
-/

namespace SharedListener.Router

open Connection (Exchange)

/-- The entry of one key, and the entries of all others. -/
private theorem toList_perm_cons_erase {connections : Std.ExtTreeMap ConnectionId Connection}
    {id : ConnectionId} {connection : Connection} (h : connections[id]? = some connection) :
    connections.toList.Perm ((id, connection) :: (connections.erase id).toList) := by
  have hnodup (map : Std.ExtTreeMap ConnectionId Connection) : map.toList.Nodup := by
    have hkeys : map.keys.Nodup := Std.ExtTreeMap.nodup_keys
    rw [← Std.ExtTreeMap.map_fst_toList_eq_keys] at hkeys
    exact List.Nodup.of_map Prod.fst hkeys
  refine (List.perm_ext_iff_of_nodup (hnodup _) (List.nodup_cons.mpr ⟨?_, hnodup _⟩)).mpr ?_
  · simp [Std.ExtTreeMap.mem_toList_iff_getElem?_eq_some]
  · rintro ⟨other, found⟩
    rw [List.mem_cons, Std.ExtTreeMap.mem_toList_iff_getElem?_eq_some,
      Std.ExtTreeMap.mem_toList_iff_getElem?_eq_some, Std.ExtTreeMap.getElem?_erase]
    by_cases heq : id = other
    · subst heq
      simp [h, eq_comm]
    · simp [heq, Ne.symm heq]

/-! ## Lives -/

/-- One entry: all that was exchanged, and the connection as it was last. -/
structure Life where
  exchanges : List Exchange
  connection : Connection

/-- The life that has not begun. -/
def Life.new : Life := ⟨[], {}⟩

/-- A life after one more chunk. -/
def Life.next (settings : Connection.Settings) (isEnabled : String → Bool) (life : Life)
    (chunk : Bytes) : Life :=
  let step := life.connection.receive settings isEnabled chunk
  ⟨life.exchanges ++ [⟨chunk, step.action⟩], step.connection⟩

namespace History

/-- The life of `id` so far, which has not begun as long as there is no entry. -/
def current (history : History) (id : ConnectionId) : Life :=
  ⟨history.exchanges id, history.connection id⟩

def livesIn (history : History) (connections : Std.ExtTreeMap ConnectionId Connection) :
    List Life :=
  connections.toList.map fun entry => ⟨history.exchanges entry.1, entry.2⟩

/-- The life that an input ends, if it ends one. -/
def endedBy (history : History) : Input → List Life
  | .close id => if id ∈ history.router.connections then [history.current id] else []
  | .receive _ _ | .setEnabled _ _ => []

/-- The lives that these inputs end, in order. -/
def past (history : History) : List Input → List Life
  | [] => []
  | input :: inputs => history.endedBy input ++ (history.step input).past inputs

end History

/-- All lives of a run: those that are over, and those of the entries that are left. -/
def lives (router : Router) (inputs : List Input) : List Life :=
  History.past ⟨router, []⟩ inputs ++
    (run router inputs).livesIn (run router inputs).router.connections

variable {router : Router} {inputs : List Input} {id : ConnectionId} {chunk : Bytes}

namespace History

theorem past_concat (history : History) (inputs : List Input) (input : Input) :
    history.past (inputs ++ [input]) =
      history.past inputs ++ (inputs.foldl step history).endedBy input := by
  induction inputs generalizing history with
  | nil => simp [past]
  | cons first inputs ih =>
      rw [List.cons_append, past, past, ih, List.append_assoc]
      rfl

theorem current_step_receive (history : History) (id : ConnectionId) (chunk : Bytes) :
    (history.step (.receive id chunk)).current id =
      (history.current id).next history.router.settings history.router.scopes.isEnabled chunk := by
  rw [current, exchanges_step_receive, if_pos rfl, connection_step_receive]
  rfl

/-- The life of one entry, and the lives of the others. -/
theorem livesIn_perm (history : History) {id : ConnectionId} {connection : Connection}
    {connections : Std.ExtTreeMap ConnectionId Connection}
    (h : connections[id]? = some connection) :
    (history.livesIn connections).Perm
      (⟨history.exchanges id, connection⟩ :: history.livesIn (connections.erase id)) :=
  (toList_perm_cons_erase h).map _

/-- What is done for `id` leaves the lives of the others as they are. -/
theorem livesIn_erase_congr {history later : History}
    (hexchanges : ∀ other, id ≠ other → later.exchanges other = history.exchanges other)
    (hconnections : ∀ other, id ≠ other →
      later.router.connections[other]? = history.router.connections[other]?) :
    later.livesIn (later.router.connections.erase id) =
      history.livesIn (history.router.connections.erase id) := by
  have hsame : later.router.connections.erase id = history.router.connections.erase id := by
    refine Std.ExtTreeMap.ext_getElem? fun other => ?_
    rw [Std.ExtTreeMap.getElem?_erase, Std.ExtTreeMap.getElem?_erase]
    simp only [Std.LawfulEqCmp.compare_eq_iff_eq]
    split_ifs with heq
    · rfl
    · exact hconnections other heq
  rw [hsame]
  refine List.map_congr_left fun entry hentry => ?_
  have hother : id ≠ entry.1 := by
    rintro rfl
    have hfound := Std.ExtTreeMap.mem_toList_iff_getElem?_eq_some.mp hentry
    rw [Std.ExtTreeMap.getElem?_erase_self] at hfound
    cases hfound
  rw [hexchanges entry.1 hother]

end History

/-! ## One more input -/

private theorem lives_perm {connection : Connection}
    (h : (run router inputs).router.connections[id]? = some connection) :
    (lives router inputs).Perm ((run router inputs).current id ::
      (History.past ⟨router, []⟩ inputs ++
        (run router inputs).livesIn ((run router inputs).router.connections.erase id))) := by
  have hcurrent : (run router inputs).current id =
      ⟨(run router inputs).exchanges id, connection⟩ := by
    rw [History.current, History.connection, h]
    rfl
  rw [hcurrent]
  exact ((History.livesIn_perm _ h).append_left _).trans List.perm_middle

private theorem erase_of_absent
    (h : (run router inputs).router.connections[id]? = none) :
    (run router inputs).router.connections.erase id = (run router inputs).router.connections := by
  refine Std.ExtTreeMap.ext_getElem? fun other => ?_
  rw [Std.ExtTreeMap.getElem?_erase]
  simp only [Std.LawfulEqCmp.compare_eq_iff_eq]
  split_ifs with heq
  · rw [← heq, h]
  · rfl

theorem absent_of_empty (hempty : router.connections = ∅) (id : ConnectionId) :
    router.connections[id]? = none := by
  rw [hempty]
  exact Std.ExtTreeMap.getElem?_empty

theorem lives_nil (hempty : router.connections = ∅) : lives router [] = [] := by
  simp [lives, History.past, History.livesIn, hempty]

/-- A chunk goes on with one life, or begins one, and leaves the others as they are. -/
theorem lives_receive (habsent : router.connections[id]? = none) (inputs : List Input)
    (chunk : Bytes) :
    ∃ rest, (lives router (inputs ++ [.receive id chunk])).Perm
        (((run router inputs).current id).next (run router inputs).router.settings
          (run router inputs).router.scopes.isEnabled chunk :: rest) ∧
      ((lives router inputs).Perm ((run router inputs).current id :: rest) ∨
        (run router inputs).current id = .new ∧ lives router inputs = rest) := by
  obtain ⟨connection, hentry⟩ : ∃ connection,
      (run router (inputs ++ [.receive id chunk])).router.connections[id]? = some connection := by
    rw [run_concat, History.step_receive, if_pos rfl]
    exact ⟨_, rfl⟩
  have hothers : (run router (inputs ++ [.receive id chunk])).livesIn
      ((run router (inputs ++ [.receive id chunk])).router.connections.erase id) =
      (run router inputs).livesIn ((run router inputs).router.connections.erase id) := by
    rw [run_concat]
    refine History.livesIn_erase_congr ?_ ?_
    · intro other hother
      rw [History.exchanges_step_receive, if_neg hother]
    · intro other hother
      rw [History.step_receive, if_neg hother]
  have hlater := lives_perm hentry
  rw [hothers, History.past_concat, History.endedBy, List.append_nil, run_concat,
    History.current_step_receive] at hlater
  refine ⟨_, hlater, ?_⟩
  cases h : (run router inputs).router.connections[id]? with
  | some connection => exact .inl (lives_perm h)
  | none =>
      refine .inr ⟨?_, ?_⟩
      · rw [History.current, History.connection, h,
          (exchanges_run_eq_nil_iff habsent inputs).mpr h]
        rfl
      · rw [erase_of_absent h]
        rfl

/-- Dropping an entry ends a life, and changes none. -/
theorem lives_close (router : Router) (inputs : List Input) (id : ConnectionId) :
    (lives router (inputs ++ [.close id])).Perm (lives router inputs) := by
  have hothers : (run router (inputs ++ [.close id])).livesIn
      ((run router (inputs ++ [.close id])).router.connections.erase id) =
      (run router inputs).livesIn ((run router inputs).router.connections.erase id) := by
    rw [run_concat]
    refine History.livesIn_erase_congr ?_ ?_
    · intro other hother
      rw [History.exchanges_step_close, if_neg hother]
    · intro other hother
      rw [History.step_close, if_neg hother]
  have hentry : (run router (inputs ++ [.close id])).router.connections[id]? = none := by
    rw [run_concat, History.step_close, if_pos rfl]
  have hended : History.endedBy (inputs.foldl History.step ⟨router, []⟩) (.close id) =
      if id ∈ (run router inputs).router.connections then [(run router inputs).current id]
      else [] := rfl
  rw [lives, History.past_concat, ← erase_of_absent hentry, hothers, hended]
  cases h : (run router inputs).router.connections[id]? with
  | some connection =>
      have hmem : id ∈ (run router inputs).router.connections := by
        simp [Std.ExtTreeMap.mem_iff_isSome_getElem?, h]
      rw [if_pos hmem, List.append_assoc]
      exact List.perm_middle.trans (lives_perm h).symm
  | none =>
      have hmem : id ∉ (run router inputs).router.connections := by
        simp [Std.ExtTreeMap.mem_iff_isSome_getElem?, h]
      rw [if_neg hmem, List.append_nil, erase_of_absent h]
      exact List.Perm.refl _

theorem lives_setEnabled (router : Router) (inputs : List Input) (app : String)
    (enabled : Bool) :
    lives router (inputs ++ [.setEnabled app enabled]) = lives router inputs := by
  rw [lives, History.past_concat, run_concat, lives]
  have hexchanges : ((run router inputs).step (.setEnabled app enabled)).exchanges =
      (run router inputs).exchanges := by
    funext id
    exact History.exchanges_step_setEnabled _ _ _
  simp only [History.livesIn, hexchanges, History.endedBy, List.append_nil]
  rfl

/-! ## Whole runs -/

/-- A sum over all lives grows by what a chunk adds to one of them. -/
theorem sum_lives_receive (habsent : router.connections[id]? = none) (inputs : List Input)
    (chunk : Bytes) (measure : Life → ℕ) (hnew : measure .new = 0) {amount : ℕ}
    (hamount : measure (((run router inputs).current id).next (run router inputs).router.settings
        (run router inputs).router.scopes.isEnabled chunk) =
      measure ((run router inputs).current id) + amount) :
    ((lives router (inputs ++ [.receive id chunk])).map measure).sum =
      ((lives router inputs).map measure).sum + amount := by
  obtain ⟨rest, hafter, hbefore⟩ := lives_receive habsent inputs chunk
  have hsplit : ((lives router inputs).map measure).sum =
      measure ((run router inputs).current id) + (rest.map measure).sum := by
    rcases hbefore with hperm | ⟨hbegun, rfl⟩
    · rw [(hperm.map measure).sum_eq, List.map_cons, List.sum_cons]
    · rw [hbegun, hnew, Nat.zero_add]
  rw [(hafter.map measure).sum_eq, List.map_cons, List.sum_cons, hamount, hsplit]
  omega

/-- A run has no more lives than inputs. -/
theorem length_lives_le (hempty : router.connections = ∅) (inputs : List Input) :
    (lives router inputs).length ≤ inputs.length := by
  induction inputs using List.reverseRecOn with
  | nil => simp [lives_nil hempty]
  | append_singleton inputs input ih =>
      rw [List.length_append, List.length_singleton]
      cases input with
      | close id =>
          rw [(lives_close router inputs id).length_eq]
          omega
      | setEnabled app enabled =>
          rw [lives_setEnabled]
          omega
      | receive id chunk =>
          obtain ⟨rest, hafter, hbefore⟩ := lives_receive (absent_of_empty hempty id) inputs chunk
          have hlength := hafter.length_eq
          rcases hbefore with hperm | ⟨-, rfl⟩
          · have hsame := hperm.length_eq
            simp only [List.length_cons] at hlength hsame
            omega
          · rw [List.length_cons] at hlength
            omega

private theorem mem_endedBy {history : History} {input : Input} {life : Life}
    (h : life ∈ history.endedBy input) : ∃ id, life = history.current id := by
  cases input with
  | close id =>
      rw [History.endedBy] at h
      split_ifs at h
      · exact ⟨id, List.mem_singleton.mp h⟩
      · cases h
  | receive | setEnabled => cases h

/-- Every life was, at some moment of the run, the present one of its id. -/
theorem exists_prefix_of_mem_lives {life : Life} (h : life ∈ lives router inputs) :
    ∃ before id, before <+: inputs ∧ life = (run router before).current id := by
  rcases List.mem_append.mp h with hpast | hpresent
  · -- the life ended with an input of its own
    clear h
    induction inputs using List.reverseRecOn with
    | nil => cases hpast
    | append_singleton inputs input ih =>
        rw [History.past_concat, List.mem_append] at hpast
        rcases hpast with hearlier | hlast
        · obtain ⟨before, id, hbefore, rfl⟩ := ih hearlier
          exact ⟨before, id, hbefore.trans (List.prefix_append _ _), rfl⟩
        · obtain ⟨id, rfl⟩ := mem_endedBy hlast
          exact ⟨inputs, id, List.prefix_append _ _, rfl⟩
  · obtain ⟨⟨id, connection⟩, hentry, rfl⟩ := List.mem_map.mp hpresent
    refine ⟨inputs, id, List.prefix_refl _, ?_⟩
    rw [History.current, History.connection,
      Std.ExtTreeMap.mem_toList_iff_getElem?_eq_some.mp hentry]
    rfl

/-! ## All that was exchanged -/

def Record.exchange? : Record → Option Exchange
  | .received _ chunk action => some ⟨chunk, action⟩
  | .closed _ _ | .switched _ _ => none

namespace History

/-- All chunks that came in, each with its action, in order. -/
def exchanged (history : History) : List Exchange :=
  history.records.filterMap Record.exchange?

theorem exchanged_step_receive (history : History) (id : ConnectionId) (chunk : Bytes) :
    (history.step (.receive id chunk)).exchanged = history.exchanged ++
      [⟨chunk, ((history.connection id).receive history.router.settings
        history.router.scopes.isEnabled chunk).action⟩] := by
  show (history.records ++ [_]).filterMap _ = _
  rw [List.filterMap_append]
  rfl

theorem exchanged_step_close (history : History) (id : ConnectionId) :
    (history.step (.close id)).exchanged = history.exchanged := by
  show (history.records ++ [_]).filterMap _ = _
  rw [List.filterMap_append]
  exact List.append_nil _

theorem exchanged_step_setEnabled (history : History) (app : String) (enabled : Bool) :
    (history.step (.setEnabled app enabled)).exchanged = history.exchanged := by
  show (history.records ++ [_]).filterMap _ = _
  rw [List.filterMap_append]
  exact List.append_nil _

end History

/-- A run returns no more actions than it has inputs. -/
theorem length_exchanged_le (router : Router) (inputs : List Input) :
    (run router inputs).exchanged.length ≤ inputs.length := by
  induction inputs using List.reverseRecOn with
  | nil => exact Nat.le_refl 0
  | append_singleton inputs input ih =>
      rw [run_concat, List.length_append, List.length_singleton]
      cases input with
      | receive id chunk =>
          rw [History.exchanged_step_receive, List.length_append, List.length_singleton]
          omega
      | close id =>
          rw [History.exchanged_step_close]
          omega
      | setEnabled app enabled =>
          rw [History.exchanged_step_setEnabled]
          omega

open List in
/-- Whatever a run exchanged belongs to one life. -/
theorem flatMap_exchanges_lives (hempty : router.connections = ∅) (inputs : List Input) :
    ((lives router inputs).flatMap Life.exchanges).Perm (run router inputs).exchanged := by
  induction inputs using List.reverseRecOn with
  | nil =>
      rw [lives_nil hempty]
      exact List.Perm.nil
  | append_singleton inputs input ih =>
      rw [run_concat]
      cases input with
      | close id =>
          rw [History.exchanged_step_close]
          exact ((lives_close router inputs id).flatMap_right _).trans ih
      | setEnabled app enabled =>
          rw [lives_setEnabled, History.exchanged_step_setEnabled]
          exact ih
      | receive id chunk =>
          obtain ⟨rest, hafter, hbefore⟩ := lives_receive (absent_of_empty hempty id) inputs chunk
          have hsplit : (lives router inputs).flatMap Life.exchanges ~
              (run router inputs).exchanges id ++ rest.flatMap Life.exchanges := by
            rcases hbefore with hperm | ⟨hbegun, rfl⟩
            · exact hperm.flatMap_right _
            · rw [show (run router inputs).exchanges id = [] from congrArg Life.exchanges hbegun]
              exact Perm.refl _
          rw [History.exchanged_step_receive]
          -- the new exchange is the last one of its life
          calc (lives router (inputs ++ [.receive id chunk])).flatMap Life.exchanges
            _ ~ (run router inputs).exchanges id ++ [_] ++ rest.flatMap Life.exchanges :=
                hafter.flatMap_right _
            _ ~ (run router inputs).exchanges id ++ rest.flatMap Life.exchanges ++ [_] := by
                rw [append_assoc, append_assoc]
                exact perm_append_comm.append_left _
            _ ~ (run router inputs).exchanged ++ [_] := (hsplit.symm.trans ih).append_right _

end SharedListener.Router
