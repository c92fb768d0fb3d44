import Mathlib.Data.List.Induction
import SharedListener.Router
import SharedListener.Proofs.Connection.Moves

/-!
# Runs of a router

A run keeps a record of everything that was asked of a router, with what was
returned.  The exchanges of an id are the chunks of its present entry with
their actions; they begin anew when the entry is dropped.

An input concerns at most one entry (`step_receive`, `step_close`), and a chunk
is one step of the connection.  So what holds of a new connection and is kept
by every chunk holds in every run (`run_invariant`).
-/

namespace SharedListener

/-! ## Histories -/

namespace Router

open Connection (Exchange)

/-- One thing that is asked of a router. -/
inductive Input where
  | receive (id : ConnectionId) (chunk : Bytes)
  | close (id : ConnectionId)
  | setEnabled (app : String) (enabled : Bool)

/-- One thing that was asked of a router, with what it returned. -/
inductive Record where
  | received (id : ConnectionId) (chunk : Bytes) (action : Connection.Action)
  | closed (id : ConnectionId) (snapshot : Option Snapshot)
  | switched (app : String) (enabled : Bool)

/-- The exchanges of the present entry of `id` after one more record. -/
def Record.extend (id : ConnectionId) (exchanges : List Exchange) : Record → List Exchange
  | .received other chunk action =>
      if other = id then exchanges ++ [⟨chunk, action⟩] else exchanges
  | .closed other _ => if other = id then [] else exchanges
  | .switched _ _ => exchanges

/-- The exchanges of the entries of `id` that were dropped, and those of the present one, after one
more record. -/
def Record.extendAll (id : ConnectionId) (all : List (List Exchange) × List Exchange)
    (record : Record) : List (List Exchange) × List Exchange :=
  match record with
  | .closed other _ => if other = id then (all.1 ++ [all.2], []) else all
  | _ => (all.1, record.extend id all.2)

/-- A router, and what has been asked of it so far. -/
structure History where
  router : Router
  records : List Record := []

namespace History

/-- The exchanges of the present entry of `id`. -/
def exchanges (history : History) (id : ConnectionId) : List Exchange :=
  history.records.foldl (Record.extend id) []

/-- The exchanges of the entries of `id` that were dropped. -/
def dropped (history : History) (id : ConnectionId) : List (List Exchange) :=
  (history.records.foldl (Record.extendAll id) ([], [])).1

/-- The exchanges of all entries that `id` has had, those of the present one last.  Where there is
no entry, nothing was exchanged. -/
def lifetimes (history : History) (id : ConnectionId) : List (List Exchange) :=
  history.dropped id ++ [history.exchanges id]

/-- The connection `id`, which is a new one as long as it has no entry. -/
def connection (history : History) (id : ConnectionId) : Connection :=
  history.router.connections[id]?.getD {}

/-- Asks one more thing of the router. -/
def step (history : History) : Input → History
  | .receive id chunk =>
      let (action, router) := history.router.receive id chunk
      ⟨router, history.records ++ [.received id chunk action]⟩
  | .close id =>
      let (snapshot, router) := history.router.close id
      ⟨router, history.records ++ [.closed id snapshot]⟩
  | .setEnabled app enabled =>
      ⟨history.router.setEnabled app enabled, history.records ++ [.switched app enabled]⟩

end History

/-- Asks all of `inputs` of a router, in order. -/
def run (router : Router) (inputs : List Input) : History :=
  inputs.foldl History.step ⟨router, []⟩

@[simp] theorem run_nil (router : Router) : run router [] = ⟨router, []⟩ := rfl

@[simp] theorem run_concat (router : Router) (inputs : List Input) (input : Input) :
    run router (inputs ++ [input]) = (run router inputs).step input := by
  rw [run, List.foldl_append]
  rfl

/-! ## What events leave alone -/

variable {id other : ConnectionId} {chunk : Bytes}

private theorem foldl_note (router : Router) (id : ConnectionId)
    (events : List Connection.Event) :
    (events.foldl (note id) router).settings = router.settings ∧
      (events.foldl (note id) router).scopes.apps = router.scopes.apps := by
  induction events generalizing router with
  | nil => exact ⟨rfl, rfl⟩
  | cons event events ih =>
      obtain ⟨hsettings, happs⟩ := ih (note id router event)
      refine ⟨hsettings, happs.trans ?_⟩
      cases event <;> rfl

/-- Events are noted without a look at the entries. -/
theorem foldl_note_connections (router : Router) (id : ConnectionId)
    (events : List Connection.Event)
    (connections : Std.ExtTreeMap ConnectionId Connection) :
    events.foldl (note id) { router with connections } =
      { events.foldl (note id) router with connections } := by
  induction events generalizing router with
  | nil => rfl
  | cons event events ih => exact ih (note id router event)

/-- Of the router, the metrics depend on nothing but the events. -/
theorem metrics_foldl_note (router : Router) (id : ConnectionId)
    (events : List Connection.Event) :
    (events.foldl (note id) router).metrics = events.foldl count router.metrics := by
  induction events generalizing router with
  | nil => rfl
  | cons event events ih => exact ih (note id router event)

theorem receive_eq (router : Router) (id : ConnectionId) (chunk : Bytes) :
    let step := (router.connections[id]?.getD {}).receive router.settings
      router.scopes.isEnabled chunk
    router.receive id chunk =
      (step.action,
        { step.events.foldl (note id) router with
          connections := router.connections.insert id step.connection }) := by
  intro step
  rw [← foldl_note_connections]
  rfl

theorem receive_connections (router : Router) (id : ConnectionId) (chunk : Bytes) :
    (router.receive id chunk).2.connections =
      router.connections.insert id ((router.connections[id]?.getD {}).receive router.settings
        router.scopes.isEnabled chunk).connection := by
  rw [receive_eq]

theorem receive_settings (router : Router) (id : ConnectionId) (chunk : Bytes) :
    (router.receive id chunk).2.settings = router.settings :=
  (foldl_note _ id _).1

theorem receive_metrics (router : Router) (id : ConnectionId) (chunk : Bytes) :
    (router.receive id chunk).2.metrics =
      ((router.connections[id]?.getD {}).receive router.settings router.scopes.isEnabled
        chunk).events.foldl count router.metrics :=
  metrics_foldl_note _ id _

/-- Upgrades are noted in the registry, but the switches stay. -/
theorem receive_apps (router : Router) (id : ConnectionId) (chunk : Bytes) :
    (router.receive id chunk).2.scopes.apps = router.scopes.apps :=
  (foldl_note _ id _).2

theorem receive_isEnabled (router : Router) (id : ConnectionId) (chunk : Bytes) :
    (router.receive id chunk).2.scopes.isEnabled = router.scopes.isEnabled := by
  funext path
  unfold Scope.Registry.isEnabled Scope.Registry.isAppEnabled
  rw [receive_apps]

theorem close_settings (router : Router) (id : ConnectionId) :
    (router.close id).2.settings = router.settings := by
  unfold close
  split <;> rfl

theorem close_metrics (router : Router) (id : ConnectionId) :
    (router.close id).2.metrics = router.metrics := by
  unfold close
  split <;> rfl

theorem close_connections (router : Router) (id : ConnectionId) :
    (router.close id).2.connections[other]? =
      if id = other then none else router.connections[other]? := by
  unfold close
  cases h : router.connections[id]? with
  | none =>
      split_ifs with heq
      · rw [← heq]
        exact h
      · rfl
  | some connection => simp [Std.ExtTreeMap.getElem?_erase]

/-! ## One more input -/

namespace History

theorem step_receive (history : History) (id : ConnectionId) (chunk : Bytes) :
    (history.step (.receive id chunk)).router.connections[other]? =
      if id = other then
        some ((history.connection id).receive history.router.settings
          history.router.scopes.isEnabled chunk).connection
      else history.router.connections[other]? := by
  show (history.router.receive id chunk).2.connections[other]? = _
  rw [receive_connections, Std.ExtTreeMap.getElem?_insert]
  simp only [Std.LawfulEqCmp.compare_eq_iff_eq]
  rfl

theorem connection_step_receive (history : History) (id : ConnectionId) (chunk : Bytes) :
    (history.step (.receive id chunk)).connection id =
      ((history.connection id).receive history.router.settings history.router.scopes.isEnabled
        chunk).connection := by
  show (history.step (.receive id chunk)).router.connections[id]?.getD {} = _
  rw [step_receive, if_pos rfl]
  rfl

theorem step_close (history : History) (id : ConnectionId) :
    (history.step (.close id)).router.connections[other]? =
      if id = other then none else history.router.connections[other]? :=
  close_connections history.router id

theorem exchanges_step_receive (history : History) (id : ConnectionId) (chunk : Bytes) :
    (history.step (.receive id chunk)).exchanges other =
      if id = other then
        history.exchanges other ++ [⟨chunk, ((history.connection id).receive
          history.router.settings history.router.scopes.isEnabled chunk).action⟩]
      else history.exchanges other := by
  show (history.records ++ [_]).foldl (Record.extend other) [] = _
  rw [List.foldl_append]
  rfl

theorem exchanges_step_close (history : History) (id : ConnectionId) :
    (history.step (.close id)).exchanges other =
      if id = other then [] else history.exchanges other := by
  show (history.records ++ [_]).foldl (Record.extend other) [] = _
  rw [List.foldl_append]
  rfl

theorem exchanges_step_setEnabled (history : History) (app : String) (enabled : Bool) :
    (history.step (.setEnabled app enabled)).exchanges id = history.exchanges id := by
  show (history.records ++ [_]).foldl (Record.extend id) [] = _
  rw [List.foldl_append]
  rfl

theorem step_settings (history : History) (input : Input) :
    (history.step input).router.settings = history.router.settings := by
  cases input with
  | receive id chunk => exact receive_settings history.router id chunk
  | close id => exact close_settings history.router id
  | setEnabled app enabled => rfl

end History

/-! ## Whole runs -/

theorem run_settings (router : Router) (inputs : List Input) :
    (run router inputs).router.settings = router.settings := by
  induction inputs using List.reverseRecOn with
  | nil => rfl
  | append_singleton inputs input ih => rw [run_concat, History.step_settings, ih]

/-- An id has an entry exactly if it has exchanged something. -/
theorem exchanges_run_eq_nil_iff {router : Router} (habsent : router.connections[id]? = none)
    (inputs : List Input) :
    (run router inputs).exchanges id = [] ↔
      (run router inputs).router.connections[id]? = none := by
  induction inputs using List.reverseRecOn with
  | nil => exact iff_of_true rfl habsent
  | append_singleton inputs input ih =>
      rw [run_concat]
      cases input with
      | receive other chunk =>
          rw [History.exchanges_step_receive, History.step_receive]
          split_ifs with heq
          · simp
          · exact ih
      | close other =>
          rw [History.exchanges_step_close, History.step_close]
          split_ifs with heq
          · exact iff_of_true rfl rfl
          · exact ih
      | setEnabled app enabled =>
          rw [History.exchanges_step_setEnabled]
          exact ih

private theorem foldl_extendAll (records : List Record) :
    (records.foldl (Record.extendAll id) ([], [])).2 = records.foldl (Record.extend id) [] := by
  induction records using List.reverseRecOn with
  | nil => rfl
  | append_singleton records record ih =>
      rw [List.foldl_append, List.foldl_append, List.foldl_cons, List.foldl_cons, List.foldl_nil,
        List.foldl_nil, ← ih]
      cases record with
      | received other chunk action => rfl
      | closed other snapshot =>
          simp only [Record.extendAll, Record.extend]
          split_ifs <;> rfl
      | switched app enabled => rfl

theorem History.dropped_step_close (history : History) (other : ConnectionId) :
    (history.step (.close other)).dropped id =
      if other = id then history.dropped id ++ [history.exchanges id] else history.dropped id := by
  show ((history.records ++ [_]).foldl (Record.extendAll id) ([], [])).1 = _
  rw [List.foldl_append, List.foldl_cons, List.foldl_nil, History.exchanges, ← foldl_extendAll,
    Record.extendAll]
  split_ifs <;> rfl

/-- What was exchanged with some entry of an id was, at some moment of the run, what was exchanged
with its present entry. -/
theorem exists_prefix_of_mem_lifetimes {router : Router} {inputs : List Input}
    {lifetime : List Exchange} (h : lifetime ∈ (run router inputs).lifetimes id) :
    ∃ before, before <+: inputs ∧ lifetime = (run router before).exchanges id := by
  rw [History.lifetimes, List.mem_append, List.mem_singleton] at h
  rcases h with hdropped | hpresent
  swap
  · exact ⟨inputs, List.prefix_refl _, hpresent⟩
  induction inputs using List.reverseRecOn with
  | nil => cases hdropped
  | append_singleton inputs input ih =>
      have hbefore : inputs <+: inputs ++ [input] := List.prefix_append _ _
      rw [run_concat] at hdropped
      have hcases : lifetime ∈ (run router inputs).dropped id ∨
          lifetime = (run router inputs).exchanges id := by
        cases input with
        | receive other chunk =>
            exact .inl (by simpa [History.dropped, History.step, Record.extendAll] using hdropped)
        | close other =>
            rw [History.dropped_step_close] at hdropped
            split_ifs at hdropped
            · rwa [List.mem_append, List.mem_singleton] at hdropped
            · exact .inl hdropped
        | setEnabled app enabled =>
            exact .inl (by simpa [History.dropped, History.step, Record.extendAll] using hdropped)
      rcases hcases with hearlier | hpresent
      · obtain ⟨before, hprefix, heq⟩ := ih hearlier
        exact ⟨before, hprefix.trans hbefore, heq⟩
      · exact ⟨inputs, hbefore, hpresent⟩

/-- The gate of the router at some moment of a run. -/
def Gate (router : Router) (inputs : List Input) (isEnabled : String → Bool) : Prop :=
  ∃ before, before <+: inputs ∧ (run router before).router.scopes.isEnabled = isEnabled

/-- **Induction over the life of a connection.**  What holds of a new connection and is kept by
every chunk, whichever gate of the run is in force then, holds of every connection after the run. -/
theorem run_invariant_of_gates (Holds : List Exchange → Connection → Prop) {router : Router}
    (hnew : Holds [] {}) (habsent : router.connections[id]? = none) (inputs : List Input)
    (hreceive : ∀ isEnabled, Gate router inputs isEnabled →
      ∀ exchanges connection chunk, Holds exchanges connection →
      Holds (exchanges ++ [⟨chunk, (connection.receive router.settings isEnabled chunk).action⟩])
        (connection.receive router.settings isEnabled chunk).connection) :
    Holds ((run router inputs).exchanges id) ((run router inputs).connection id) := by
  induction inputs using List.reverseRecOn with
  | nil =>
      rw [run_nil, History.connection, habsent]
      exact hnew
  | append_singleton inputs input ih =>
      have hbefore : inputs <+: inputs ++ [input] := List.prefix_append _ _
      have hholds := ih fun isEnabled hgate => by
        obtain ⟨before, hprefix, heq⟩ := hgate
        exact hreceive isEnabled ⟨before, hprefix.trans hbefore, heq⟩
      rw [run_concat, History.connection]
      cases input with
      | receive other chunk =>
          rw [History.exchanges_step_receive, History.step_receive]
          split_ifs with heq
          · subst heq
            rw [run_settings]
            exact hreceive _ ⟨inputs, hbefore, rfl⟩ _ _ chunk hholds
          · exact hholds
      | close other =>
          rw [History.exchanges_step_close, History.step_close]
          split_ifs with heq
          · exact hnew
          · exact hholds
      | setEnabled app enabled =>
          rw [History.exchanges_step_setEnabled]
          exact hholds

/-- The same for what is kept by every chunk under any gate. -/
theorem run_invariant (Holds : List Exchange → Connection → Prop) {router : Router}
    (hnew : Holds [] {})
    (hreceive : ∀ isEnabled exchanges connection chunk, Holds exchanges connection →
      Holds (exchanges ++ [⟨chunk, (connection.receive router.settings isEnabled chunk).action⟩])
        (connection.receive router.settings isEnabled chunk).connection)
    (habsent : router.connections[id]? = none) (inputs : List Input) :
    Holds ((run router inputs).exchanges id) ((run router inputs).connection id) :=
  run_invariant_of_gates Holds hnew habsent inputs fun isEnabled _ => hreceive isEnabled

end Router
end SharedListener
