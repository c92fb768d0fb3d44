import Mathlib.Logic.ExistsUnique
import SharedListener.Proofs.Handshake.Grant
import SharedListener.Proofs.Router.Run
import SharedListener.Proofs.Scope.Index

/-!
# The shapes of the entries

Lifecycle, state and metadata are fields of their own, but of their combinations
only five occur once a chunk has come in, and what the buffer, the decoder and
the metadata hold follows from the shape (`HasShape`).

A chunk turns a connection of some shape, or a new one, into one of some shape
(`Shaped.receive`).  What the metadata of an upgraded connection say goes back to
the gate that let it pass, so the gates in force are a parameter here.
-/

namespace SharedListener

namespace Connection

open Handshake

/-- What may have become of a connection. -/
inductive Shape where
  /-- Its bytes may yet become a request. -/
  | waiting
  /-- Its request was turned down. -/
  | rejected
  | native
  /-- It was upgraded, and frames flow. -/
  | upgraded
  /-- It was upgraded, and has ended. -/
  | ended
deriving DecidableEq, Repr

/-- What the metadata of an upgraded connection say. -/
structure Admitted (metadata : Metadata) : Prop where
  application : ∃ app, Scope.applicationOf metadata.path = some app
  key : ∃ key, metadata.headers[Header.key.name]? = some key ∧ key ≠ ""
  mirrored : Mirrored metadata

/-- One of the gates turned down the request for `path` that `received` begins with. -/
def TurnedDown (gate : (String → Bool) → Prop) (received : Bytes) (path : String) : Prop :=
  ∃ isEnabled length, gate isEnabled ∧ HeadEnds received length ∧
    negotiate isEnabled (received.take length) = .error (.rejected path)

/-- The shape of a connection that has sent `received`. -/
inductive HasShape (settings : Settings) (gate : (String → Bool) → Prop) (received : Bytes)
    (connection : Connection) : Shape → Prop
  | waiting (hlifecycle : connection.lifecycle = .handshaking)
      (hstate : connection.state = .unclassified received) (hagree : ¬ Diverges received)
      (hblank : ¬ blankLine <:+: received)
      (hfew : received.length ≤ waitingCap settings.maxHandshakeBytes)
      (hmetadata : connection.metadata = {}) :
      HasShape settings gate received connection .waiting
  | rejected {path : String} (hlifecycle : connection.lifecycle = .closed)
      (hstate : connection.state = .unclassified []) (hmetadata : connection.metadata = { path })
      (hpath : TurnedDown gate received path) : HasShape settings gate received connection .rejected
  | native (hlifecycle : connection.lifecycle = .established)
      (hstate : connection.state = .native) (hmetadata : connection.metadata = {}) :
      HasShape settings gate received connection .native
  | upgraded {decoder : Frame.Decoder} (hlifecycle : connection.lifecycle = .established)
      (hstate : connection.state = .websocket decoder) (hmetadata : Admitted connection.metadata)
      (hpending : decoder.pending = [] ∨
        Frame.decode settings.limits decoder.pending = .ok .needMore) :
      HasShape settings gate received connection .upgraded
  | ended (hlifecycle : connection.lifecycle = .closed)
      (hstate : connection.state = .websocket ⟨[]⟩) (hmetadata : Admitted connection.metadata) :
      HasShape settings gate received connection .ended

/-! ## There is only one -/

/-- The shape that lifecycle and state point to. -/
def shape (connection : Connection) : Shape :=
  match connection.state with
  | .unclassified _ => if connection.lifecycle = .closed then .rejected else .waiting
  | .native => .native
  | .websocket _ => if connection.lifecycle = .closed then .ended else .upgraded

variable {settings : Settings} {gate : (String → Bool) → Prop} {received : Bytes}
  {exchanges : List Exchange} {connection : Connection} {shape : Shape}

theorem shape_eq_waiting {buffer : Bytes} (hstate : connection.state = .unclassified buffer)
    (hopen : connection.lifecycle ≠ .closed) : connection.shape = .waiting := by
  simp [Connection.shape, hstate, hopen]

theorem shape_eq_rejected {buffer : Bytes} (hstate : connection.state = .unclassified buffer)
    (hclosed : connection.lifecycle = .closed) : connection.shape = .rejected := by
  simp [Connection.shape, hstate, hclosed]

theorem shape_eq_native (hstate : connection.state = .native) : connection.shape = .native := by
  simp [Connection.shape, hstate]

theorem shape_eq_upgraded {decoder : Frame.Decoder}
    (hstate : connection.state = .websocket decoder) (hopen : connection.lifecycle ≠ .closed) :
    connection.shape = .upgraded := by
  simp [Connection.shape, hstate, hopen]

theorem shape_eq_ended {decoder : Frame.Decoder} (hstate : connection.state = .websocket decoder)
    (hclosed : connection.lifecycle = .closed) : connection.shape = .ended := by
  simp [Connection.shape, hstate, hclosed]

/-! The protocol of a connection leaves little choice. -/

theorem shape_of_native (h : connection.protocol = .native) : connection.shape = .native := by
  unfold protocol at h
  cases hstate : connection.state <;> rw [hstate] at h <;> cases h
  exact shape_eq_native hstate

theorem shape_of_websocket (h : connection.protocol = .websocket) :
    connection.shape = .upgraded ∨ connection.shape = .ended := by
  unfold protocol at h
  cases hstate : connection.state <;> rw [hstate] at h <;> cases h
  by_cases hclosed : connection.lifecycle = .closed
  · exact .inr (shape_eq_ended hstate hclosed)
  · exact .inl (shape_eq_upgraded hstate hclosed)

theorem shape_of_unclassified (h : connection.protocol = .unclassified)
    (hclosed : connection.lifecycle = .closed) : connection.shape = .rejected := by
  unfold protocol at h
  cases hstate : connection.state <;> rw [hstate] at h <;> cases h
  exact shape_eq_rejected hstate hclosed

theorem HasShape.eq_shape (h : HasShape settings gate received connection shape) :
    shape = connection.shape := by
  cases h with
  | waiting hlifecycle hstate => rw [shape_eq_waiting hstate (by simp [hlifecycle])]
  | rejected hlifecycle hstate => rw [shape_eq_rejected hstate hlifecycle]
  | native hlifecycle hstate => rw [shape_eq_native hstate]
  | upgraded hlifecycle hstate => rw [shape_eq_upgraded hstate (by simp [hlifecycle])]
  | ended hlifecycle hstate => rw [shape_eq_ended hstate hlifecycle]

theorem HasShape.lifecycle_ne_fresh (h : HasShape settings gate received connection shape) :
    connection.lifecycle ≠ .fresh := by
  cases h <;> simp_all

/-! ## One more chunk -/

/-- Nothing has come in, or the connection has a shape. -/
def Shaped (settings : Settings) (gate : (String → Bool) → Prop) (exchanges : List Exchange)
    (connection : Connection) : Prop :=
  exchanges = [] ∧ connection = {} ∨
    ∃ shape, HasShape settings gate (Connection.received exchanges) connection shape

namespace Shaped

theorem of_unclassified (h : Shaped settings gate exchanges connection)
    (hopen : connection.lifecycle ≠ .closed) {buffer : Bytes}
    (hstate : connection.state = .unclassified buffer) :
    buffer = Connection.received exchanges ∧ connection.metadata = {} ∧
      connection.awake.lifecycle = .handshaking := by
  rcases h with ⟨rfl, rfl⟩ | ⟨shape, hshape⟩
  · cases hstate
    exact ⟨rfl, rfl, rfl⟩
  · cases hshape with
    | waiting hlifecycle hwaiting _ _ _ hmetadata =>
        rw [hstate] at hwaiting
        exact ⟨State.unclassified.inj hwaiting, hmetadata, awake_lifecycle (.inr hlifecycle)⟩
    | rejected hclosed => exact absurd hclosed hopen
    | native _ hnative => exact State.noConfusion (hstate.symm.trans hnative)
    | upgraded _ hwebsocket => exact State.noConfusion (hstate.symm.trans hwebsocket)
    | ended hclosed => exact absurd hclosed hopen

theorem of_native (h : Shaped settings gate exchanges connection)
    (hstate : connection.state = .native) :
    connection.lifecycle = .established ∧ connection.metadata = {} := by
  rcases h with ⟨-, rfl⟩ | ⟨shape, hshape⟩
  · cases hstate
  · cases hshape with
    | native hlifecycle _ hmetadata => exact ⟨hlifecycle, hmetadata⟩
    | waiting _ hother | rejected _ hother | upgraded _ hother | ended _ hother =>
        exact State.noConfusion (hstate.symm.trans hother)

theorem of_websocket (h : Shaped settings gate exchanges connection)
    (hopen : connection.lifecycle ≠ .closed) {decoder : Frame.Decoder}
    (hstate : connection.state = .websocket decoder) :
    connection.lifecycle = .established ∧ Admitted connection.metadata := by
  rcases h with ⟨-, rfl⟩ | ⟨shape, hshape⟩
  · cases hstate
  · cases hshape with
    | upgraded hlifecycle _ hmetadata => exact ⟨hlifecycle, hmetadata⟩
    | ended hclosed => exact absurd hclosed hopen
    | waiting _ hother | rejected _ hother | native _ hother =>
        exact State.noConfusion (hstate.symm.trans hother)

/-- A connection that has ended keeps its shape, whatever else comes in. -/
theorem of_closed (h : Shaped settings gate exchanges connection)
    (hclosed : connection.lifecycle = .closed) (chunk : Bytes) :
    ∃ shape, HasShape settings gate (Connection.received exchanges ++ chunk) connection shape := by
  rcases h with ⟨-, rfl⟩ | ⟨shape, hshape⟩
  · cases hclosed
  · cases hshape with
    | rejected _ hstate hmetadata hpath =>
        -- the head of the request stays where it is
        obtain ⟨isEnabled, length, hgate, hends, hverdict⟩ := hpath
        refine ⟨_, .rejected hclosed hstate hmetadata
          ⟨isEnabled, length, hgate, hends.append chunk, ?_⟩⟩
        rwa [List.take_append_of_le_length hends.length_le]
    | ended _ hstate hmetadata => exact ⟨_, .ended hclosed hstate hmetadata⟩
    | waiting hlifecycle | native hlifecycle | upgraded hlifecycle =>
        exact Lifecycle.noConfusion (hclosed.symm.trans hlifecycle)

/-- Frames that are decoded leave the connection open with what is unfinished, or end it. -/
private theorem react {metadata : Metadata} (hmetadata : Admitted metadata)
    (settings : Settings) (gate : (String → Bool) → Prop) (received input : Bytes) :
    ∃ shape, HasShape settings gate received
      ⟨(Connection.react .established (Frame.decode settings.limits input)).2.1,
        .websocket ⟨Frame.retained (Frame.decode settings.limits input) input⟩, metadata⟩
      shape := by
  cases houtcome : Frame.decode settings.limits input with
  | error fault => exact ⟨_, .ended rfl rfl hmetadata⟩
  | ok outcome =>
      cases outcome with
      | complete payload consumed count =>
          exact ⟨_, .upgraded (react_complete _ _ _ _).2 rfl hmetadata (.inl rfl)⟩
      | needMore => exact ⟨_, .upgraded rfl rfl hmetadata (.inr houtcome)⟩
      | close => exact ⟨_, .ended rfl rfl hmetadata⟩

private theorem answer {isEnabled : String → Bool} (hgate : gate isEnabled)
    (happ : ∀ path, isEnabled path → ∃ app, Scope.applicationOf path = some app)
    (hmetadata : connection.metadata = {}) {length : Nat} (hends : HeadEnds received length)
    (behind : Bytes) :
    ∃ shape, HasShape settings gate received
      (answer settings connection received behind
        (negotiate isEnabled (received.take length))).connection shape := by
  rcases hverdict : negotiate isEnabled (received.take length) with (flaw | path) | request
  · exact ⟨_, .native rfl rfl hmetadata⟩
  · refine ⟨_, .rejected rfl rfl ?_ ⟨isEnabled, length, hgate, hends, hverdict⟩⟩
    show ({ connection.metadata with path } : Metadata) = { path }
    rw [hmetadata]
  · obtain ⟨hlive, hkey, hne, hmirrored⟩ := negotiate_eq_ok hverdict
    rw [Connection.answer, upgrade_eq]
    exact react ⟨happ _ hlive, ⟨_, hkey, hne⟩, hmirrored⟩ settings gate received behind

/-- After a chunk a connection has a shape. -/
theorem receive (h : Shaped settings gate exchanges connection) {isEnabled : String → Bool}
    (hgate : gate isEnabled)
    (happ : ∀ path, isEnabled path → ∃ app, Scope.applicationOf path = some app)
    (chunk : Bytes) :
    ∃ shape, HasShape settings gate (Connection.received exchanges ++ chunk)
      (connection.receive settings isEnabled chunk).connection shape := by
  have hmove := receive_move settings isEnabled connection chunk
  generalize connection.receive settings isEnabled chunk = step at hmove ⊢
  cases hmove with
  | ended hclosed => exact h.of_closed hclosed chunk
  | waited hopen hstate hagree hblank hfew =>
      obtain ⟨rfl, hmetadata, hlifecycle⟩ := h.of_unclassified hopen hstate
      exact ⟨_, .waiting hlifecycle rfl hagree hblank hfew (by rw [awake_metadata, hmetadata])⟩
  | turnedNative hopen hstate =>
      obtain ⟨rfl, hmetadata, _⟩ := h.of_unclassified hopen hstate
      exact ⟨_, .native rfl rfl hmetadata⟩
  | answered hopen hstate _ hends =>
      obtain ⟨rfl, hmetadata, _⟩ := h.of_unclassified hopen hstate
      exact answer hgate happ hmetadata hends _
  | copied _ hstate =>
      obtain ⟨hlifecycle, hmetadata⟩ := h.of_native hstate
      rw [awake_of_established hlifecycle]
      exact ⟨_, .native hlifecycle hstate hmetadata⟩
  | decoded hopen hstate =>
      obtain ⟨hlifecycle, hmetadata⟩ := h.of_websocket hopen hstate
      rw [awake_of_established hlifecycle, receiveFrames_eq, hlifecycle]
      exact react hmetadata settings gate _ _

end Shaped
end Connection

/-! ## Over a router -/

namespace Router

open Connection (HasShape Shaped received)

variable {id : ConnectionId}

theorem exists_app_of_gate {router : Router} {inputs : List Input} {isEnabled : String → Bool}
    (hgate : Gate router inputs isEnabled) {path : String} (h : isEnabled path) :
    ∃ app, Scope.applicationOf path = some app := by
  obtain ⟨before, _, rfl⟩ := hgate
  obtain ⟨app, _, happ⟩ := Scope.Registry.exists_app_of_isEnabled h
  exact ⟨app, happ⟩

/-- Every chunk of a run leaves a shape. -/
theorem shaped_receive {router : Router} {inputs : List Input} {isEnabled : String → Bool}
    (hgate : Gate router inputs isEnabled) {exchanges : List Connection.Exchange}
    {connection : Connection}
    (h : Shaped router.settings (Gate router inputs) exchanges connection) (chunk : Bytes) :
    Shaped router.settings (Gate router inputs)
      (exchanges ++ [⟨chunk, (connection.receive router.settings isEnabled chunk).action⟩])
      (connection.receive router.settings isEnabled chunk).connection := by
  right
  rw [Connection.received_concat]
  exact h.receive hgate (fun path hlive => exists_app_of_gate hgate hlive) chunk

theorem shaped_run (router : Router) (habsent : router.connections[id]? = none)
    (inputs : List Input) :
    Shaped router.settings (Gate router inputs) ((run router inputs).exchanges id)
      ((run router inputs).connection id) :=
  run_invariant_of_gates _ (.inl ⟨rfl, rfl⟩) habsent inputs
    fun _ hgate _ _ chunk h => shaped_receive hgate h chunk

/-- **The shapes of the entries.**  After every run over a router without entries, every entry has
exactly one of the five shapes, with all that its shape says of lifecycle, buffer or decoder, and
metadata; and no entry is as new as before its first chunk. -/
theorem run_shape (settings : Connection.Settings) (scopes : Scope.Registry) (metrics : Metrics)
    (inputs : List Input) (id : ConnectionId) :
    match (run { settings, scopes, metrics } inputs).router.connections[id]? with
    | none => (run { settings, scopes, metrics } inputs).exchanges id = []
    | some connection =>
        connection.lifecycle ≠ .fresh ∧
          ∃! shape, HasShape settings (Gate { settings, scopes, metrics } inputs)
            (received ((run { settings, scopes, metrics } inputs).exchanges id)) connection
            shape := by
  have habsent : (∅ : Std.ExtTreeMap ConnectionId Connection)[id]? = none :=
    Std.ExtTreeMap.getElem?_empty
  have hrun := shaped_run { settings, scopes, metrics } habsent inputs
  have hexchanges : (run { settings, scopes, metrics } inputs).exchanges id = [] ↔ _ :=
    exchanges_run_eq_nil_iff habsent inputs
  cases hconnection :
      (run { settings, scopes, metrics } inputs).router.connections[id]? with
  | none => exact hexchanges.mpr hconnection
  | some connection =>
      -- an entry has exchanged something, so it is no longer new
      rw [hconnection] at hexchanges
      rw [History.connection, hconnection] at hrun
      rcases hrun with ⟨hnone, _⟩ | ⟨shape, hshape⟩
      · cases hexchanges.mp hnone
      · exact ⟨hshape.lifecycle_ne_fresh, shape, hshape,
          fun other hother => hother.eq_shape.trans hshape.eq_shape.symm⟩

end Router
end SharedListener
