import SharedListener.Proofs.Router.Run

/-!
# No byte is lost

Bytes wait in the buffer until the protocol is known, and in a decoder until a
frame boundary comes in; those behind the head of a request go straight to the
decoder.  `Balance` says for each state of a connection where the bytes are that
came in, and every chunk keeps it (`Balance.receive`).

A WebSocket connection that has ended is left out, since the data in front of a
close frame is discarded.
-/

namespace SharedListener

open Handshake (HeadEnds)

namespace Connection

variable {limits : Frame.Limits} {bytes data : Bytes} {connection : Connection}

/-! ## The balance of a connection -/

/-- Where the bytes are that came in, of which `data` has been handed on. -/
inductive Balance (limits : Frame.Limits) (bytes data : Bytes) (connection : Connection) : Prop
  /-- All of them wait. -/
  | waiting (hlifecycle : connection.lifecycle = .fresh ∨ connection.lifecycle = .handshaking)
      (hstate : connection.state = .unclassified bytes) (hdata : data = [])
  /-- All of them have been handed on. -/
  | native (hlifecycle : connection.lifecycle = .established)
      (hstate : connection.state = .native) (hdata : data = bytes)
  /-- The frames behind the head have been handed on, and the decoder keeps the rest. -/
  | websocket {head : Bytes} {frames : List Frame} {decoder : Frame.Decoder}
      (hlifecycle : connection.lifecycle = .established)
      (hstate : connection.state = .websocket decoder) (hends : HeadEnds bytes head.length)
      (hlegal : Frame.AllLegal limits frames)
      (hbytes : bytes = head ++ (Frame.wires frames ++ decoder.pending))
      (hdata : data = Frame.data limits.control frames)
  /-- Nothing is owed to a connection that has ended. -/
  | ended (hlifecycle : connection.lifecycle = .closed) (hstate : connection.state ≠ .native)

namespace Balance

theorem new (limits : Frame.Limits) : Balance limits [] [] {} :=
  .waiting (.inl rfl) rfl rfl

theorem of_unclassified (h : Balance limits bytes data connection)
    (hopen : connection.lifecycle ≠ .closed) {buffer : Bytes}
    (hstate : connection.state = .unclassified buffer) :
    connection.awake.lifecycle = .handshaking ∧ buffer = bytes ∧ data = [] := by
  cases h with
  | waiting hlifecycle hwaiting hdata =>
      rw [hstate] at hwaiting
      exact ⟨awake_lifecycle hlifecycle, State.unclassified.inj hwaiting, hdata⟩
  | native _ hnative _ => exact State.noConfusion (hstate.symm.trans hnative)
  | websocket _ hwebsocket _ _ _ _ => exact State.noConfusion (hstate.symm.trans hwebsocket)
  | ended hclosed _ => exact absurd hclosed hopen

theorem of_native (h : Balance limits bytes data connection)
    (hstate : connection.state = .native) :
    connection.lifecycle = .established ∧ data = bytes := by
  cases h with
  | waiting _ hwaiting _ => exact State.noConfusion (hstate.symm.trans hwaiting)
  | native hlifecycle _ hdata => exact ⟨hlifecycle, hdata⟩
  | websocket _ hwebsocket _ _ _ _ => exact State.noConfusion (hstate.symm.trans hwebsocket)
  | ended _ hother => exact absurd hstate hother

theorem of_websocket (h : Balance limits bytes data connection)
    (hopen : connection.lifecycle ≠ .closed) {decoder : Frame.Decoder}
    (hstate : connection.state = .websocket decoder) :
    connection.lifecycle = .established ∧ ∃ head frames, HeadEnds bytes head.length ∧
      Frame.AllLegal limits frames ∧
      bytes = head ++ (Frame.wires frames ++ decoder.pending) ∧
      data = Frame.data limits.control frames := by
  cases h with
  | waiting _ hwaiting _ => exact State.noConfusion (hstate.symm.trans hwaiting)
  | native _ hnative _ => exact State.noConfusion (hstate.symm.trans hnative)
  | websocket hlifecycle hwebsocket hends hlegal hbytes hdata =>
      rw [hstate] at hwebsocket
      cases hwebsocket
      exact ⟨hlifecycle, _, _, hends, hlegal, hbytes, hdata⟩
  | ended hclosed _ => exact absurd hclosed hopen

/-! ## One more chunk -/

/-- Frames that were handed on, and more bytes that are decoded behind them. -/
private theorem frames_then (limits : Frame.Limits) (head : Bytes) (frames : List Frame)
    (input : Bytes) (metadata : Metadata) (hends : HeadEnds bytes head.length)
    (hlegal : Frame.AllLegal limits frames)
    (hbytes : bytes = head ++ (Frame.wires frames ++ input)) :
    Balance limits bytes
      (Frame.data limits.control frames ++
        (react .established (Frame.decode limits input)).1.payload)
      ⟨(react .established (Frame.decode limits input)).2.1,
        .websocket ⟨Frame.retained (Frame.decode limits input) input⟩, metadata⟩ := by
  rcases react_decode limits .established input with ⟨more, hmore, hinput, hpayload, hlifecycle⟩ |
    hclosed
  · refine .websocket hlifecycle rfl hends (hlegal.append hmore) ?_ ?_
    · calc bytes = head ++ (Frame.wires frames ++ input) := hbytes
        _ = head ++ (Frame.wires frames ++ (Frame.wires more ++
              Frame.retained (Frame.decode limits input) input)) := by rw [← hinput]
        _ = _ := by rw [Frame.wires_append, List.append_assoc]
    · rw [hpayload, Frame.data_append]
  · exact .ended hclosed State.noConfusion

private theorem answer (settings : Settings) (connection : Connection) {length : Nat}
    (hends : HeadEnds bytes length)
    (verdict : Except Handshake.Refusal Handshake.Request) :
    Balance settings.limits bytes
      (connection.answer settings bytes (bytes.drop length) verdict).action.payload
      (connection.answer settings bytes (bytes.drop length) verdict).connection := by
  rcases verdict with (flaw | path) | request
  · exact .native rfl rfl rfl
  · exact .ended rfl State.noConfusion
  · -- no frames have been handed on yet, and all that is behind the head is decoded
    have hlength : (bytes.take length).length = length :=
      List.length_take_of_le hends.length_le
    have hbytes : bytes = bytes.take length ++ (Frame.wires [] ++ bytes.drop length) :=
      (List.take_append_drop length bytes).symm
    have hbehind := frames_then settings.limits (bytes.take length) [] (bytes.drop length)
      request.metadata (by rwa [hlength]) (Frame.allLegal_nil _) hbytes
    rw [Frame.data_nil, List.nil_append] at hbehind
    rw [Connection.answer, upgrade_eq]
    simpa only [Action.payload_upgrade] using hbehind

/-- A chunk keeps the balance. -/
theorem receive {settings : Settings} (h : Balance settings.limits bytes data connection)
    (isEnabled : String → Bool) (chunk : Bytes) :
    Balance settings.limits (bytes ++ chunk)
      (data ++ (connection.receive settings isEnabled chunk).action.payload)
      (connection.receive settings isEnabled chunk).connection := by
  have hmove := receive_move settings isEnabled connection chunk
  generalize connection.receive settings isEnabled chunk = step at hmove ⊢
  cases hmove with
  | ended hclosed =>
      refine .ended hclosed fun hnative => ?_
      rw [(h.of_native hnative).1] at hclosed
      cases hclosed
  | waited hopen hstate =>
      obtain ⟨hlifecycle, rfl, rfl⟩ := h.of_unclassified hopen hstate
      exact .waiting (.inr hlifecycle) rfl rfl
  | turnedNative hopen hstate =>
      obtain ⟨_, rfl, rfl⟩ := h.of_unclassified hopen hstate
      exact .native rfl rfl rfl
  | answered hopen hstate _ hends =>
      obtain ⟨_, rfl, rfl⟩ := h.of_unclassified hopen hstate
      exact answer settings connection hends _
  | copied hopen hstate =>
      obtain ⟨hlifecycle, rfl⟩ := h.of_native hstate
      rw [awake_of_established hlifecycle]
      exact .native hlifecycle hstate rfl
  | decoded hopen hstate =>
      -- the decoder goes on with what it kept, behind the frames that were handed on
      obtain ⟨hlifecycle, head, frames, hends, hlegal, hbytes, rfl⟩ :=
        h.of_websocket hopen hstate
      rw [awake_of_established hlifecycle, receiveFrames_eq, hlifecycle]
      simp only [Reaction.payload_action]
      refine frames_then settings.limits head frames _ _ (hends.append chunk) hlegal ?_
      rw [hbytes, List.append_assoc, List.append_assoc]

end Balance

/-! ## What is owed to a live connection -/

/-- All bytes that came in have been handed on or wait, in order and without their framing. -/
def Conserved (limits : Frame.Limits) (exchanges : List Exchange) (connection : Connection) :
    Prop :=
  match connection.state with
  | .unclassified buffer =>
      connection.lifecycle ≠ .closed → buffer = received exchanges ∧ forwarded exchanges = []
  | .native => forwarded exchanges = received exchanges
  | .websocket decoder =>
      connection.lifecycle = .established →
        ∃ head consumed, HeadEnds (received exchanges) head.length ∧
          received exchanges = head ++ consumed ++ decoder.pending ∧
          (consumed = [] ∧ forwarded exchanges = [] ∨
            ∃ count, Frame.decode limits consumed =
              .ok (.complete (forwarded exchanges) consumed.length count))

theorem Balance.conserved {exchanges : List Exchange}
    (h : Balance limits (received exchanges) (forwarded exchanges) connection) :
    connection.Conserved limits exchanges := by
  unfold Conserved
  cases hstate : connection.state with
  | unclassified buffer =>
      intro hopen
      exact (h.of_unclassified hopen hstate).2
  | native => exact (h.of_native hstate).2
  | websocket decoder =>
      intro hestablished
      have hopen : connection.lifecycle ≠ .closed := by
        rw [hestablished]
        exact Lifecycle.noConfusion
      obtain ⟨_, head, frames, hends, hlegal, hbytes, hdata⟩ := h.of_websocket hopen hstate
      refine ⟨head, Frame.wires frames, hends, by rw [hbytes, List.append_assoc], ?_⟩
      rw [hdata]
      by_cases hne : frames = []
      · subst hne
        exact .inl ⟨rfl, Frame.data_nil _⟩
      · exact .inr ⟨frames.length,
          Frame.decode_eq_complete_iff.mpr ⟨frames, hlegal, hne, rfl, rfl, rfl, rfl⟩⟩

end Connection

namespace Router

open Connection (received forwarded Balance)

/-- Every run keeps the balance of an id that had no entry before it. -/
theorem balance_run (router : Router) {id : ConnectionId}
    (habsent : router.connections[id]? = none) (inputs : List Input) :
    Balance router.settings.limits (received ((run router inputs).exchanges id))
      (forwarded ((run router inputs).exchanges id)) ((run router inputs).connection id) := by
  refine run_invariant (fun exchanges connection =>
    Balance router.settings.limits (received exchanges) (forwarded exchanges) connection)
    (.new _) ?_ habsent inputs
  intro isEnabled exchanges connection chunk h
  rw [Connection.received_concat, Connection.forwarded_concat]
  exact h.receive isEnabled chunk

/-- **Conservation of bytes.**  After every run over a router without entries, all bytes that an
entry was given are in its buffer or in its decoder, or they have been handed on: a native
connection forwards what it received, and a WebSocket connection what the bytes decode to that
stand between the head of its request and those that its decoder keeps. -/
theorem run_conserved (settings : Connection.Settings) (scopes : Scope.Registry)
    (metrics : Metrics) (inputs : List Input) (id : ConnectionId) :
    match (run { settings, scopes, metrics } inputs).router.connections[id]? with
    | none => (run { settings, scopes, metrics } inputs).exchanges id = []
    | some connection =>
        connection.Conserved settings.limits
          ((run { settings, scopes, metrics } inputs).exchanges id) := by
  have habsent : (∅ : Std.ExtTreeMap ConnectionId Connection)[id]? = none :=
    Std.ExtTreeMap.getElem?_empty
  have hbalance := balance_run { settings, scopes, metrics } habsent inputs
  cases hconnection :
      (run { settings, scopes, metrics } inputs).router.connections[id]? with
  | none => exact (exchanges_run_eq_nil_iff habsent inputs).mpr hconnection
  | some connection =>
      rw [History.connection, hconnection] at hbalance
      exact hbalance.conserved

end Router
end SharedListener
