import SharedListener.Connection
import SharedListener.Proofs.Frame.Feed
import SharedListener.Proofs.Handshake.Prologue

/-!
# What a chunk can do to a connection

`Move` lists the ways in which a connection takes a chunk, each with the
conditions under which it is taken, and `receive_move` says that there are no
others.  A property of all connections is proved by going through this list.

A request is answered on its head alone, and what stands behind the head is
decoded as if it had come in a chunk of its own (`upgrade_eq`).
-/

namespace SharedListener.Connection

open Handshake

variable {settings : Settings} {isEnabled : String → Bool} {connection : Connection}
  {chunk : Bytes}

/-! ## What is handed on, and what is sent back -/

/-- The bytes that a reaction hands on. -/
def Reaction.payload : Reaction → Bytes
  | .forward payload => payload
  | .await | .close => []

/-- The bytes that an action hands on, those behind a request included. -/
def Action.payload : Action → Bytes
  | .forward payload => payload
  | .upgrade _ behind => (behind.getD .await).payload
  | .await | .close _ => []

/-- What an action sends to the client: the response to an upgrade, or a farewell. -/
def Action.reply? : Action → Option Bytes
  | .upgrade response _ => some response
  | .close farewell => farewell
  | .forward _ | .await => none

/-- What is left to do behind a response: the reaction, if it is anything but to wait. -/
def Reaction.then? (reaction : Reaction) : Option Reaction :=
  (some reaction).filter (· ≠ .await)

theorem Reaction.then?_eq_none_iff {reaction : Reaction} :
    reaction.then? = none ↔ reaction = .await := by
  cases reaction <;> simp [then?]

theorem Reaction.eq_of_then?_eq_some {reaction other : Reaction}
    (h : reaction.then? = some other) : reaction = other :=
  Option.some.inj (Option.filter_eq_some_iff.mp h).1

@[simp] theorem Reaction.getD_then? (reaction : Reaction) :
    reaction.then?.getD .await = reaction := by
  cases reaction <;> rfl

@[simp] theorem Reaction.payload_action (reaction : Reaction) :
    reaction.action.payload = reaction.payload := by
  cases reaction <;> rfl

@[simp] theorem Action.payload_upgrade (response : Bytes) (reaction : Reaction) :
    (Action.upgrade response reaction.then?).payload = reaction.payload := by
  rw [Action.payload, Reaction.getD_then?]

@[simp] theorem Reaction.reply?_action (reaction : Reaction) :
    reaction.action.reply? = none := by
  cases reaction <;> rfl

/-- A chunk with the action that it was answered with. -/
structure Exchange where
  chunk : Bytes
  action : Action

variable {exchanges : List Exchange} {action : Action}

/-- All bytes that came in. -/
def received (exchanges : List Exchange) : Bytes :=
  exchanges.flatMap Exchange.chunk

/-- All bytes that were handed on. -/
def forwarded (exchanges : List Exchange) : Bytes :=
  exchanges.flatMap fun exchange => exchange.action.payload

/-- All that was sent back, in order. -/
def replies (exchanges : List Exchange) : List Bytes :=
  exchanges.filterMap fun exchange => exchange.action.reply?

@[simp] theorem received_concat :
    received (exchanges ++ [⟨chunk, action⟩]) = received exchanges ++ chunk := by
  simp [received]

@[simp] theorem forwarded_concat :
    forwarded (exchanges ++ [⟨chunk, action⟩]) = forwarded exchanges ++ action.payload := by
  simp [forwarded]

@[simp] theorem replies_concat :
    replies (exchanges ++ [⟨chunk, action⟩]) = replies exchanges ++ action.reply?.toList := by
  cases h : action.reply? <;> simp [replies, h]

/-! ## Waking up -/

@[simp] theorem awake_state (connection : Connection) :
    connection.awake.state = connection.state := by
  unfold awake
  split <;> rfl

@[simp] theorem awake_metadata (connection : Connection) :
    connection.awake.metadata = connection.metadata := by
  unfold awake
  split <;> rfl

theorem awake_of_established (h : connection.lifecycle = .established) :
    connection.awake = connection := by
  rw [awake, h]
  rfl

theorem awake_lifecycle
    (h : connection.lifecycle = .fresh ∨ connection.lifecycle = .handshaking) :
    connection.awake.lifecycle = .handshaking := by
  unfold awake
  split
  · rfl
  · next hfresh => exact h.resolve_left hfresh

theorem becomeNative_congr (other : Connection) (h : connection.metadata = other.metadata)
    (received : Bytes) : becomeNative connection received = becomeNative other received := by
  simp only [becomeNative, h]

/-! ## Decoding -/

theorem react_complete (lifecycle : Lifecycle) (payload : Bytes) (consumed count : Nat) :
    (react lifecycle (.ok (.complete payload consumed count))).1.payload = payload ∧
      (react lifecycle (.ok (.complete payload consumed count))).2.1 = lifecycle := by
  cases payload <;> exact ⟨rfl, rfl⟩

/-- Bytes that do not end the connection are legal frames, whose data is handed on, and what is
retained. -/
theorem react_decode (limits : Frame.Limits) (lifecycle : Lifecycle) (input : Bytes) :
    (∃ frames, Frame.AllLegal limits frames ∧
      input = Frame.wires frames ++ Frame.retained (Frame.decode limits input) input ∧
      (react lifecycle (Frame.decode limits input)).1.payload =
        Frame.data limits.control frames ∧
      (react lifecycle (Frame.decode limits input)).2.1 = lifecycle) ∨
    (react lifecycle (Frame.decode limits input)).2.1 = .closed := by
  rcases Frame.decode_eq_iff.mp (rfl : Frame.decode limits input = _) with
    ⟨rfl, houtcome⟩ | ⟨frames, hlegal, _, hinput, houtcome⟩ | ⟨stop, _, _, _, _, _, houtcome⟩
  · left
    refine ⟨[], Frame.allLegal_nil limits, ?_, ?_, ?_⟩ <;> rw [houtcome]
    · rfl
    · exact (Frame.data_nil _).symm
    · rfl
  · left
    refine ⟨frames, hlegal, ?_, ?_, ?_⟩ <;> rw [houtcome]
    · rw [hinput]
      exact (List.append_nil _).symm
    · exact (react_complete lifecycle _ _ _).1
    · exact (react_complete lifecycle _ _ _).2
  · rw [houtcome]
    cases stop with
    | incomplete =>
        left
        exact ⟨[], Frame.allLegal_nil limits, rfl, (Frame.data_nil _).symm, rfl⟩
    | close => exact .inr rfl
    | oversized length => exact .inr rfl

/-! ## Answering a request -/

/-- The step that a complete request calls for, by what came of the negotiation. -/
def answer (settings : Settings) (connection : Connection) (received behind : Bytes) :
    Except Refusal Request → Step
  | .ok request => upgrade settings.limits request behind
  | .error (.rejected path) => reject connection path
  | .error (.flawed _) => becomeNative connection received

/-- Of the connection, an answer depends on no more than the metadata. -/
theorem answer_congr (other : Connection) (h : connection.metadata = other.metadata)
    (settings : Settings) (received behind : Bytes) (verdict : Except Refusal Request) :
    answer settings connection received behind verdict =
      answer settings other received behind verdict := by
  rcases verdict with (flaw | path) | request
  · exact becomeNative_congr other h received
  · simp only [answer, reject, h]
  · rfl

/-- No bytes behind a request are decoded to nothing that is to be done. -/
theorem upgrade_eq (limits : Frame.Limits) (request : Request) (behind : Bytes) :
    upgrade limits request behind =
      { action := .upgrade
          (response request.metadata.origin request.metadata.host request.key)
          (react .established (Frame.decode limits behind)).1.then?
        connection :=
          ⟨(react .established (Frame.decode limits behind)).2.1,
            .websocket ⟨Frame.retained (Frame.decode limits behind) behind⟩, request.metadata⟩
        events :=
          .upgraded request.metadata ::
            (react .established (Frame.decode limits behind)).2.2 } := by
  unfold upgrade decodeBehind
  by_cases hbehind : behind = []
  · subst hbehind
    rw [Frame.decode_nil]
    rfl
  · rw [if_neg (by simpa using hbehind), Frame.feed_eq]
    rfl

theorem receiveFrames_eq (limits : Frame.Limits) (connection : Connection)
    (decoder : Frame.Decoder) (chunk : Bytes) :
    receiveFrames limits connection decoder chunk =
      let outcome := Frame.decode limits (decoder.pending ++ chunk)
      let reaction := react connection.lifecycle outcome
      { action := reaction.1.action
        connection :=
          { connection with
            lifecycle := reaction.2.1
            state := .websocket ⟨Frame.retained outcome (decoder.pending ++ chunk)⟩ }
        events := reaction.2.2 } := by
  rw [receiveFrames, Frame.feed_eq]

theorem receiveRequest_eq {received : Bytes} {length : Nat} (hends : HeadEnds received length) :
    receiveRequest settings isEnabled connection received =
      answer settings connection received (received.drop length)
        (negotiate isEnabled (received.take length)) := by
  unfold receiveRequest
  rw [headLength?_eq_some_iff.mpr hends]
  simp only [Option.getD_some]
  rcases negotiate isEnabled (received.take length) with (flaw | path) | request <;> rfl

/-- Once the head of a request is complete, it is answered. -/
theorem receiveUnclassified_of_headEnds {received : Bytes} {length : Nat}
    (hagree : ¬ Diverges received) (hends : HeadEnds received length) :
    receiveUnclassified settings isEnabled connection received =
      answer settings connection received (received.drop length)
        (negotiate isEnabled (received.take length)) := by
  rw [receiveUnclassified, Prologue.detect_of_blankLine _ hagree hends.blankLine_isInfix]
  exact receiveRequest_eq hends

theorem receive_of_headEnds {buffer : Bytes} {length : Nat}
    (hopen : connection.lifecycle ≠ .closed) (hstate : connection.state = .unclassified buffer)
    (hagree : ¬ Diverges (buffer ++ chunk)) (hends : HeadEnds (buffer ++ chunk) length) :
    connection.receive settings isEnabled chunk =
      answer settings connection (buffer ++ chunk) ((buffer ++ chunk).drop length)
        (negotiate isEnabled ((buffer ++ chunk).take length)) := by
  rw [receive, if_neg hopen, receiveOpen, awake_state, hstate]
  show receiveUnclassified settings isEnabled connection.awake (buffer ++ chunk) = _
  rw [receiveUnclassified_of_headEnds hagree hends,
    answer_congr connection (awake_metadata connection)]

/-! ## All moves -/

/-- The ways in which a connection takes a chunk. -/
inductive Move (settings : Settings) (isEnabled : String → Bool) (connection : Connection)
    (chunk : Bytes) : Step → Prop
  /-- A connection that has ended stays as it is. -/
  | ended (hclosed : connection.lifecycle = .closed) :
      Move settings isEnabled connection chunk ⟨.close none, connection, []⟩
  /-- The bytes may yet become a request, and are few. -/
  | waited {buffer : Bytes} (hopen : connection.lifecycle ≠ .closed)
      (hstate : connection.state = .unclassified buffer)
      (hagree : ¬ Diverges (buffer ++ chunk)) (hblank : ¬ blankLine <:+: buffer ++ chunk)
      (hfew : (buffer ++ chunk).length ≤ waitingCap settings.maxHandshakeBytes) :
      Move settings isEnabled connection chunk
        { action := .await
          connection := { connection.awake with state := .unclassified (buffer ++ chunk) } }
  /-- The bytes are no beginning of a request, or too many without a blank line. -/
  | turnedNative {buffer : Bytes} (hopen : connection.lifecycle ≠ .closed)
      (hstate : connection.state = .unclassified buffer)
      (hnative : Diverges (buffer ++ chunk) ∨
        ¬ Diverges (buffer ++ chunk) ∧ ¬ blankLine <:+: buffer ++ chunk ∧
          waitingCap settings.maxHandshakeBytes < (buffer ++ chunk).length) :
      Move settings isEnabled connection chunk (becomeNative connection (buffer ++ chunk))
  /-- The head of a request is complete. -/
  | answered {buffer : Bytes} {length : Nat} (hopen : connection.lifecycle ≠ .closed)
      (hstate : connection.state = .unclassified buffer)
      (hagree : ¬ Diverges (buffer ++ chunk)) (hends : HeadEnds (buffer ++ chunk) length) :
      Move settings isEnabled connection chunk
        (answer settings connection (buffer ++ chunk) ((buffer ++ chunk).drop length)
          (negotiate isEnabled ((buffer ++ chunk).take length)))
  /-- Native bytes are copied through. -/
  | copied (hopen : connection.lifecycle ≠ .closed) (hstate : connection.state = .native) :
      Move settings isEnabled connection chunk
        { action := .forward chunk
          connection := connection.awake
          events := [.forwarded .native chunk.length] }
  /-- Frames are decoded behind the bytes that wait. -/
  | decoded {decoder : Frame.Decoder} (hopen : connection.lifecycle ≠ .closed)
      (hstate : connection.state = .websocket decoder) :
      Move settings isEnabled connection chunk
        (receiveFrames settings.limits connection.awake decoder chunk)

private theorem receiveUnclassified_move {buffer : Bytes} (hopen : connection.lifecycle ≠ .closed)
    (hstate : connection.state = .unclassified buffer) :
    Move settings isEnabled connection chunk
      (receiveUnclassified settings isEnabled connection.awake (buffer ++ chunk)) := by
  by_cases hdiverges : Diverges (buffer ++ chunk)
  · rw [receiveUnclassified, Prologue.detect_of_diverges _ hdiverges]
    show Move settings isEnabled connection chunk (becomeNative connection.awake _)
    rw [becomeNative_congr connection (awake_metadata connection)]
    exact .turnedNative hopen hstate (.inl hdiverges)
  by_cases hblank : blankLine <:+: buffer ++ chunk
  · obtain ⟨length, hends⟩ := exists_headEnds hblank
    rw [receiveUnclassified_of_headEnds hdiverges hends,
      answer_congr connection (awake_metadata connection)]
    exact .answered hopen hstate hdiverges hends
  · rw [receiveUnclassified, Prologue.detect_of_not_blankLine _ hdiverges hblank]
    by_cases hlong : waitingCap settings.maxHandshakeBytes < (buffer ++ chunk).length
    · rw [if_pos hlong]
      show Move settings isEnabled connection chunk (becomeNative connection.awake _)
      rw [becomeNative_congr connection (awake_metadata connection)]
      exact .turnedNative hopen hstate (.inr ⟨hdiverges, hblank, hlong⟩)
    · rw [if_neg hlong]
      exact .waited hopen hstate hdiverges hblank (Nat.not_lt.mp hlong)

/-- Every chunk is taken by one of the moves. -/
theorem receive_move (settings : Settings) (isEnabled : String → Bool) (connection : Connection)
    (chunk : Bytes) :
    Move settings isEnabled connection chunk (connection.receive settings isEnabled chunk) := by
  by_cases hclosed : connection.lifecycle = .closed
  · rw [receive, if_pos hclosed]
    exact .ended hclosed
  rw [receive, if_neg hclosed, receiveOpen, awake_state]
  cases hstate : connection.state with
  | unclassified buffer => exact receiveUnclassified_move hclosed hstate
  | native => exact .copied hclosed hstate
  | websocket decoder => exact .decoded hclosed hstate

end SharedListener.Connection
