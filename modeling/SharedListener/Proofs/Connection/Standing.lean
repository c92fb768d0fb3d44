import SharedListener.Proofs.Connection.Moves

/-!
# What has become of a connection

The standing of a connection is what does not depend on its frames: which
protocol it speaks, what its request said, and what was sent back.

A connection waits until it turns native or its request is answered, and what
happens then depends on the bytes received so far and not on their cuts
(`Waits.receive`).  From then on it is decided, and no chunk changes its
standing (`Decided.receive`).
-/

namespace SharedListener.Connection

open Handshake

variable {settings : Settings} {connection : Connection} {buffer : Bytes}

/-- The protocol of a connection, what its request said, and what was sent back. -/
structure Standing where
  protocol : Protocol
  metadata : Metadata
  replies : List Bytes

namespace Standing

/-- Nothing is known yet. -/
def waiting : Standing := ⟨.unclassified, {}, []⟩

/-- The bytes are copied through. -/
def native : Standing := ⟨.native, {}, []⟩

/-- What comes of a request, by the verdict on it. -/
def answered : Except Refusal Request → Standing
  | .ok request =>
      ⟨.websocket, request.metadata,
        [response request.metadata.origin request.metadata.host request.key]⟩
  | .error (.rejected path) => ⟨.unclassified, { path }, [rejection]⟩
  | .error (.flawed _) => native

end Standing

/-- The standing of a connection after these exchanges. -/
def standing (connection : Connection) (exchanges : List Exchange) : Standing :=
  ⟨connection.protocol, connection.metadata, replies exchanges⟩

/-! ## Waiting -/

/-- All that came in is `buffer`, and nothing has been decided. -/
structure Waits (connection : Connection) (buffer : Bytes) : Prop where
  lifecycle_eq : connection.lifecycle = .fresh ∨ connection.lifecycle = .handshaking
  state_eq : connection.state = .unclassified buffer
  metadata_eq : connection.metadata = {}

theorem waits_new : Waits {} [] where
  lifecycle_eq := .inl rfl
  state_eq := rfl
  metadata_eq := rfl

theorem Waits.isOpen (h : connection.Waits buffer) : connection.lifecycle ≠ .closed := by
  rcases h.lifecycle_eq with hlifecycle | hlifecycle <;> rw [hlifecycle] <;>
    exact Lifecycle.noConfusion

theorem Waits.protocol_eq (h : connection.Waits buffer) : connection.protocol = .unclassified := by
  rw [protocol, h.state_eq]

/-- What a chunk does to a connection that waits, by all bytes `input` received with it. -/
inductive Outcome (settings : Settings) (isEnabled : String → Bool) (input : Bytes) : Step → Prop
  | waited {step : Step} (hagree : ¬ Diverges input) (hblank : ¬ blankLine <:+: input)
      (hfew : input.length ≤ waitingCap settings.maxHandshakeBytes) (haction : step.action = .await)
      (hwaits : step.connection.Waits input) : Outcome settings isEnabled input step
  | turnedNative (hnative : Diverges input ∨ ¬ Diverges input ∧ ¬ blankLine <:+: input ∧
        waitingCap settings.maxHandshakeBytes < input.length) :
      Outcome settings isEnabled input (becomeNative {} input)
  | answered {length : Nat} (hagree : ¬ Diverges input) (hends : HeadEnds input length) :
      Outcome settings isEnabled input
        (answer settings {} input (input.drop length)
          (negotiate isEnabled (input.take length)))

theorem Waits.receive (h : connection.Waits buffer) (settings : Settings)
    (isEnabled : String → Bool) (chunk : Bytes) :
    Outcome settings isEnabled (buffer ++ chunk)
      (connection.receive settings isEnabled chunk) := by
  have hmove := receive_move settings isEnabled connection chunk
  generalize connection.receive settings isEnabled chunk = step at hmove ⊢
  cases hmove with
  | ended hclosed => exact absurd hclosed h.isOpen
  | waited _ hstate hagree hblank hfew =>
      obtain rfl := State.unclassified.inj (h.state_eq.symm.trans hstate)
      refine .waited hagree hblank hfew rfl ⟨.inr (awake_lifecycle h.lifecycle_eq), rfl, ?_⟩
      rw [awake_metadata, h.metadata_eq]
  | turnedNative _ hstate hnative =>
      obtain rfl := State.unclassified.inj (h.state_eq.symm.trans hstate)
      rw [becomeNative_congr {} h.metadata_eq]
      exact .turnedNative hnative
  | answered _ hstate hagree hends =>
      obtain rfl := State.unclassified.inj (h.state_eq.symm.trans hstate)
      rw [answer_congr {} h.metadata_eq]
      exact .answered hagree hends
  | copied _ hstate => exact State.noConfusion (h.state_eq.symm.trans hstate)
  | decoded _ hstate => exact State.noConfusion (h.state_eq.symm.trans hstate)

/-! ## Being decided -/

/-- The connection has ended, or its protocol is known. -/
def Decided (connection : Connection) : Prop :=
  connection.lifecycle = .closed ∨ connection.protocol ≠ .unclassified

theorem Decided.not_unclassified (h : connection.Decided)
    (hopen : connection.lifecycle ≠ .closed) : connection.state ≠ .unclassified buffer := by
  intro hstate
  apply h.resolve_left hopen
  rw [protocol, hstate]

theorem becomeNative_decided (input : Bytes) : (becomeNative {} input).connection.Decided :=
  .inr Protocol.noConfusion

theorem becomeNative_standing {exchanges : List Exchange} (h : replies exchanges = [])
    (chunk input : Bytes) :
    (becomeNative {} input).connection.standing
      (exchanges ++ [⟨chunk, (becomeNative {} input).action⟩]) = .native := by
  rw [standing, replies_concat, h]
  rfl

theorem answer_decided (settings : Settings) (input behind : Bytes)
    (verdict : Except Refusal Request) :
    (answer settings {} input behind verdict).connection.Decided := by
  rcases verdict with (flaw | path) | request
  · exact becomeNative_decided input
  · exact .inl rfl
  · rw [answer, upgrade_eq]
    exact .inr Protocol.noConfusion

theorem answer_standing {exchanges : List Exchange} (h : replies exchanges = [])
    (settings : Settings) (chunk input behind : Bytes) (verdict : Except Refusal Request) :
    (answer settings {} input behind verdict).connection.standing
      (exchanges ++ [⟨chunk, (answer settings {} input behind verdict).action⟩]) =
        .answered verdict := by
  rcases verdict with (flaw | path) | request
  · exact becomeNative_standing h chunk input
  · rw [standing, replies_concat, h]
    rfl
  · rw [standing, replies_concat, h, answer, upgrade_eq]
    rfl

/-- A connection that has been decided keeps its standing. -/
theorem Decided.receive (h : connection.Decided) (settings : Settings)
    (isEnabled : String → Bool) (exchanges : List Exchange) (chunk : Bytes) :
    (connection.receive settings isEnabled chunk).connection.Decided ∧
      (connection.receive settings isEnabled chunk).connection.standing
          (exchanges ++ [⟨chunk, (connection.receive settings isEnabled chunk).action⟩]) =
        connection.standing exchanges := by
  have hmove := receive_move settings isEnabled connection chunk
  generalize connection.receive settings isEnabled chunk = step at hmove ⊢
  cases hmove with
  | ended hclosed => exact ⟨h, by simp [standing, Action.reply?]⟩
  | waited hopen hstate => exact absurd hstate (h.not_unclassified hopen)
  | turnedNative hopen hstate => exact absurd hstate (h.not_unclassified hopen)
  | answered hopen hstate => exact absurd hstate (h.not_unclassified hopen)
  | copied _ hstate =>
      have hprotocol : connection.awake.protocol = connection.protocol := by
        rw [protocol, protocol, awake_state]
      refine ⟨.inr ?_, by simp [standing, Action.reply?, hprotocol]⟩
      rw [hprotocol, protocol, hstate]
      exact Protocol.noConfusion
  | decoded _ hstate =>
      have hprotocol : connection.protocol = .websocket := by rw [protocol, hstate]
      rw [receiveFrames_eq]
      refine ⟨.inr Protocol.noConfusion, ?_⟩
      simp only [standing, protocol, awake_metadata, replies_concat, Reaction.reply?_action, hstate,
        Option.toList_none, List.append_nil]

end SharedListener.Connection
