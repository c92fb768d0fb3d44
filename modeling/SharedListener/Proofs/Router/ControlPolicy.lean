import SharedListener.Proofs.Router.Registration

/-!
# What the control policy decides

Pings and pongs are measured, counted and consumed under either policy, so two
routers that differ in nothing but the policy go through the same states.  What
they hand on differs: dropping leaves the bodies of pings and pongs out, and if
nothing else is there, nothing is handed on (`Reaction.Thinned`).

A chunk is one step in lock-step (`receive_thinned`), and so is a whole run.
-/

namespace SharedListener

/-! ## The same bytes under either policy -/

namespace Frame

/-- The same limits under another policy. -/
def Limits.withControl (limits : Limits) (policy : ControlPolicy) : Limits :=
  { limits with control := policy }

/-- Bytes that are complete are so under every policy, with the same frames, and what else they
decode to is the same. -/
theorem decode_withControl (limits : Limits) (input : Bytes) :
    (∃ frames, AllLegal limits frames ∧ input = wires frames ∧ ∀ policy,
      decode (limits.withControl policy) input =
        .ok (.complete (data policy frames) input.length frames.length)) ∨
    ∃ outcome, (∀ payload consumed count, outcome ≠ .ok (.complete payload consumed count)) ∧
      ∀ policy, decode (limits.withControl policy) input = outcome := by
  rcases decode_eq_iff.mp (rfl : decode limits input = _) with
    ⟨rfl, -⟩ | ⟨frames, hlegal, hne, hinput, -⟩ | ⟨stop, frames, rest, hlegal, rfl, hstop, -⟩
  · exact .inr ⟨.ok .needMore, nofun, fun policy => decode_nil _⟩
  · -- which frames are legal is not a matter of the policy
    refine .inl ⟨frames, hlegal, hinput, fun policy => ?_⟩
    exact decode_eq_complete_iff.mpr ⟨frames, hlegal, hne, hinput, rfl, rfl, rfl⟩
  · refine .inr ⟨stop.outcome, stop.outcome_ne_complete, fun policy => ?_⟩
    have hunder : AllLegal (limits.withControl policy) frames := hlegal
    exact decode_wires_append_of_atHead hunder hstop

end Frame

namespace Connection

open Handshake (headLength?)

def Settings.withControl (settings : Settings) (policy : ControlPolicy) : Settings :=
  { settings with limits := settings.limits.withControl policy }

@[simp] theorem maxHandshakeBytes_withControl (settings : Settings) (policy : ControlPolicy) :
    (settings.withControl policy).maxHandshakeBytes = settings.maxHandshakeBytes := rfl

def Reaction.ofData (payload : Bytes) : Reaction :=
  if payload.isEmpty then .await else .forward payload

/-- The bytes that a chunk gives to the decoder. -/
def decoded (connection : Connection) (chunk : Bytes) : Bytes :=
  match connection.state with
  | .unclassified buffer =>
      (buffer ++ chunk).drop ((headLength? (buffer ++ chunk)).getD (buffer ++ chunk).length)
  | .native => []
  | .websocket decoder => decoder.pending ++ chunk

/-- The reactions to the bytes `input`, where pings and pongs are kept and where they are
dropped. -/
inductive Reaction.Thinned (limits : Frame.Limits) (input : Bytes) : Reaction → Reaction → Prop
  /-- Nothing is handed on. -/
  | same {reaction : Reaction} (hnothing : reaction.payload = []) :
      Thinned limits input reaction reaction
  /-- The frames are handed on, or what is left of them without pings and pongs. -/
  | thinned {frames : List Frame} (hlegal : Frame.AllLegal limits frames)
      (hinput : input = Frame.wires frames) (hsome : Frame.data .fold frames ≠ []) :
      Thinned limits input (.forward (Frame.data .fold frames))
        (.ofData (Frame.data .drop frames))

/-- The actions of a connection that speaks `protocol` afterwards, where pings and pongs are kept
and where they are dropped. -/
inductive Action.Thinned (limits : Frame.Limits) (input : Bytes) (protocol : Protocol) :
    Action → Action → Prop
  | apart {action : Action} (hprotocol : protocol ≠ .websocket) :
      Thinned limits input protocol action action
  | decoded {full thin : Reaction} (h : Reaction.Thinned limits input full thin) :
      Thinned limits input protocol full.action thin.action
  | upgraded {response : Bytes} {full thin : Reaction}
      (h : Reaction.Thinned limits input full thin) :
      Thinned limits input protocol (.upgrade response full.then?) (.upgrade response thin.then?)

/-- Whether an event is anything but handing bytes on. -/
def Event.isQuiet : Event → Bool
  | .forwarded _ _ => false
  | _ => true

/-- The steps from one state, where pings and pongs are kept and where they are dropped. -/
structure Step.Thinned (limits : Frame.Limits) (input : Bytes) (full thin : Step) : Prop where
  connection_eq : thin.connection = full.connection
  events_eq : thin.events.filter Event.isQuiet = full.events.filter Event.isQuiet
  action : Action.Thinned limits input full.connection.protocol full.action thin.action

private theorem react_complete_eq (lifecycle : Lifecycle) (payload : Bytes)
    (consumed count : Nat) :
    react lifecycle (.ok (.complete payload consumed count)) =
      (.ofData payload, lifecycle,
        if payload.isEmpty then [] else [.forwarded .websocket payload.length]) := by
  by_cases hnothing : payload.isEmpty <;> simp [react, Reaction.ofData, hnothing]

private theorem data_drop_eq_nil {frames : List Frame} (h : Frame.data .fold frames = []) :
    Frame.data .drop frames = [] := by
  have hall := List.flatMap_eq_nil_iff.mp h
  exact List.flatMap_eq_nil_iff.mpr fun frame hmem => hall frame (List.mem_of_mem_filter hmem)

theorem react_thinned (limits : Frame.Limits) (lifecycle : Lifecycle) (input : Bytes) :
    let full := react lifecycle (Frame.decode (limits.withControl .fold) input)
    let thin := react lifecycle (Frame.decode (limits.withControl .drop) input)
    Reaction.Thinned limits input full.1 thin.1 ∧ thin.2.1 = full.2.1 ∧
      thin.2.2.filter Event.isQuiet = full.2.2.filter Event.isQuiet := by
  rcases Frame.decode_withControl limits input with
    ⟨frames, hlegal, hinput, hdecode⟩ | ⟨outcome, hincomplete, hdecode⟩
  · rw [hdecode, hdecode, react_complete_eq, react_complete_eq]
    refine ⟨?_, rfl, ?_⟩
    · by_cases hnothing : Frame.data .fold frames = []
      · rw [hnothing, data_drop_eq_nil hnothing]
        exact .same rfl
      · have hfull : Reaction.ofData (Frame.data .fold frames) =
            .forward (Frame.data .fold frames) := if_neg (by simpa using hnothing)
        rw [hfull]
        exact .thinned hlegal hinput hnothing
    · split_ifs <;> rfl
  · rw [hdecode, hdecode]
    refine ⟨.same ?_, rfl, rfl⟩
    rcases outcome with fault | (⟨payload, consumed, count⟩ | _ | _)
    · rfl
    · exact absurd rfl (hincomplete payload consumed count)
    · rfl
    · rfl

theorem retained_withControl (limits : Frame.Limits) (input : Bytes) :
    Frame.retained (Frame.decode (limits.withControl .drop) input) input =
      Frame.retained (Frame.decode (limits.withControl .fold) input) input := by
  rcases Frame.decode_withControl limits input with
    ⟨frames, _, _, hdecode⟩ | ⟨outcome, _, hdecode⟩
  · rw [hdecode, hdecode]
    rfl
  · rw [hdecode, hdecode]

/-! ## One chunk in lock-step -/

private theorem Step.Thinned.refl {limits : Frame.Limits} {input : Bytes} (step : Step)
    (hprotocol : step.connection.protocol ≠ .websocket) : Step.Thinned limits input step step :=
  ⟨rfl, rfl, .apart hprotocol⟩

private theorem receiveFrames_thinned (settings : Settings) (connection : Connection)
    (decoder : Frame.Decoder) (chunk : Bytes) :
    Step.Thinned settings.limits (decoder.pending ++ chunk)
      (receiveFrames (settings.withControl .fold).limits connection decoder chunk)
      (receiveFrames (settings.withControl .drop).limits connection decoder chunk) := by
  obtain ⟨hreaction, hlifecycle, hevents⟩ :=
    react_thinned settings.limits connection.lifecycle (decoder.pending ++ chunk)
  have hretained := retained_withControl settings.limits (decoder.pending ++ chunk)
  rw [receiveFrames_eq, receiveFrames_eq]
  refine ⟨?_, hevents, .decoded hreaction⟩
  simp only [Settings.withControl, hlifecycle, hretained]

private theorem upgrade_thinned (settings : Settings) (request : Handshake.Request)
    (behind : Bytes) :
    Step.Thinned settings.limits behind
      (upgrade (settings.withControl .fold).limits request behind)
      (upgrade (settings.withControl .drop).limits request behind) := by
  obtain ⟨hreaction, hlifecycle, hevents⟩ :=
    react_thinned settings.limits .established behind
  have hretained := retained_withControl settings.limits behind
  rw [upgrade_eq, upgrade_eq]
  refine ⟨?_, ?_, .upgraded hreaction⟩
  · simp only [Settings.withControl, hlifecycle, hretained]
  · exact congrArg (Event.upgraded request.metadata :: ·) hevents

private theorem receiveUnclassified_thinned (settings : Settings) (isEnabled : String → Bool)
    (connection : Connection) (received : Bytes) :
    Step.Thinned settings.limits
      (received.drop ((headLength? received).getD received.length))
      (receiveUnclassified (settings.withControl .fold) isEnabled connection received)
      (receiveUnclassified (settings.withControl .drop) isEnabled connection received) := by
  simp only [receiveUnclassified, maxHandshakeBytes_withControl]
  cases Handshake.Prologue.detect settings.maxHandshakeBytes received with
  | needMore => exact .refl ⟨_, _, _⟩ Protocol.noConfusion
  | native => exact .refl (becomeNative _ _) Protocol.noConfusion
  | request =>
      show Step.Thinned _ _ (receiveRequest _ _ _ _) (receiveRequest _ _ _ _)
      simp only [receiveRequest]
      generalize Handshake.negotiate isEnabled _ = verdict
      rcases verdict with (flaw | path) | request
      · exact .refl (becomeNative _ _) Protocol.noConfusion
      · exact .refl (reject _ _) Protocol.noConfusion
      · exact upgrade_thinned settings request _

/-- A chunk takes a connection to the same state under either policy, with the same events but for
the bytes handed on. -/
theorem receive_thinned (settings : Settings) (isEnabled : String → Bool)
    (connection : Connection) (chunk : Bytes) :
    Step.Thinned settings.limits (connection.decoded chunk)
      (connection.receive (settings.withControl .fold) isEnabled chunk)
      (connection.receive (settings.withControl .drop) isEnabled chunk) := by
  unfold receive
  split_ifs with hclosed
  · exact ⟨rfl, rfl, .decoded (.same (rfl : Reaction.close.payload = []))⟩
  unfold receiveOpen decoded
  rw [awake_state]
  cases hstate : connection.state with
  | unclassified buffer => exact receiveUnclassified_thinned settings isEnabled _ _
  | websocket decoder => exact receiveFrames_thinned settings connection.awake decoder chunk
  | native =>
      refine .refl _ ?_
      rw [protocol, awake_state, hstate]
      exact Protocol.noConfusion

end Connection

/-! ## Routers in lock-step -/

/-- All numbers but those of the bytes handed on. -/
def Metrics.withoutForwarded (metrics : Metrics) : Metrics :=
  { metrics with forwarded := ∅ }

namespace Router

open Connection (Action Event Settings)

def withControl (router : Router) (policy : ControlPolicy) : Router :=
  { router with settings := router.settings.withControl policy }

theorem count_withoutForwarded (metrics : Metrics) (event : Event) :
    (count metrics event).withoutForwarded =
      if event.isQuiet then count metrics.withoutForwarded event
      else metrics.withoutForwarded := by
  cases event <;> rfl

theorem foldl_count_withoutForwarded (metrics : Metrics) (events : List Event) :
    (events.foldl count metrics).withoutForwarded =
      (events.filter Event.isQuiet).foldl count metrics.withoutForwarded := by
  induction events generalizing metrics with
  | nil => rfl
  | cons event events ih =>
      rw [List.foldl_cons, ih, count_withoutForwarded, List.filter_cons]
      split_ifs <;> rfl

theorem filterMap_enrolled?_quiet (events : List Event) :
    (events.filter Event.isQuiet).filterMap Event.enrolled? =
      events.filterMap Event.enrolled? := by
  rw [List.filterMap_filter]
  congr 1
  funext event
  cases event <;> rfl

/-- Two routers that differ in the policy, and in the number of bytes that they have handed on. -/
structure Twins (settings : Settings) (full thin : Router) : Prop where
  full_settings : full.settings = settings.withControl .fold
  thin_settings : thin.settings = settings.withControl .drop
  connections_eq : thin.connections = full.connections
  scopes_eq : thin.scopes = full.scopes
  metrics_eq : thin.metrics.withoutForwarded = full.metrics.withoutForwarded

namespace Twins

variable {settings : Settings} {full thin : Router}

theorem receive_thinned (h : Twins settings full thin) (id : ConnectionId) (chunk : Bytes) :
    let connection := full.connections[id]?.getD {}
    Connection.Step.Thinned settings.limits (connection.decoded chunk)
      (connection.receive full.settings full.scopes.isEnabled chunk)
      ((thin.connections[id]?.getD {}).receive thin.settings thin.scopes.isEnabled chunk) := by
  intro connection
  rw [h.full_settings, h.thin_settings, h.connections_eq, h.scopes_eq]
  exact Connection.receive_thinned settings full.scopes.isEnabled connection chunk

theorem receive (h : Twins settings full thin) (id : ConnectionId) (chunk : Bytes) :
    Twins settings (full.receive id chunk).2 (thin.receive id chunk).2 := by
  have hstep := h.receive_thinned id chunk
  refine ⟨?_, ?_, ?_, ?_, ?_⟩
  -- the registry looks at upgrades only, and the numbers that are compared leave the bytes out
  · rw [receive_settings, h.full_settings]
  · rw [receive_settings, h.thin_settings]
  · rw [receive_connections, receive_connections, hstep.connection_eq, h.connections_eq]
  · rw [receive_eq, receive_eq, scopes_foldl_note, scopes_foldl_note,
      ← filterMap_enrolled?_quiet, hstep.events_eq, filterMap_enrolled?_quiet, h.scopes_eq]
  · rw [receive_eq, receive_eq, metrics_foldl_note, metrics_foldl_note,
      foldl_count_withoutForwarded, hstep.events_eq, h.metrics_eq,
      ← foldl_count_withoutForwarded]

theorem close (h : Twins settings full thin) (id : ConnectionId) :
    (thin.close id).1 = (full.close id).1 ∧
      Twins settings (full.close id).2 (thin.close id).2 := by
  unfold Router.close
  rw [h.connections_eq, h.scopes_eq]
  cases full.connections[id]? with
  | none => exact ⟨rfl, h⟩
  | some connection =>
      exact ⟨rfl, h.full_settings, h.thin_settings, rfl, rfl, h.metrics_eq⟩

theorem setEnabled (h : Twins settings full thin) (app : String) (enabled : Bool) :
    Twins settings (full.setEnabled app enabled) (thin.setEnabled app enabled) :=
  ⟨h.full_settings, h.thin_settings, h.connections_eq,
    congrArg (Scope.Registry.setEnabled · app enabled) h.scopes_eq, h.metrics_eq⟩

theorem run (router : Router) (inputs : List Input) :
    Twins router.settings (Router.run (router.withControl .fold) inputs).router
      (Router.run (router.withControl .drop) inputs).router := by
  induction inputs using List.reverseRecOn with
  | nil => exact ⟨rfl, rfl, rfl, rfl, rfl⟩
  | append_singleton inputs input ih =>
      rw [run_concat, run_concat]
      cases input with
      | receive id chunk => exact ih.receive id chunk
      | close id => exact (ih.close id).2
      | setEnabled app enabled => exact ih.setEnabled app enabled

end Twins

/-- **The control policy filters payloads, and does nothing else.**  Two routers that differ in
nothing but the policy have, after every run, the same entries with the same decoders, the same
registry, and the same numbers but for the bytes handed on.  Whatever is asked of them next, they
return the same, except that where a WebSocket payload is handed on and pings and pongs are kept,
the other router hands on that payload without the bodies of pings and pongs, or waits if nothing
is left. -/
theorem run_thinned (router : Router) (inputs : List Input) :
    let full := run (router.withControl .fold) inputs
    let thin := run (router.withControl .drop) inputs
    thin.router.connections = full.router.connections ∧
    thin.router.scopes = full.router.scopes ∧
    thin.router.metrics.withoutForwarded = full.router.metrics.withoutForwarded ∧
    (∀ id, (thin.router.close id).1 = (full.router.close id).1) ∧
    ∀ id chunk,
      Action.Thinned router.settings.limits ((full.connection id).decoded chunk)
        ((full.step (.receive id chunk)).connection id).protocol
        (full.router.receive id chunk).1 (thin.router.receive id chunk).1 := by
  intro full thin
  have h : Twins router.settings full.router thin.router := .run router inputs
  refine ⟨h.connections_eq, h.scopes_eq, h.metrics_eq, fun id => (h.close id).1, ?_⟩
  intro id chunk
  rw [History.connection_step_receive]
  exact (h.receive_thinned id chunk).action

end Router
end SharedListener
