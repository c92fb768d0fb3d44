import Mathlib.Data.List.Pairwise
import SharedListener.Proofs.Connection.Standing
import SharedListener.Proofs.Router.Shape

/-!
# The actions of a connection, in order

A connection waits, and then its actions take one of three ways: it forwards all
that comes in, it is turned down, or it is upgraded and goes on until it ends
(`Trace`).  The shape of a connection says how far it is on its way, and a chunk
takes it one step further (`Turn`), so the steps that there are and the traces
that they add up to can be compared without looking at bytes (`Trace.concat`).
-/

namespace SharedListener

namespace Connection

/-! ## Traces -/

/-- A reaction that leaves the connection open: to wait, or to hand on at least one byte. -/
inductive Reaction.Flows : Reaction → Prop
  | await : Flows .await
  | forward {payload : Bytes} (hne : payload ≠ []) : Flows (.forward payload)

/-- The actions that a connection of some shape has taken, in order. -/
inductive Trace : Shape → List Action → Prop
  | waiting (waited : Nat) : Trace .waiting (List.replicate waited .await)
  | native (waited : Nat) (payload : Bytes) (payloads : List Bytes) :
      Trace .native (List.replicate waited .await ++ (payload :: payloads).map .forward)
  | rejected (waited closes : Nat) :
      Trace .rejected (List.replicate waited .await ++
        .close (some [0xFF, 0x00]) :: List.replicate closes (.close none))
  | upgraded (waited : Nat) (response : Bytes) (behind : Reaction) (reactions : List Reaction)
      (hflow : ∀ reaction ∈ behind :: reactions, reaction.Flows) :
      Trace .upgraded (List.replicate waited .await ++
        .upgrade response behind.then? :: reactions.map Reaction.action)
  | ended (waited : Nat) (response : Bytes) (behind : Reaction) (reactions flow : List Reaction)
      (closes : Nat) (hflow : ∀ reaction ∈ flow, reaction.Flows)
      (hreactions : behind :: reactions = flow ++ List.replicate (closes + 1) .close) :
      Trace .ended (List.replicate waited .await ++
        .upgrade response behind.then? :: reactions.map Reaction.action)

/-- What an action can make of a shape. -/
inductive Turn : Shape → Action → Shape → Prop
  | await : Turn .waiting .await .waiting
  | becomeNative (payload : Bytes) : Turn .waiting (.forward payload) .native
  | reject : Turn .waiting (.close (some [0xFF, 0x00])) .rejected
  | upgrade (response : Bytes) {behind : Reaction} (hflows : behind.Flows) :
      Turn .waiting (.upgrade response behind.then?) .upgraded
  | upgradeAndEnd (response : Bytes) : Turn .waiting (.upgrade response (some .close)) .ended
  | copy (payload : Bytes) : Turn .native (.forward payload) .native
  | flow {reaction : Reaction} (hflows : reaction.Flows) : Turn .upgraded reaction.action .upgraded
  | finish : Turn .upgraded (.close none) .ended
  | remain {shape : Shape} (hover : shape = .rejected ∨ shape = .ended) :
      Turn shape (.close none) shape

namespace Trace

variable {shape later : Shape} {actions : List Action} {action : Action}

/-- One more turn. -/
theorem concat (h : Trace shape actions) (hturn : Turn shape action later) :
    Trace later (actions ++ [action]) := by
  cases hturn with
  | await =>
      obtain ⟨waited⟩ := h
      rw [← List.replicate_succ']
      exact .waiting (waited + 1)
  | becomeNative payload =>
      obtain ⟨waited⟩ := h
      exact .native waited payload []
  | reject =>
      obtain ⟨waited⟩ := h
      exact .rejected waited 0
  | @upgrade response behind hflows =>
      obtain ⟨waited⟩ := h
      exact .upgraded waited response behind [] (by simpa using hflows)
  | upgradeAndEnd response =>
      obtain ⟨waited⟩ := h
      exact .ended waited response .close [] [] 0 (List.forall_mem_nil _) rfl
  | copy last =>
      cases h with
      | native waited payload payloads =>
          have hmore := Trace.native waited payload (payloads ++ [last])
          simpa using hmore
  | @flow last hflows =>
      cases h with
      | upgraded waited response behind reactions hflow =>
          have hmore := Trace.upgraded waited response behind (reactions ++ [last])
            (List.forall_mem_append.mpr ⟨hflow, by simpa using hflows⟩)
          simpa using hmore
  | finish =>
      -- what has flowed so far stands in front of the first close
      cases h with
      | upgraded waited response behind reactions hflow =>
          have hmore := Trace.ended waited response behind (reactions ++ [.close])
            (behind :: reactions) 0 hflow rfl
          simpa [Reaction.action] using hmore
  | remain hover =>
      cases h with
      | rejected waited closes =>
          have hmore := Trace.rejected waited (closes + 1)
          rw [List.replicate_succ'] at hmore
          simpa using hmore
      | ended waited response behind reactions flow closes hflow hreactions =>
          have hlonger : behind :: (reactions ++ [.close]) =
              flow ++ List.replicate (closes + 1 + 1) .close := by
            rw [List.replicate_succ', ← List.append_assoc, ← hreactions, List.cons_append]
          have hmore := Trace.ended waited response behind (reactions ++ [.close]) flow
            (closes + 1) hflow hlonger
          simpa [Reaction.action] using hmore
      | waiting | native | upgraded => simp at hover

/-! ## What a trace rules out -/

private theorem length_replies_le {before after : List Action}
    (hbefore : ∀ action ∈ before, action.reply? = none)
    (hafter : ∀ action ∈ after, action.reply? = none) (action : Action) :
    ((before ++ action :: after).filterMap Action.reply?).length ≤ 1 := by
  have hnothing : before.filterMap Action.reply? = [] := List.filterMap_eq_nil_iff.mpr hbefore
  have hnone : after.filterMap Action.reply? = [] := List.filterMap_eq_nil_iff.mpr hafter
  rw [List.filterMap_append, hnothing, List.nil_append, List.filterMap_cons]
  cases action.reply? <;> simp [hnone]

/-- At most one response or farewell is sent, and never both. -/
theorem replies_length_le (h : Trace shape actions) :
    (actions.filterMap Action.reply?).length ≤ 1 := by
  have hwaited (waited : Nat) : ∀ action ∈ List.replicate waited Action.await,
      action.reply? = none :=
    List.forall_mem_replicate.mpr (.inr rfl)
  have hreactions : ∀ reactions : List Reaction, ∀ action ∈ reactions.map Reaction.action,
      action.reply? = none := by
    intro reactions
    simp
  cases h with
  | waiting waited =>
      rw [List.filterMap_eq_nil_iff.mpr (hwaited waited)]
      exact Nat.zero_le 1
  | native waited payload payloads =>
      exact length_replies_le (hwaited waited) (by simp [Action.reply?]) _
  | rejected waited closes =>
      exact length_replies_le (hwaited waited) (List.forall_mem_replicate.mpr (.inr rfl)) _
  | upgraded waited response behind reactions =>
      exact length_replies_le (hwaited waited) (hreactions reactions) _
  | ended waited response behind reactions =>
      exact length_replies_le (hwaited waited) (hreactions reactions) _

end Trace

/-- An action that ends the connection, perhaps behind the response to an upgrade. -/
inductive Action.Ends : Action → Prop
  | close (farewell : Option Bytes) : Ends (.close farewell)
  | upgrade (response : Bytes) : Ends (.upgrade response (some .close))

/-- Behind an action that ends the connection there is nothing but closing without a farewell. -/
def Quiet (actions : List Action) : Prop :=
  actions.Pairwise fun action later => action.Ends → later = .close none

private theorem Quiet.append {before after : List Action}
    (hbefore : ∀ action ∈ before, ¬ action.Ends) (hafter : Quiet after) :
    Quiet (before ++ after) := by
  refine List.pairwise_append.mpr ⟨?_, hafter, ?_⟩
  · exact List.pairwise_of_forall_mem_list fun action hmem _ _ hends =>
      absurd hends (hbefore action hmem)
  · exact fun action hmem _ _ hends => absurd hends (hbefore action hmem)

private theorem quiet_replicate (closes : Nat) : Quiet (List.replicate closes (.close none)) :=
  List.pairwise_of_forall_mem_list fun _ _ _ hlater _ => List.eq_of_mem_replicate hlater

private theorem not_ends_of_flows {reaction : Reaction} (h : reaction.Flows) :
    ¬ reaction.action.Ends := by
  cases h <;> exact nofun

private theorem quiet_reactions {flow : List Reaction}
    (hflow : ∀ reaction ∈ flow, reaction.Flows) (closes : Nat) :
    Quiet ((flow ++ List.replicate closes Reaction.close).map Reaction.action) := by
  rw [List.map_append, List.map_replicate]
  refine Quiet.append ?_ (quiet_replicate closes)
  intro action hmem
  obtain ⟨reaction, hreaction, rfl⟩ := List.mem_map.mp hmem
  exact not_ends_of_flows (hflow reaction hreaction)

/-- An upgrade is as quiet as what stands behind the request. -/
private theorem quiet_upgrade {behind : Reaction} {reactions : List Reaction}
    (h : Quiet ((behind :: reactions).map Reaction.action)) (response : Bytes) :
    Quiet (.upgrade response behind.then? :: reactions.map Reaction.action) := by
  rw [List.map_cons] at h
  obtain ⟨hbehind, hreactions⟩ := List.pairwise_cons.mp h
  refine List.pairwise_cons.mpr ⟨?_, hreactions⟩
  intro later hlater hends
  generalize hthen : behind.then? = what at hends
  cases hends
  obtain rfl := Reaction.eq_of_then?_eq_some hthen
  exact hbehind later hlater (Action.Ends.close none)

theorem Trace.quiet {shape : Shape} {actions : List Action} (h : Trace shape actions) :
    Quiet actions := by
  have hwaited (waited : Nat) : ∀ action ∈ List.replicate waited Action.await, ¬ action.Ends :=
    List.forall_mem_replicate.mpr (.inr nofun)
  cases h with
  | waiting waited =>
      rw [← List.append_nil (List.replicate waited _)]
      exact Quiet.append (hwaited waited) .nil
  | native waited payload payloads =>
      refine Quiet.append (hwaited waited) ?_
      rw [← List.append_nil (List.map _ _)]
      refine Quiet.append ?_ .nil
      intro action hmem
      obtain ⟨copied, _, rfl⟩ := List.mem_map.mp hmem
      exact nofun
  | rejected waited closes =>
      refine Quiet.append (hwaited waited) (List.pairwise_cons.mpr ⟨?_, quiet_replicate closes⟩)
      exact fun later hlater _ => List.eq_of_mem_replicate hlater
  | upgraded waited response behind reactions hflow =>
      refine Quiet.append (hwaited waited) (quiet_upgrade ?_ response)
      have hquiet := quiet_reactions hflow 0
      rwa [List.replicate_zero, List.append_nil] at hquiet
  | ended waited response behind reactions flow closes hflow hreactions =>
      refine Quiet.append (hwaited waited) (quiet_upgrade ?_ response)
      rw [hreactions]
      exact quiet_reactions hflow (closes + 1)

/-! ## One more chunk -/

variable {settings : Settings} {isEnabled : String → Bool} {connection : Connection}

private theorem awake_lifecycle_ne_closed (h : connection.lifecycle ≠ .closed) :
    connection.awake.lifecycle ≠ .closed := by
  unfold awake
  split
  · exact Lifecycle.noConfusion
  · exact h

/-- What is decoded lets the connection go on, or ends it. -/
private theorem react_shape {lifecycle : Lifecycle} (hopen : lifecycle ≠ .closed)
    (outcome : Except Fault Frame.Outcome) (decoder : Frame.Decoder) (metadata : Metadata) :
    (react lifecycle outcome).1.Flows ∧
        shape ⟨(react lifecycle outcome).2.1, .websocket decoder, metadata⟩ = .upgraded ∨
      (react lifecycle outcome).1 = .close ∧
        shape ⟨(react lifecycle outcome).2.1, .websocket decoder, metadata⟩ = .ended := by
  have hon : shape ⟨lifecycle, .websocket decoder, metadata⟩ = .upgraded :=
    shape_eq_upgraded rfl hopen
  unfold react
  split
  · split_ifs with hempty
    · exact .inl ⟨.await, hon⟩
    · exact .inl ⟨.forward (by simpa using hempty), hon⟩
  · exact .inl ⟨.await, hon⟩
  · exact .inr ⟨rfl, rfl⟩
  · exact .inr ⟨rfl, rfl⟩

private theorem upgrade_turn (limits : Frame.Limits) (request : Handshake.Request)
    (behind : Bytes) :
    Turn .waiting (upgrade limits request behind).action
      (upgrade limits request behind).connection.shape := by
  rw [upgrade_eq]
  have hopen : Lifecycle.established ≠ .closed := Lifecycle.noConfusion
  rcases react_shape hopen (Frame.decode limits behind)
      ⟨Frame.retained (Frame.decode limits behind) behind⟩ request.metadata with
    ⟨hflows, hshape⟩ | ⟨hclose, hshape⟩
  · rw [hshape]
    exact .upgrade _ hflows
  · rw [hshape, hclose]
    exact .upgradeAndEnd _

/-- A chunk is one turn, if a native connection has not ended. -/
theorem receive_turn (hnative : connection.state = .native → connection.lifecycle ≠ .closed)
    (chunk : Bytes) :
    Turn connection.shape (connection.receive settings isEnabled chunk).action
      (connection.receive settings isEnabled chunk).connection.shape := by
  have hmove := receive_move settings isEnabled connection chunk
  generalize connection.receive settings isEnabled chunk = step at hmove ⊢
  cases hmove with
  | ended hclosed =>
      refine .remain ?_
      cases hstate : connection.state with
      | native => exact absurd hclosed (hnative hstate)
      | unclassified buffer => exact .inl (shape_eq_rejected hstate hclosed)
      | websocket decoder => exact .inr (shape_eq_ended hstate hclosed)
  | @waited buffer hopen hstate =>
      have hwaiting :
          shape { connection.awake with state := .unclassified (buffer ++ chunk) } = .waiting :=
        shape_eq_waiting rfl (awake_lifecycle_ne_closed hopen)
      rw [shape_eq_waiting hstate hopen, hwaiting]
      exact .await
  | turnedNative hopen hstate =>
      rw [shape_eq_waiting hstate hopen]
      exact .becomeNative _
  | @answered buffer length hopen hstate =>
      rw [shape_eq_waiting hstate hopen]
      rcases Handshake.negotiate isEnabled ((buffer ++ chunk).take length) with
        (flaw | path) | request
      · exact .becomeNative _
      · exact .reject
      · exact upgrade_turn settings.limits request _
  | copied _ hstate =>
      have hawake : connection.awake.state = .native := by rw [awake_state, hstate]
      rw [shape_eq_native hstate, shape_eq_native hawake]
      exact .copy chunk
  | @decoded decoder hopen hstate =>
      rw [receiveFrames_eq, shape_eq_upgraded hstate hopen]
      generalize Frame.decode settings.limits (decoder.pending ++ chunk) = outcome
      rcases react_shape (awake_lifecycle_ne_closed hopen) outcome
          ⟨Frame.retained outcome (decoder.pending ++ chunk)⟩ connection.awake.metadata with
        ⟨hflows, hshape⟩ | ⟨hclose, hshape⟩
      · simp only [hshape]
        exact .flow hflows
      · simp only [hshape, hclose]
        exact .finish

end Connection

/-! ## Over a router -/

namespace Router

open Connection (Exchange Trace Quiet)
open Handshake (requestStart blankLine)

variable {router : Router} {id : ConnectionId}

theorem trace_run (habsent : router.connections[id]? = none) (inputs : List Input) :
    Trace ((run router inputs).connection id).shape
      (((run router inputs).exchanges id).map Exchange.action) := by
  refine (run_invariant_of_gates (fun exchanges connection =>
    Connection.Shaped router.settings (Gate router inputs) exchanges connection ∧
      Trace connection.shape (exchanges.map Exchange.action))
    ⟨.inl ⟨rfl, rfl⟩, .waiting 0⟩ habsent inputs ?_).2
  intro isEnabled hgate exchanges connection chunk ⟨hshaped, htrace⟩
  refine ⟨shaped_receive hgate hshaped chunk, ?_⟩
  rw [List.map_append]
  refine htrace.concat (Connection.receive_turn ?_ chunk)
  intro hnative
  rw [(hshaped.of_native hnative).1]
  exact Lifecycle.noConfusion

/-- A chunk on a connection that has ended changes nothing at all. -/
theorem receive_of_closed {connection : Connection}
    (hconnection : router.connections[id]? = some connection)
    (hclosed : connection.lifecycle = .closed) (chunk : Bytes) :
    router.receive id chunk = (.close none, router) := by
  have hsame : router.connections.insert id connection = router.connections := by
    refine Std.ExtTreeMap.ext_getElem? fun other => ?_
    rw [Std.ExtTreeMap.getElem?_insert]
    simp only [Std.LawfulEqCmp.compare_eq_iff_eq]
    split_ifs with heq
    · rw [← heq, hconnection]
    · rfl
  have hstep : connection.receive router.settings router.scopes.isEnabled chunk =
      ⟨.close none, connection, []⟩ := by
    rw [Connection.receive, if_pos hclosed]
  rw [receive_eq, hconnection, Option.getD_some, hstep, hsame]
  rfl

/-- As long as the entry is not dropped, a protocol that is known stays. -/
theorem protocol_run_append (inputs : List Input) {more : List Input}
    (hmore : .close id ∉ more)
    (hknown : ((run router inputs).connection id).protocol ≠ .unclassified) :
    ((run router (inputs ++ more)).connection id).protocol =
      ((run router inputs).connection id).protocol := by
  induction more using List.reverseRecOn with
  | nil => rw [List.append_nil]
  | append_singleton more input ih =>
      rw [List.mem_append, not_or, List.mem_singleton] at hmore
      have hbefore := ih hmore.1
      rw [← List.append_assoc, run_concat, History.connection]
      cases input with
      | receive other chunk =>
          rw [History.step_receive]
          split_ifs with heq
          · subst heq
            have hdecided : ((run router (inputs ++ more)).connection other).Decided :=
              .inr (hbefore ▸ hknown)
            have hstanding := (hdecided.receive (run router (inputs ++ more)).router.settings
              (run router (inputs ++ more)).router.scopes.isEnabled [] chunk).2
            exact (congrArg Connection.Standing.protocol hstanding).trans hbefore
          · exact hbefore
      | close other =>
          have hother : other ≠ id := fun heq => hmore.2 (congrArg Input.close heq.symm)
          rw [History.step_close, if_neg hother]
          exact hbefore
      | setEnabled app enabled => exact hbefore

/-- **The actions of a connection, in order.**  What an entry was answered with, from its first
chunk until it was dropped or until now, is a trace: the connection waits, and then it forwards
everything, or it is turned down and closes, or it is upgraded, lets data through, and closes.  So
there is at most one reply, and behind the end of the connection nothing but closing.  The trace is
of the kind that the shape of the present entry says, a protocol that is known stays until the entry
is dropped, and a chunk on an entry that has ended changes nothing. -/
theorem run_trace (settings : Connection.Settings) (scopes : Scope.Registry) (metrics : Metrics)
    (inputs : List Input) (id : ConnectionId) :
    let router : Router := { settings, scopes, metrics }
    let history := run router inputs
    (∀ lifetime ∈ history.lifetimes id,
      (∃ shape, Trace shape (lifetime.map Exchange.action)) ∧
        (Connection.replies lifetime).length ≤ 1 ∧ Quiet (lifetime.map Exchange.action)) ∧
    Trace (history.connection id).shape ((history.exchanges id).map Exchange.action) ∧
    (∀ more, .close id ∉ more → (history.connection id).protocol ≠ .unclassified →
      ((run router (inputs ++ more)).connection id).protocol =
        (history.connection id).protocol) ∧
    (∀ connection, history.router.connections[id]? = some connection →
      connection.lifecycle = .closed →
      ∀ chunk, history.router.receive id chunk = (.close none, history.router)) := by
  intro router history
  have habsent : router.connections[id]? = none := Std.ExtTreeMap.getElem?_empty
  refine ⟨?_, trace_run habsent inputs, fun more => protocol_run_append inputs,
    fun connection hconnection hclosed => receive_of_closed hconnection hclosed⟩
  intro lifetime hlifetime
  obtain ⟨before, _, rfl⟩ := exists_prefix_of_mem_lifetimes hlifetime
  have htrace := trace_run habsent before
  refine ⟨⟨_, htrace⟩, ?_, htrace.quiet⟩
  have hreplies := htrace.replies_length_le
  rwa [List.filterMap_map] at hreplies

/-- `G` and `X` are native until the entry is dropped, a native entry stays native, and the request
for `/` is turned down once and for all. -/
theorem run_trace_seven :
    [⟨[0x47], .await⟩, ⟨[0x58], .forward [0x47, 0x58]⟩] ∈
      (run {} [.receive 7 [0x47], .receive 7 [0x58], .close 7]).lifetimes 7 ∧
    Quiet [.await, .forward [0x47, 0x58]] ∧
    ((run {} [.receive 7 [0x58]]).connection 7).protocol = .native ∧
    ((run {} ([.receive 7 [0x58]] ++ [.close 6, .receive 7 requestStart])).connection 7).protocol =
      .native ∧
    (run {} [.receive 7 (requestStart ++ [0x2F, 0x20] ++ blankLine)]).router.connections[7]? =
      some { lifecycle := .closed, metadata := { path := "/" } } ∧
    ((run {} [.receive 7 (requestStart ++ [0x2F, 0x20] ++ blankLine)]).router.receive 7
      [0x58]).1 = .close none := by
  have hlifetime : [⟨[0x47], .await⟩, ⟨[0x58], .forward [0x47, 0x58]⟩] ∈
      (run {} [.receive 7 [0x47], .receive 7 [0x58], .close 7]).lifetimes 7 := .head _
  have hnative : ((run {} [.receive 7 [0x58]]).connection 7).protocol = .native := by decide
  have hclosed :
      (run {} [.receive 7 (requestStart ++ [0x2F, 0x20] ++ blankLine)]).router.connections[7]? =
        some { lifecycle := .closed, metadata := { path := "/" } } := by rfl
  obtain ⟨hlifetimes, -⟩ :=
    run_trace {} {} {} [.receive 7 [0x47], .receive 7 [0x58], .close 7] 7
  obtain ⟨-, -, hstays, -⟩ := run_trace {} {} {} [.receive 7 [0x58]] 7
  obtain ⟨-, -, -, hover⟩ :=
    run_trace {} {} {} [.receive 7 (requestStart ++ [0x2F, 0x20] ++ blankLine)] 7
  refine ⟨hlifetime, (hlifetimes _ hlifetime).2.2, hnative, ?_, hclosed, ?_⟩
  · have hknown : ((run {} [.receive 7 [0x58]]).connection 7).protocol ≠ .unclassified := by
      rw [hnative]
      exact Protocol.noConfusion
    exact (hstays [.close 6, .receive 7 requestStart] (by simp) hknown).trans hnative
  · rw [hover _ hclosed rfl]

end Router
end SharedListener
