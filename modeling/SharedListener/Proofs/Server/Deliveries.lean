import SharedListener.Proofs.Connection.Standing
import SharedListener.Proofs.Server.Changes

/-!
# What the consumer is told

Of each connection the consumer gets bytes, all under one protocol, and when the
connection has ended one notice and nothing more (`Told`).  The protocol is the
one that the router knows the connection by at that moment: once it is known it
stays, so that all bytes go under the same one.
-/

namespace SharedListener

/-- The connection that a delivery is about. -/
def Delivery.id : Delivery → ConnectionId
  | .payload id _ _ | .closed id => id

/-! ## The protocol that a router knows -/

namespace Router

variable {router : Router} {id other : ConnectionId} {protocol : Protocol}

theorem protocol?_receive_of_known (h : router.protocol? id = some protocol)
    (hknown : protocol ≠ .unclassified) (chunk : Bytes) :
    (router.receive id chunk).2.protocol? id = some protocol := by
  obtain ⟨connection, hconnection, rfl⟩ := Option.map_eq_some_iff.mp h
  have hdecided : connection.Decided := .inr hknown
  have hstanding :=
    (hdecided.receive router.settings router.scopes.isEnabled [] chunk).2
  rw [protocol?_receive, hconnection]
  exact congrArg (some ∘ Connection.Standing.protocol) hstanding

theorem protocol?_receive_of_ne (h : id ≠ other) (chunk : Bytes) :
    (router.receive id chunk).2.protocol? other = router.protocol? other := by
  rw [protocol?, receive_connections, Std.ExtTreeMap.getElem?_insert]
  simp only [Std.LawfulEqCmp.compare_eq_iff_eq, if_neg h]
  rfl

end Router

namespace Server

variable {server after : Server} {id : ConnectionId}

/-! ## The deliveries of one connection -/

/-- What the consumer got of a connection, in order. -/
def deliveriesOf (server : Server) (id : ConnectionId) : List Delivery :=
  server.delivered.filter fun delivery => delivery.id = id

theorem deliveriesOf_deliver (server : Server) (delivery : Delivery) :
    (server.deliver delivery).deliveriesOf id =
      if server.hasConsumer ∧ delivery.id = id then server.deliveriesOf id ++ [delivery]
      else server.deliveriesOf id := by
  rw [deliveriesOf, delivered_deliver]
  by_cases hconsumer : server.hasConsumer <;> by_cases hid : delivery.id = id <;>
    simp [deliveriesOf, hconsumer, hid]

@[simp] theorem deliveriesOf_finish (server : Server) (other : ConnectionId) :
    (server.finish other).deliveriesOf id = (server.deliver (.closed other)).deliveriesOf id := rfl

@[simp] theorem deliveriesOf_serve (server : Server) (other : ConnectionId) (chunk : Bytes) :
    (server.serve other chunk).deliveriesOf id = server.deliveriesOf id := rfl

/-- The consumer got bytes of the connection under this protocol, and the notice if the connection
has ended. -/
structure Told (server : Server) (id : ConnectionId) (protocol : Protocol)
    (payloads : List Bytes) : Prop where
  known : protocol ≠ .unclassified
  nonempty : ∀ payload ∈ payloads, payload ≠ []
  deliveries_eq : server.deliveriesOf id =
    payloads.map (.payload id protocol) ++
      if server.ended? id = some true then [.closed id] else []
  protocol_eq : payloads ≠ [] → server.isLive id →
    server.gateway.router.protocol? id = some protocol
  nil_of_not_given : server.ended? id = none → payloads = []

namespace Told

variable {protocol : Protocol} {payloads : List Bytes}

/-- What the consumer was told is a matter of these three things. -/
private theorem congr (h : server.Told id protocol payloads)
    (hended : after.ended? id = server.ended? id)
    (hdeliveries : after.deliveriesOf id = server.deliveriesOf id)
    (hprotocol : server.gateway.router.protocol? id = some protocol →
      after.gateway.router.protocol? id = some protocol) :
    after.Told id protocol payloads where
  known := h.known
  nonempty := h.nonempty
  deliveries_eq := by rw [hdeliveries, hended, h.deliveries_eq]
  protocol_eq hne hlive := by
    rw [isLive_iff, hended, ← isLive_iff] at hlive
    exact hprotocol (h.protocol_eq hne hlive)
  nil_of_not_given hnone := h.nil_of_not_given (hended ▸ hnone)

/-- A new connection is one of which nothing was told. -/
private theorem connect (h : server.Told id protocol payloads)
    (hnew : server.ended? server.nextId = none) : server.connect.Told id protocol payloads := by
  by_cases hnext : server.nextId = id
  · have hnone : server.ended? id = none := hnext ▸ hnew
    have hended : server.connect.ended? id = some false := by rw [ended?_connect, if_pos hnext]
    have hpayloads := h.nil_of_not_given hnone
    refine ⟨h.known, h.nonempty, ?_, fun hne => absurd hpayloads hne, fun _ => hpayloads⟩
    have hdeliveries := h.deliveries_eq
    rw [hnone] at hdeliveries
    rw [hended]
    exact hdeliveries
  · exact h.congr (by rw [ended?_connect, if_neg hnext]) rfl fun hbefore => hbefore

/-- Bytes are handed on under the protocol of those before them. -/
private theorem handOn (h : server.Told id protocol payloads) (hlive : server.isLive id)
    (hconsumer : server.hasConsumer) {current : Protocol} {octets : Bytes}
    (hcurrent : server.gateway.router.protocol? id = some current)
    (hknown : current ≠ .unclassified) (hne : octets ≠ []) :
    (server.deliver (.payload id current octets)).Told id current (payloads ++ [octets]) := by
  -- the protocol of what was handed on before is the current one, since it is known and stays
  have hsame : payloads.map (Delivery.payload id protocol) =
      payloads.map (Delivery.payload id current) := by
    by_cases hpayloads : payloads = []
    · rw [hpayloads]
      rfl
    · rw [Option.some.inj ((h.protocol_eq hpayloads hlive).symm.trans hcurrent)]
  have hended := isLive_iff.mp hlive
  refine ⟨hknown, ?_, ?_, fun _ _ => by rwa [gateway_deliver], ?_⟩
  · exact List.forall_mem_append.mpr ⟨h.nonempty, by simpa using hne⟩
  · rw [deliveriesOf_deliver, if_pos ⟨hconsumer, rfl⟩, ended?_deliver, h.deliveries_eq, hended,
      hsame]
    simp
  · rw [ended?_deliver, hended]
    exact nofun

/-- With the end of the connection comes the notice. -/
private theorem finish (h : server.Told id protocol payloads) (hlive : server.isLive id)
    (hconsumer : server.hasConsumer) : (server.finish id).Told id protocol payloads := by
  have hended := isLive_iff.mp hlive
  have hafter : (server.finish id).ended? id = some true := by
    rw [ended?_finish, if_pos rfl, hended]
    rfl
  refine ⟨h.known, h.nonempty, ?_, ?_, ?_⟩
  · rw [deliveriesOf_finish, deliveriesOf_deliver, if_pos ⟨hconsumer, rfl⟩, h.deliveries_eq, hafter,
      hended]
    simp
  · rw [isLive_iff, hafter]
    exact nofun
  · rw [hafter]
    exact nofun

end Told

/-- As long as there is a consumer, it is told what it has to be told. -/
private theorem told_change (horderly : server.Orderly) (hchange : Change server after)
    (hconsumer : after.hasConsumer)
    (h : ∃ protocol payloads, server.Told id protocol payloads) :
    ∃ protocol payloads, after.Told id protocol payloads := by
  obtain ⟨protocol, payloads, h⟩ := h
  cases hchange with
  | connect => exact ⟨protocol, payloads, h.connect horderly.nextId_new⟩
  | @serve receiver chunk _ _ =>
      refine ⟨protocol, payloads, h.congr (ended?_serve server receiver chunk)
        (deliveriesOf_serve server receiver chunk) fun hbefore => ?_⟩
      rw [router_serve]
      by_cases heq : receiver = id
      · subst heq
        exact Router.protocol?_receive_of_known hbefore h.known chunk
      · rwa [Router.protocol?_receive_of_ne heq]
  | @handOn receiver current octets hlive hthere hcurrent hknown hne =>
      by_cases heq : receiver = id
      · subst heq
        exact ⟨current, _, h.handOn hlive hthere hcurrent hknown hne⟩
      · refine ⟨protocol, payloads, h.congr (ended?_deliver _ _) ?_ ?_⟩
        · rw [deliveriesOf_deliver, if_neg fun hboth => heq hboth.2]
        · rw [gateway_deliver]
          exact fun hbefore => hbefore
  | @finish ending hlive =>
      have hthere : server.hasConsumer := by rwa [hasConsumer_finish] at hconsumer
      by_cases heq : ending = id
      · subst heq
        exact ⟨protocol, payloads, h.finish hlive hthere⟩
      · refine ⟨protocol, payloads, h.congr ?_ ?_ fun hbefore => ?_⟩
        · rw [ended?_finish, if_neg heq]
        · rw [deliveriesOf_finish, deliveriesOf_deliver, if_neg fun hboth => heq hboth.2]
        · show (server.gateway.router.close ending).2.protocol? id = _
          rwa [Router.protocol?, Router.close_connections, if_neg heq]
  | dropConsumer => cases hconsumer
  | setEnabled | stop => exact ⟨protocol, payloads, h.congr rfl rfl fun hbefore => hbefore⟩

/-! ## After the notice -/

private theorem ended_change (horderly : server.Orderly) (hchange : Change server after)
    (hended : server.ended? id = some true) :
    after.ended? id = some true ∧ after.deliveriesOf id = server.deliveriesOf id := by
  have hother {other : ConnectionId} (hlive : server.isLive other) : other ≠ id := by
    rintro rfl
    rw [isLive_iff, hended] at hlive
    cases hlive
  cases hchange with
  | connect =>
      have hnext : server.nextId ≠ id := by
        rintro rfl
        rw [horderly.nextId_new] at hended
        cases hended
      exact ⟨by rw [ended?_connect, if_neg hnext, hended], rfl⟩
  | serve => exact ⟨by rw [ended?_serve, hended], rfl⟩
  | handOn hlive =>
      refine ⟨by rw [ended?_deliver, hended], ?_⟩
      rw [deliveriesOf_deliver, if_neg fun hboth => hother hlive hboth.2]
  | finish hlive =>
      refine ⟨by rw [ended?_finish, if_neg (hother hlive), hended], ?_⟩
      rw [deliveriesOf_finish, deliveriesOf_deliver, if_neg fun hboth => hother hlive hboth.2]
  | dropConsumer | setEnabled | stop => exact ⟨hended, rfl⟩

/-- Of a connection that has ended nothing follows. -/
theorem deliveriesOf_run_of_ended (horderly : server.Orderly)
    (hended : server.ended? id = some true) (inputs : List Input) :
    (run server inputs).deliveriesOf id = server.deliveriesOf id := by
  have hchanges := run_changes server inputs
  suffices hkept : ∀ {after}, Relation.ReflTransGen Change server after →
      after.ended? id = some true ∧ after.deliveriesOf id = server.deliveriesOf id from
    (hkept hchanges).2
  intro after hchanges
  induction hchanges with
  | refl => exact ⟨hended, rfl⟩
  | tail hbefore hchange ih =>
      obtain ⟨hstill, hsame⟩ := ended_change (horderly.changes hbefore) hchange ih.1
      exact ⟨hstill, hsame.trans ih.2⟩

/-! ## As long as there is a consumer -/

private theorem hasConsumer_step {input : Input} (h : input ≠ .dropConsumer) :
    (server.step input).hasConsumer = server.hasConsumer := by
  cases input with
  | connect =>
      show (if server.isAccepting then server.connect else server).hasConsumer = _
      split_ifs <;> rfl
  | send id octets => exact (receive_keeps server id octets).1
  | finish id | reset id =>
      show (if server.isLive id then server.finish id else server).hasConsumer = _
      split_ifs
      · exact hasConsumer_finish server id
      · rfl
  | dropConsumer => exact absurd rfl h
  | setEnabled | shutdown => rfl

/-- The consumer is there until it goes away. -/
theorem hasConsumer_run {inputs : List Input} (h : .dropConsumer ∉ inputs) :
    (run server inputs).hasConsumer = server.hasConsumer := by
  induction inputs using List.reverseRecOn with
  | nil => rfl
  | append_singleton inputs input ih =>
      rw [List.mem_append, not_or, List.mem_singleton] at h
      rw [run_concat, hasConsumer_step (Ne.symm h.2), ih h.1]

/-- The end of a connection is told to the consumer, and nothing of the others. -/
private theorem finish_deliveries (hconsumer : server.hasConsumer) {other : ConnectionId}
    (hlive : server.isLive other) (id : ConnectionId) :
    (server.finish other).deliveriesOf id = server.deliveriesOf id ∨
    (server.finish other).deliveriesOf id = server.deliveriesOf id ++ [.closed id] ∧
      (server.finish other).ended? id = some true := by
  rw [deliveriesOf_finish, deliveriesOf_deliver]
  by_cases heq : other = id
  · subst heq
    rw [if_pos ⟨hconsumer, rfl⟩, ended?_finish, if_pos rfl, isLive_iff.mp hlive]
    exact .inr ⟨rfl, rfl⟩
  · rw [if_neg fun hboth => heq hboth.2]
    exact .inl rfl

private theorem read_deliveries (hconsumer : server.hasConsumer) {other : ConnectionId}
    {chunk : Bytes} (hlive : server.isLive other) (hne : chunk ≠ []) (id : ConnectionId) :
    (server.read other chunk).deliveriesOf id = server.deliveriesOf id ∨
    (∃ protocol octets, (server.read other chunk).deliveriesOf id =
        server.deliveriesOf id ++ [.payload id protocol octets] ∧
      (server.read other chunk).gateway.router.protocol? id = some protocol) ∨
    (server.read other chunk).deliveriesOf id = server.deliveriesOf id ++ [.closed id] ∧
      (server.read other chunk).ended? id = some true := by
  have hserved : (server.serve other chunk).hasConsumer := hconsumer
  have hstill : (server.serve other chunk).isLive other := by rwa [isLive_serve]
  rcases read_cases hlive hne with heq | ⟨protocol, octets, _, hprotocol, _, _, heq⟩ | heq <;>
    rw [heq]
  · exact .inl rfl
  · rw [deliveriesOf_deliver, gateway_deliver]
    by_cases hid : other = id
    · subst hid
      rw [if_pos ⟨hserved, rfl⟩]
      exact .inr (.inl ⟨protocol, octets, rfl, hprotocol⟩)
    · rw [if_neg fun hboth => hid hboth.2]
      exact .inl rfl
  · rcases finish_deliveries hserved hstill id with hsame | hnotice
    · exact .inl hsame
    · exact .inr (.inr hnotice)

/-- One read, or one other input, tells at most one thing of a connection: some bytes under the
protocol that the router knows it by then, or the notice. -/
theorem step_deliveries (hconsumer : server.hasConsumer) {input : Input}
    (hread : ∀ other octets, input = .send other octets →
      octets ≠ [] ∧ octets.length ≤ server.gateway.config.listener.readBufferBytes)
    (id : ConnectionId) :
    (server.step input).deliveriesOf id = server.deliveriesOf id ∨
    (∃ protocol octets, (server.step input).deliveriesOf id =
        server.deliveriesOf id ++ [.payload id protocol octets] ∧
      (server.step input).gateway.router.protocol? id = some protocol) ∨
    (server.step input).deliveriesOf id = server.deliveriesOf id ++ [.closed id] ∧
      (server.step input).ended? id = some true := by
  cases input with
  | connect =>
      left
      show (if server.isAccepting then server.connect else server).deliveriesOf id = _
      split_ifs <;> rfl
  | send other octets =>
      obtain ⟨hne, hle⟩ := hread other octets rfl
      rw [step_send hne hle]
      by_cases hlive : server.isLive other
      · exact read_deliveries hconsumer hlive hne id
      · rw [read_of_not_live hlive]
        exact .inl rfl
  | finish other | reset other =>
      by_cases hlive : server.isLive other
      · simp only [step, hlive, if_true]
        rcases finish_deliveries hconsumer hlive id with hsame | hnotice
        · exact .inl hsame
        · exact .inr (.inr hnotice)
      · simp [step, hlive]
  | dropConsumer | setEnabled | shutdown => exact .inl rfl

/-! ## Whole runs -/

theorem told_run {config : Config} {gateway : Gateway}
    (hstart : Gateway.start config = .ok gateway) {inputs : List Input}
    (hconsumer : .dropConsumer ∉ inputs) (id : ConnectionId) :
    ∃ protocol payloads, (run (.ofGateway gateway) inputs).Told id protocol payloads := by
  have hthere : (run (.ofGateway gateway) inputs).hasConsumer := hasConsumer_run hconsumer
  have hchanges := run_changes (.ofGateway gateway) inputs
  generalize run (.ofGateway gateway) inputs = server at hthere hchanges ⊢
  induction hchanges with
  | refl =>
      have hnone : (ofGateway gateway).ended? id = none := by simp [ended?, ofGateway]
      refine ⟨.native, [], Protocol.noConfusion, List.forall_mem_nil _, ?_,
        fun hne => absurd rfl hne, fun _ => rfl⟩
      rw [hnone]
      rfl
  | @tail before after hbefore hchange ih =>
      -- a consumer that is there afterwards was there before
      have hearlier : before.hasConsumer := by
        cases hchange with
        | dropConsumer => cases hthere
        | handOn => rwa [hasConsumer_deliver] at hthere
        | finish => rwa [hasConsumer_finish] at hthere
        | connect | serve | setEnabled | stop => exact hthere
      exact told_change ((Orderly.start hstart).changes hbefore) hchange hthere (ih hearlier)

private theorem dropConsumer_reads {inputs before : List Input} {width : Nat}
    (hconsumer : .dropConsumer ∉ inputs) (hbefore : before <+: inputs.flatMap (Input.reads width)) :
    .dropConsumer ∉ before := by
  intro hmem
  obtain ⟨input, hinput, hreads⟩ := List.mem_flatMap.mp (hbefore.subset hmem)
  cases input with
  | dropConsumer => exact hconsumer hinput
  | send id octets => simp [Input.reads] at hreads
  | connect | finish | reset | setEnabled | shutdown => simp [Input.reads] at hreads

/-- **What the consumer is told.**  As long as there is a consumer, what it gets of a connection is
bytes, never none and all under one protocol, native or WebSocket, and behind them one notice if the
connection has ended.  Taken read by read, the run is the same: each read tells at most one thing,
and bytes go under the protocol that the router then knows the connection by.  Behind the notice
nothing follows. -/
theorem run_deliveries {config : Config} {gateway : Gateway}
    (hstart : Gateway.start config = .ok gateway) (inputs : List Input)
    (hconsumer : .dropConsumer ∉ inputs) (id : ConnectionId) :
    let server := run (.ofGateway gateway) inputs
    let reads := inputs.flatMap (Input.reads config.listener.readBufferBytes)
    (∃ protocol payloads, (protocol = .native ∨ protocol = .websocket) ∧
      (∀ payload ∈ payloads, payload ≠ []) ∧
      server.deliveriesOf id = payloads.map (.payload id protocol) ++
        (if server.ended? id = some true then [.closed id] else []) ∧
      (payloads ≠ [] → server.isLive id →
        server.gateway.router.protocol? id = some protocol)) ∧
    run (.ofGateway gateway) reads = server ∧
    (∀ before input, before ++ [input] <+: reads →
      let earlier := run (.ofGateway gateway) before
      let later := run (.ofGateway gateway) (before ++ [input])
      later.deliveriesOf id = earlier.deliveriesOf id ∨
      (∃ protocol octets,
        later.deliveriesOf id = earlier.deliveriesOf id ++ [.payload id protocol octets] ∧
        later.gateway.router.protocol? id = some protocol) ∨
      later.deliveriesOf id = earlier.deliveriesOf id ++ [.closed id] ∧
        later.ended? id = some true) ∧
    (server.ended? id = some true → ∀ more,
      (run server more).deliveriesOf id = server.deliveriesOf id) := by
  intro server reads
  have hconfig : gateway.config = config := by rw [Gateway.start_eq hstart]
  have horderly : server.Orderly := (Orderly.start hstart).changes (run_changes _ inputs)
  refine ⟨?_, ?_, ?_, fun hended more => deliveriesOf_run_of_ended horderly hended more⟩
  · obtain ⟨protocol, payloads, htold⟩ := told_run hstart hconsumer id
    refine ⟨protocol, payloads, ?_, htold.nonempty, htold.deliveries_eq, htold.protocol_eq⟩
    cases protocol with
    | unclassified => exact absurd rfl htold.known
    | native => exact .inl rfl
    | websocket => exact .inr rfl
  · have hreads := run_reads (.ofGateway gateway) inputs
    rwa [show (ofGateway gateway).gateway.config = config from hconfig] at hreads
  · intro before input hprefix
    have hthere : (run (.ofGateway gateway) before).hasConsumer :=
      hasConsumer_run (dropConsumer_reads hconsumer ((List.prefix_append _ _).trans hprefix))
    intro earlier later
    rw [show later = earlier.step input from run_concat _ before input]
    refine step_deliveries hthere (fun other octets heq => ?_) id
    have hsame : earlier.gateway.config = config :=
      (config_changes (run_changes _ before)).trans hconfig
    subst heq
    have hmem : .send other octets ∈ reads := hprefix.subset (by simp)
    rw [hsame]
    exact reads_send hmem

/-- A native connection that has ended. -/
theorem run_deliveries_native :
    let config : Config := { version := 1, scopes := [{ app := "a" }] }
    let inputs : List Input := [.connect, .send 1 [0x58, 0x59], .finish 1]
    ∃ gateway, Gateway.start config = .ok gateway ∧ .dropConsumer ∉ inputs ∧
      (run (.ofGateway gateway) inputs).ended? 1 = some true ∧
      ∀ more, (run (run (.ofGateway gateway) inputs) more).deliveriesOf 1 =
        [.payload 1 .native [0x58, 0x59], .closed 1] := by
  intro config inputs
  have hconsumer : .dropConsumer ∉ inputs := by simp [inputs]
  obtain ⟨-, -, -, hover⟩ := run_deliveries (Gateway.start_ok config) inputs hconsumer 1
  refine ⟨_, Gateway.start_ok config, hconsumer, by decide +kernel, fun more => ?_⟩
  exact (hover (by decide +kernel) more).trans (by decide +kernel)

end Server
end SharedListener
