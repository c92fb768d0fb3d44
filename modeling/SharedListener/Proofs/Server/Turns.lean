import SharedListener.Proofs.Server.Changes

/-!
# Turns

A program that serves connections keeps no notes of what it has written and
delivered.  It takes turns: each of them carries one input through and hands over
what came of it (`Server.turn`).

A server that has handed something over is like one that has kept it, but for the
notes (`Mirrors`), and no step looks at the notes.  So turns come to the same as a
run (`turns_run`): the gateway is the same, the same connections are live, and all
that was handed over, put together, is what the run has noted.  What is proved of
runs is proved of the program.
-/

namespace SharedListener.Server

variable {server full small : Server} {handed : List Outbox} {id other : ConnectionId}

/-- Takes one turn for each input, in order. -/
def turns (server : Server) : List Input → List Outbox × Server
  | [] => ([], server)
  | input :: inputs =>
    let (outbox, next) := server.turn input
    let (outboxes, last) := next.turns inputs
    (outbox :: outboxes, last)

/-- All that outboxes have for the client of a connection. -/
def repliesTo (outboxes : List Outbox) (id : ConnectionId) : Bytes :=
  outboxes.flatMap fun outbox => if outbox.client? = some id then outbox.reply else []

@[simp] theorem repliesTo_concat (outboxes : List Outbox) (outbox : Outbox) (id : ConnectionId) :
    repliesTo (outboxes ++ [outbox]) id =
      repliesTo outboxes id ++ if outbox.client? = some id then outbox.reply else [] := by
  simp [repliesTo]

/-- Two servers of which the second has handed over what the first has kept. -/
structure Mirrors (full small : Server) (handed : List Outbox) : Prop where
  gateway_eq : small.gateway = full.gateway
  taken_eq : small.taken = full.taken
  hasConsumer_eq : small.hasConsumer = full.hasConsumer
  isAccepting_eq : small.isAccepting = full.isAccepting
  isLive_eq (id : ConnectionId) : small.isLive id = full.isLive id
  delivered_eq : full.delivered = handed.flatMap Outbox.deliveries ++ small.delivered
  writtenTo_eq (id : ConnectionId) : full.writtenTo id = repliesTo handed id ++ small.writtenTo id

/-! ## Which connections are live -/

theorem isLive_connect (server : Server) (id : ConnectionId) :
    server.connect.isLive id = (decide (server.nextId = id) || server.isLive id) := by
  rw [Bool.eq_iff_iff, isLive_iff, ended?_connect, Bool.or_eq_true, isLive_iff, decide_eq_true_iff]
  split_ifs with hnext <;> simp [hnext]

theorem isLive_finish (server : Server) (id other : ConnectionId) :
    (server.finish id).isLive other = (decide (id ≠ other) && server.isLive other) := by
  rw [Bool.eq_iff_iff, isLive_iff, ended?_finish, Bool.and_eq_true, isLive_iff, decide_eq_true_iff]
  split_ifs with heq <;> simp [heq]

/-! ## One step in both servers -/

namespace Mirrors

protected theorem refl (server : Server) : Mirrors server server [] :=
  ⟨rfl, rfl, rfl, rfl, fun _ => rfl, rfl, fun _ => rfl⟩

theorem nextId_eq (h : Mirrors full small handed) : small.nextId = full.nextId :=
  congrArg (· + 1) h.taken_eq

/-- Nothing was written to a client that is new. -/
theorem writtenTo_of_new (h : Mirrors full small handed) (hnew : full.ended? id = none) :
    repliesTo handed id = [] ∧ small.writtenTo id = [] := by
  have hnothing : full.writtenTo id = [] := by
    rw [writtenTo, Option.map_eq_none_iff.mp hnew]
    rfl
  rw [h.writtenTo_eq id] at hnothing
  exact List.append_eq_nil_iff.mp hnothing

theorem connect (h : Mirrors full small handed) (horderly : full.Orderly) :
    Mirrors full.connect small.connect handed where
  gateway_eq := congrArg Gateway.accept h.gateway_eq
  taken_eq := congrArg (· + 1) h.taken_eq
  hasConsumer_eq := h.hasConsumer_eq
  isAccepting_eq := h.isAccepting_eq
  isLive_eq id := by rw [isLive_connect, isLive_connect, h.nextId_eq, h.isLive_eq]
  delivered_eq := h.delivered_eq
  writtenTo_eq id := by
    rw [writtenTo_connect horderly.nextId_new, h.writtenTo_eq]
    congr 1
    -- the one who connects takes the place of nobody to whom something is to be written
    by_cases hnext : small.nextId = id
    · rw [h.nextId_eq] at hnext
      rw [(h.writtenTo_of_new (hnext ▸ horderly.nextId_new)).2, writtenTo, Server.connect,
        h.nextId_eq, hnext, Std.ExtTreeMap.getElem?_insert_self]
      rfl
    · rw [writtenTo, writtenTo, Server.connect, Std.ExtTreeMap.getElem?_insert,
        if_neg (by simpa using hnext)]

theorem serve (h : Mirrors full small handed) (hlive : full.isLive id) (chunk : Bytes) :
    Mirrors (full.serve id chunk) (small.serve id chunk) handed where
  gateway_eq := by
    show (small.gateway.receive id chunk).2 = (full.gateway.receive id chunk).2
    rw [h.gateway_eq]
  taken_eq := h.taken_eq
  hasConsumer_eq := h.hasConsumer_eq
  isAccepting_eq := h.isAccepting_eq
  isLive_eq other := by rw [isLive_serve, isLive_serve, h.isLive_eq]
  delivered_eq := h.delivered_eq
  writtenTo_eq other := by
    have hstill : small.isLive id := by rwa [h.isLive_eq]
    by_cases heq : id = other
    · subst heq
      rw [writtenTo_serve hlive, writtenTo_serve hstill, h.writtenTo_eq, h.gateway_eq,
        List.append_assoc]
    · rw [writtenTo_serve_of_ne heq, writtenTo_serve_of_ne heq, h.writtenTo_eq]

theorem deliver (h : Mirrors full small handed) (delivery : Delivery) :
    Mirrors (full.deliver delivery) (small.deliver delivery) handed where
  gateway_eq := by rw [gateway_deliver, gateway_deliver, h.gateway_eq]
  taken_eq := by rw [taken_deliver, taken_deliver, h.taken_eq]
  hasConsumer_eq := by rw [hasConsumer_deliver, hasConsumer_deliver, h.hasConsumer_eq]
  isAccepting_eq := by rw [isAccepting_deliver, isAccepting_deliver, h.isAccepting_eq]
  isLive_eq id := by rw [isLive_deliver, isLive_deliver, h.isLive_eq]
  delivered_eq := by
    rw [delivered_deliver, delivered_deliver, h.hasConsumer_eq, h.delivered_eq]
    split_ifs
    · rw [List.append_assoc]
    · rfl
  writtenTo_eq id := by rw [writtenTo_deliver, writtenTo_deliver, h.writtenTo_eq]

theorem finish (h : Mirrors full small handed) (id : ConnectionId) :
    Mirrors (full.finish id) (small.finish id) handed where
  gateway_eq := congrArg (Gateway.release · id) h.gateway_eq
  taken_eq := by rw [taken_finish, taken_finish, h.taken_eq]
  hasConsumer_eq := by rw [hasConsumer_finish, hasConsumer_finish, h.hasConsumer_eq]
  isAccepting_eq := by rw [isAccepting_finish, isAccepting_finish, h.isAccepting_eq]
  isLive_eq other := by rw [isLive_finish, isLive_finish, h.isLive_eq]
  delivered_eq := (h.deliver (.closed id)).delivered_eq
  writtenTo_eq other := by rw [writtenTo_finish, writtenTo_finish, h.writtenTo_eq]

theorem react (h : Mirrors full small handed) (id : ConnectionId)
    (reaction : Connection.Reaction) :
    Mirrors (full.react id reaction) (small.react id reaction) handed := by
  cases reaction with
  | forward octets =>
      unfold Server.react forward
      rw [h.hasConsumer_eq, h.gateway_eq]
      split_ifs
      · exact h.deliver _
      · exact h.finish id
  | await => exact h
  | close => exact h.finish id

theorem read (h : Mirrors full small handed) (id : ConnectionId) (chunk : Bytes) :
    Mirrors (full.read id chunk) (small.read id chunk) handed := by
  by_cases hlive : full.isLive id
  · have hstill : small.isLive id := by rwa [h.isLive_eq]
    rw [read_eq hlive, read_eq hstill, h.gateway_eq]
    exact (h.serve hlive chunk).react id _
  · have hdead : ¬ small.isLive id := by rwa [h.isLive_eq]
    rwa [read_of_not_live hlive, read_of_not_live hdead]

theorem receive (h : Mirrors full small handed) (id : ConnectionId) (octets : Bytes) :
    Mirrors (full.receive id octets) (small.receive id octets) handed := by
  unfold Server.receive
  rw [h.gateway_eq]
  generalize pieces full.gateway.config.listener.readBufferBytes octets = chunks
  induction chunks generalizing full small with
  | nil => exact h
  | cons chunk chunks ih => exact ih (h.read id chunk)

theorem step (h : Mirrors full small handed) (horderly : full.Orderly) (input : Input) :
    Mirrors (full.step input) (small.step input) handed := by
  cases input with
  | connect =>
      show Mirrors (if full.isAccepting then _ else _) (if small.isAccepting then _ else _) handed
      rw [h.isAccepting_eq]
      split_ifs
      · exact h.connect horderly
      · exact h
  | send id octets => exact h.receive id octets
  | finish id | reset id =>
      show Mirrors (if full.isLive id then _ else _) (if small.isLive id then _ else _) handed
      rw [h.isLive_eq]
      split_ifs
      · exact h.finish id
      · exact h
  | dropConsumer =>
      exact ⟨h.gateway_eq, h.taken_eq, rfl, h.isAccepting_eq, h.isLive_eq, h.delivered_eq,
        h.writtenTo_eq⟩
  | setEnabled app enabled =>
      exact ⟨congrArg (Gateway.setEnabled · app enabled) h.gateway_eq, h.taken_eq,
        h.hasConsumer_eq, h.isAccepting_eq, h.isLive_eq, h.delivered_eq, h.writtenTo_eq⟩
  | shutdown stop abandon =>
      exact ⟨h.gateway_eq, h.taken_eq, h.hasConsumer_eq,
        congrArg (· && !(stop || abandon)) h.isAccepting_eq, h.isLive_eq, h.delivered_eq,
        h.writtenTo_eq⟩

end Mirrors

/-! ## Handing over -/

theorem isLive_handOver (server : Server) (client? : Option ConnectionId) (other : ConnectionId) :
    (server.handOver client?).isLive other = server.isLive other := by
  cases client? with
  | none => rfl
  | some id =>
      unfold handOver isLive
      rw [Std.ExtTreeMap.getElem?_alter]
      simp only [Std.LawfulEqCmp.compare_eq_iff_eq]
      split_ifs with heq
      · subst heq
        cases server.clients[id]? with
        | none => rfl
        | some client => cases hended : client.ended <;> simp [hended]
      · rfl

theorem writtenTo_handOver (server : Server) (client? : Option ConnectionId)
    (other : ConnectionId) :
    (server.handOver client?).writtenTo other =
      if client? = some other then [] else server.writtenTo other := by
  cases client? with
  | none => rfl
  | some id =>
      unfold handOver writtenTo
      rw [Std.ExtTreeMap.getElem?_alter]
      simp only [Std.LawfulEqCmp.compare_eq_iff_eq, Option.some.injEq]
      split_ifs with heq
      · subst heq
        cases server.clients[id]? with
        | none => rfl
        | some client => cases hended : client.ended <;> simp [hended]
      · rfl

theorem Mirrors.handOver (h : Mirrors full small handed) (client? : Option ConnectionId) :
    Mirrors full (small.handOver client?) (handed ++ [small.outbox client?]) where
  gateway_eq := by cases client? <;> exact h.gateway_eq
  taken_eq := by cases client? <;> exact h.taken_eq
  hasConsumer_eq := by cases client? <;> exact h.hasConsumer_eq
  isAccepting_eq := by cases client? <;> exact h.isAccepting_eq
  isLive_eq id := by rw [isLive_handOver, h.isLive_eq]
  delivered_eq := by
    have hnothing : (small.handOver client?).delivered = [] := by cases client? <;> rfl
    rw [hnothing, h.delivered_eq]
    simp [outbox]
  writtenTo_eq id := by
    rw [h.writtenTo_eq, writtenTo_handOver, repliesTo_concat, outbox]
    dsimp only
    split_ifs with hclient
    · subst hclient
      simp
    · simp

/-! ## Nothing is kept -/

/-- The server has nothing to hand over. -/
def Settled (server : Server) : Prop :=
  server.delivered = [] ∧ ∀ id, server.writtenTo id = []

/-- What is read from one connection is answered to no other one. -/
theorem writtenTo_receive_of_ne (h : other ≠ id) (octets : Bytes) :
    (server.receive other octets).writtenTo id = server.writtenTo id := by
  refine receive_induction (fun later => later.writtenTo id = server.writtenTo id) rfl ?_ octets
  intro later chunk hkept hlive hne
  have hserve : (later.serve other chunk).writtenTo id = server.writtenTo id :=
    (writtenTo_serve_of_ne h chunk).trans hkept
  rcases read_cases hlive hne with heq | ⟨_, _, _, _, _, _, heq⟩ | heq <;> rw [heq]
  · exact hserve
  · rwa [writtenTo_deliver]
  · rwa [writtenTo_finish]

theorem Settled.writtenTo_step (h : server.Settled) {input : Input}
    (hclient : input.client? ≠ some id) : (server.step input).writtenTo id = [] := by
  rw [← h.2 id]
  cases input with
  | connect =>
      show (if server.isAccepting then server.connect else server).writtenTo id = _
      split_ifs
      · rw [h.2 id, writtenTo, Server.connect, Std.ExtTreeMap.getElem?_insert]
        split_ifs
        · rfl
        · exact h.2 id
      · rfl
  | send other octets =>
      apply writtenTo_receive_of_ne
      rintro rfl
      exact hclient rfl
  | finish other | reset other =>
      show (if server.isLive other then server.finish other else server).writtenTo id = _
      split_ifs
      · exact writtenTo_finish server other
      · rfl
  | dropConsumer | setEnabled | shutdown => rfl

theorem Settled.turn (h : server.Settled) (input : Input) : (server.turn input).2.Settled := by
  refine ⟨?_, fun id => ?_⟩
  · unfold Server.turn handOver
    cases input.client? <;> rfl
  · rw [Server.turn, writtenTo_handOver]
    split_ifs with hclient
    · rfl
    · exact h.writtenTo_step hclient

/-! ## All turns -/

private theorem mirrors_turns (h : Mirrors full small handed) (horderly : full.Orderly)
    (hsettled : small.Settled) (inputs : List Input) :
    Mirrors (run full inputs) (small.turns inputs).2 (handed ++ (small.turns inputs).1) ∧
      (small.turns inputs).2.Settled := by
  induction inputs generalizing full small handed with
  | nil =>
      rw [turns, List.append_nil]
      exact ⟨h, hsettled⟩
  | cons input inputs ih =>
      have hturn := (h.step horderly input).handOver input.client?
      have hrest := ih hturn (horderly.changes (step_changes full input)) (hsettled.turn input)
      rw [List.append_assoc] at hrest
      exact hrest

/-- **Turns come to a run.**  Let a program take turns with the server of a gateway that has just
started.  Then gateway and connections are at any time as they are after the run of the same inputs;
the deliveries that were handed over are those of the run, in order; and each client was sent what
the run has written to it. -/
theorem turns_run {config : Config} {gateway : Gateway}
    (hstart : Gateway.start config = .ok gateway) (inputs : List Input) :
    let taken := (ofGateway gateway).turns inputs
    let server := run (.ofGateway gateway) inputs
    taken.2.gateway = server.gateway ∧ (∀ id, taken.2.isLive id = server.isLive id) ∧
      taken.1.flatMap Outbox.deliveries = server.delivered ∧
      ∀ id, repliesTo taken.1 id = server.writtenTo id := by
  intro taken server
  have hsettled : (ofGateway gateway).Settled :=
    ⟨rfl, fun id => by simp [writtenTo, ofGateway]⟩
  obtain ⟨hmirrors, hdelivered, hwritten⟩ :=
    mirrors_turns (.refl (ofGateway gateway)) (Orderly.start hstart) hsettled inputs
  rw [List.nil_append] at hmirrors
  refine ⟨hmirrors.gateway_eq, hmirrors.isLive_eq, ?_, fun id => ?_⟩
  · rw [hmirrors.delivered_eq, hdelivered, List.append_nil]
  · rw [hmirrors.writtenTo_eq id, hwritten id, List.append_nil]

end SharedListener.Server
