import Mathlib.Data.List.Induction
import SharedListener.Server
import SharedListener.Proofs.Router.Run

/-!
# What a read does

A read is taken apart into what the router and the client see of it (`serve`) and
what it calls for behind that: to hand bytes on, to end the connection, or
nothing (`read_cases`).  What a client sends is read in pieces, none of them
empty, until its connection ends (`receive_induction`).
-/

namespace SharedListener

/-! ## What is handed on -/

namespace Connection

variable {settings : Settings} {isEnabled : String → Bool} {connection : Connection}
  {chunk octets : Bytes}

/-- What an action calls for besides its reply. -/
def Action.reaction : Action → Reaction
  | .forward payload => .forward payload
  | .upgrade _ behind => behind.getD .await
  | .await => .await
  | .close _ => .close

@[simp] theorem Reaction.reaction_action (reaction : Reaction) :
    reaction.action.reaction = reaction := by
  cases reaction <;> rfl

@[simp] theorem Action.reaction_upgrade (response : Bytes) (reaction : Reaction) :
    (Action.upgrade response reaction.then?).reaction = reaction :=
  reaction.getD_then?

private theorem react_forward {lifecycle : Lifecycle} {outcome : Except Fault Frame.Outcome}
    (h : (react lifecycle outcome).1 = .forward octets) : octets ≠ [] := by
  unfold react at h
  split at h
  · split_ifs at h with hempty
    cases h
    simpa using hempty
  all_goals cases h

private theorem answer_forward {received behind : Bytes} (hne : received ≠ [])
    {verdict : Except Handshake.Refusal Handshake.Request}
    (h : (answer settings connection received behind verdict).action.reaction =
      .forward octets) :
    octets ≠ [] ∧
      (answer settings connection received behind verdict).connection.protocol ≠
        .unclassified := by
  rcases verdict with (flaw | path) | request
  · cases h
    exact ⟨hne, Protocol.noConfusion⟩
  · cases h
  · rw [answer, upgrade_eq] at h ⊢
    rw [Action.reaction_upgrade] at h
    exact ⟨react_forward h, Protocol.noConfusion⟩

/-- Only a connection of a known protocol hands bytes on, and at least one. -/
theorem receive_forward (hne : chunk ≠ [])
    (h : (connection.receive settings isEnabled chunk).action.reaction = .forward octets) :
    octets ≠ [] ∧
      (connection.receive settings isEnabled chunk).connection.protocol ≠ .unclassified := by
  have hmove := receive_move settings isEnabled connection chunk
  generalize connection.receive settings isEnabled chunk = step at hmove h ⊢
  cases hmove with
  | ended | waited => cases h
  | turnedNative =>
      cases h
      exact ⟨by simp [hne], Protocol.noConfusion⟩
  | answered => exact answer_forward (by simp [hne]) h
  | copied _ hstate =>
      cases h
      refine ⟨hne, ?_⟩
      rw [protocol, awake_state, hstate]
      exact Protocol.noConfusion
  | decoded =>
      rw [receiveFrames_eq] at h ⊢
      rw [Reaction.reaction_action] at h
      exact ⟨react_forward h, Protocol.noConfusion⟩

end Connection

namespace Router

theorem protocol?_receive (router : Router) (id : ConnectionId) (chunk : Bytes) :
    (router.receive id chunk).2.protocol? id =
      some ((router.connections[id]?.getD {}).receive router.settings router.scopes.isEnabled
        chunk).connection.protocol := by
  rw [protocol?, receive_connections, Std.ExtTreeMap.getElem?_insert_self]
  rfl

end Router

namespace Server

variable {server : Server} {id other : ConnectionId} {chunk octets : Bytes}

/-! ## The parts of a read -/

/-- Whether a connection has ended.  A number that was not given has no answer. -/
def ended? (server : Server) (id : ConnectionId) : Option Bool :=
  server.clients[id]?.map Client.ended

theorem isLive_iff : server.isLive id ↔ server.ended? id = some false := by
  rw [isLive, ended?]
  cases server.clients[id]? <;> simp

/-- Lets the router take a chunk, and sends the reply to the client. -/
def serve (server : Server) (id : ConnectionId) (chunk : Bytes) : Server :=
  let (action, gateway) := server.gateway.receive id chunk
  { server with gateway }.write id (action.reply?.getD [])

private theorem write_nil (server : Server) (id : ConnectionId) : server.write id [] = server := by
  have hsame : server.clients.modify id (fun client =>
      { client with written := client.written ++ [] }) = server.clients := by
    refine Std.ExtTreeMap.ext_getElem? fun other => ?_
    rw [Std.ExtTreeMap.getElem?_modify]
    split_ifs with heq
    · obtain rfl := Std.LawfulEqCmp.compare_eq_iff_eq.mp heq
      simp
    · rfl
  rw [write, hsame]

/-- An action is its reply and then its reaction. -/
theorem perform_eq (server : Server) (id : ConnectionId) (action : Connection.Action) :
    server.perform id action =
      (server.write id (action.reply?.getD [])).react id action.reaction := by
  cases action with
  | forward payload => exact congrArg (Server.forward · id payload) (write_nil server id).symm
  | upgrade response behind => cases behind <;> rfl
  | await => exact (write_nil server id).symm
  | close farewell => rfl

/-- A read is what the router and the client see of it, and then what it calls for. -/
theorem read_eq (hlive : server.isLive id) (chunk : Bytes) :
    server.read id chunk = (server.serve id chunk).react id
      (server.gateway.router.receive id chunk).1.reaction := by
  rw [read, if_pos hlive]
  exact perform_eq _ id _

theorem read_of_not_live (h : ¬ server.isLive id) (chunk : Bytes) : server.read id chunk = server :=
  if_neg h

/-! ## What the parts leave alone -/

@[simp] theorem gateway_deliver (server : Server) (delivery : Delivery) :
    (server.deliver delivery).gateway = server.gateway := by
  unfold deliver
  split <;> rfl

@[simp] theorem clients_deliver (server : Server) (delivery : Delivery) :
    (server.deliver delivery).clients = server.clients := by
  unfold deliver
  split <;> rfl

@[simp] theorem hasConsumer_deliver (server : Server) (delivery : Delivery) :
    (server.deliver delivery).hasConsumer = server.hasConsumer := by
  unfold deliver
  split <;> rfl

@[simp] theorem isAccepting_deliver (server : Server) (delivery : Delivery) :
    (server.deliver delivery).isAccepting = server.isAccepting := by
  unfold deliver
  split <;> rfl

@[simp] theorem hasConsumer_finish (server : Server) (id : ConnectionId) :
    (server.finish id).hasConsumer = server.hasConsumer :=
  hasConsumer_deliver server _

@[simp] theorem isAccepting_finish (server : Server) (id : ConnectionId) :
    (server.finish id).isAccepting = server.isAccepting :=
  isAccepting_deliver server _

theorem delivered_deliver (server : Server) (delivery : Delivery) :
    (server.deliver delivery).delivered =
      if server.hasConsumer then server.delivered ++ [delivery] else server.delivered := by
  unfold deliver
  split <;> rfl

@[simp] theorem router_serve (server : Server) (id : ConnectionId) (chunk : Bytes) :
    (server.serve id chunk).gateway.router = (server.gateway.router.receive id chunk).2 := rfl

/-! ## Which connections are there -/

theorem ended?_connect (server : Server) :
    server.connect.ended? other =
      if server.nextId = other then some false else server.ended? other := by
  unfold ended? connect
  rw [Std.ExtTreeMap.getElem?_insert]
  simp only [Std.LawfulEqCmp.compare_eq_iff_eq]
  split_ifs <;> rfl

@[simp] theorem ended?_serve (server : Server) (id : ConnectionId) (chunk : Bytes) :
    (server.serve id chunk).ended? other = server.ended? other := by
  show ((server.clients.modify id _)[other]?).map Client.ended = _
  rw [Std.ExtTreeMap.getElem?_modify]
  simp only [Std.LawfulEqCmp.compare_eq_iff_eq]
  split_ifs with heq
  · subst heq
    rw [Option.map_map]
    rfl
  · rfl

@[simp] theorem ended?_deliver (server : Server) (delivery : Delivery) :
    (server.deliver delivery).ended? other = server.ended? other := by
  rw [ended?, clients_deliver, ended?]

@[simp] theorem isLive_serve (server : Server) (id : ConnectionId) (chunk : Bytes) :
    (server.serve id chunk).isLive other = server.isLive other := by
  rw [Bool.eq_iff_iff, isLive_iff, isLive_iff, ended?_serve]

@[simp] theorem isLive_deliver (server : Server) (delivery : Delivery) :
    (server.deliver delivery).isLive other = server.isLive other := by
  rw [Bool.eq_iff_iff, isLive_iff, isLive_iff, ended?_deliver]

theorem ended?_finish (server : Server) (id : ConnectionId) :
    (server.finish id).ended? other =
      if id = other then (server.ended? other).map fun _ => true else server.ended? other := by
  show ((server.clients.modify id _)[other]?).map Client.ended = _
  rw [Std.ExtTreeMap.getElem?_modify]
  simp only [Std.LawfulEqCmp.compare_eq_iff_eq]
  split_ifs with heq
  · subst heq
    rw [ended?, Option.map_map, Option.map_map]
    rfl
  · rfl

/-- The end of one connection does not touch another one. -/
theorem finish_other (h : id ≠ other) (server : Server) :
    (server.finish id).ended? other = server.ended? other ∧
      (server.finish id).gateway.router.connections[other]? =
        server.gateway.router.connections[other]? := by
  refine ⟨by rw [ended?_finish, if_neg h], ?_⟩
  show (server.gateway.router.close id).2.connections[other]? = _
  rw [Router.close_connections, if_neg h]

theorem not_isLive_finish (server : Server) (id : ConnectionId) :
    ¬ (server.finish id).isLive id := by
  rw [isLive_iff, ended?_finish, if_pos rfl]
  cases server.ended? id <;> exact nofun

theorem taken_connect (server : Server) : server.connect.taken = server.taken + 1 := rfl

@[simp] theorem taken_serve (server : Server) (id : ConnectionId) (chunk : Bytes) :
    (server.serve id chunk).taken = server.taken := rfl

@[simp] theorem taken_deliver (server : Server) (delivery : Delivery) :
    (server.deliver delivery).taken = server.taken := by
  unfold deliver
  split <;> rfl

@[simp] theorem taken_finish (server : Server) (id : ConnectionId) :
    (server.finish id).taken = server.taken :=
  taken_deliver server _

/-! ## What is written -/

theorem writtenTo_connect (hnew : server.ended? server.nextId = none) :
    server.connect.writtenTo id = server.writtenTo id := by
  unfold writtenTo connect
  rw [Std.ExtTreeMap.getElem?_insert]
  simp only [Std.LawfulEqCmp.compare_eq_iff_eq]
  split_ifs with heq
  · rw [← heq, Option.map_eq_none_iff.mp hnew]
    rfl
  · rfl

@[simp] theorem writtenTo_deliver (server : Server) (delivery : Delivery) :
    (server.deliver delivery).writtenTo id = server.writtenTo id := by
  rw [writtenTo, clients_deliver, writtenTo]

@[simp] theorem writtenTo_finish (server : Server) (other : ConnectionId) :
    (server.finish other).writtenTo id = server.writtenTo id := by
  show ((server.clients.modify other _)[id]?.map Client.written).getD [] = _
  rw [Std.ExtTreeMap.getElem?_modify]
  simp only [Std.LawfulEqCmp.compare_eq_iff_eq]
  split_ifs with heq
  · subst heq
    rw [Option.map_map, writtenTo]
    rfl
  · rfl

/-- A live client gets the reply to what was read from it. -/
theorem writtenTo_serve (hlive : server.isLive id) (chunk : Bytes) :
    (server.serve id chunk).writtenTo id =
      server.writtenTo id ++ (server.gateway.router.receive id chunk).1.reply?.getD [] := by
  show ((server.clients.modify id _)[id]?.map Client.written).getD [] = _
  rw [Std.ExtTreeMap.getElem?_modify_self, writtenTo]
  cases hclient : server.clients[id]? with
  | none =>
      rw [isLive, hclient] at hlive
      cases hlive
  | some client => rfl

theorem writtenTo_serve_of_ne {other : ConnectionId} (h : other ≠ id) (chunk : Bytes) :
    (server.serve other chunk).writtenTo id = server.writtenTo id := by
  show ((server.clients.modify other _)[id]?.map Client.written).getD [] = _
  rw [Std.ExtTreeMap.getElem?_modify, if_neg (by simpa using h)]
  rfl

/-! ## What a read comes to -/

/-- Behind what the router and the client see of it, a read hands something on, ends the connection
or does nothing. -/
theorem read_cases (hlive : server.isLive id) (hne : chunk ≠ []) :
    server.read id chunk = server.serve id chunk ∨
    (∃ protocol octets, server.hasConsumer ∧
      (server.serve id chunk).gateway.router.protocol? id = some protocol ∧
      protocol ≠ .unclassified ∧ octets ≠ [] ∧
      server.read id chunk = (server.serve id chunk).deliver (.payload id protocol octets)) ∨
    server.read id chunk = (server.serve id chunk).finish id := by
  rw [read_eq hlive]
  cases hreaction : (server.gateway.router.receive id chunk).1.reaction with
  | forward octets =>
      obtain ⟨hoctets, hknown⟩ := Connection.receive_forward hne hreaction
      have hprotocol := Router.protocol?_receive server.gateway.router id chunk
      rw [react, forward, router_serve, hprotocol]
      split_ifs with hconsumer
      · exact .inr (.inl ⟨_, octets, hconsumer, rfl, hknown, hoctets, rfl⟩)
      · exact .inr (.inr rfl)
  | await => exact .inl rfl
  | close => exact .inr (.inr rfl)

/-! ## Pieces -/

/-- No piece is empty. -/
theorem ne_nil_of_mem_pieces {width : Nat} {piece : Bytes} (h : piece ∈ pieces width octets) :
    piece ≠ [] := by
  obtain ⟨i, hi, rfl⟩ := List.mem_map.mp h
  rw [List.mem_range] at hi
  have hwidth : 0 < width := by
    by_contra hzero
    simp [Nat.eq_zero_of_not_pos hzero] at hi
  have hbegin : i * width < octets.length := by
    have := Nat.mul_le_of_le_div _ _ _ (Nat.succ_le_of_lt hi)
    rw [Nat.succ_mul] at this
    omega
  rw [← List.length_pos_iff, List.length_take, List.length_drop]
  omega

theorem length_le_of_mem_pieces {width : Nat} {piece : Bytes} (h : piece ∈ pieces width octets) :
    piece.length ≤ width := by
  obtain ⟨i, _, rfl⟩ := List.mem_map.mp h
  exact List.length_take_le _ _

/-- What fits is read at once. -/
theorem pieces_eq_singleton {width : Nat} (hne : octets ≠ []) (hle : octets.length ≤ width) :
    pieces width octets = [octets] := by
  have hpos := List.length_pos_iff.mpr hne
  have hone : (octets.length + width - 1) / width = 1 :=
    Nat.div_eq_of_lt_le (by omega) (by omega)
  rw [pieces, hone]
  simp [List.take_of_length_le hle]

/-- What is not empty is read, if anything is read at once. -/
theorem pieces_ne_nil {width : Nat} (hwidth : 0 < width) (hne : octets ≠ []) :
    pieces width octets ≠ [] := by
  have hpos := List.length_pos_iff.mpr hne
  have hcount : 0 < (octets.length + width - 1) / width := Nat.div_pos (by omega) hwidth
  rw [← List.length_pos_iff, pieces, List.length_map, List.length_range]
  exact hcount

/-- What holds at first and is kept by every read from a live connection holds when all was read. -/
theorem receive_induction (Holds : Server → Prop) (hstart : Holds server)
    (hread : ∀ later chunk, Holds later → later.isLive id → chunk ≠ [] →
      Holds (later.read id chunk)) (octets : Bytes) : Holds (server.receive id octets) := by
  have hpieces : ∀ piece ∈ pieces server.gateway.config.listener.readBufferBytes octets,
      piece ≠ [] := fun _ => ne_nil_of_mem_pieces
  unfold receive
  generalize pieces server.gateway.config.listener.readBufferBytes octets = chunks at hpieces ⊢
  induction chunks using List.reverseRecOn with
  | nil => exact hstart
  | append_singleton chunks chunk ih =>
      obtain ⟨hchunks, hchunk⟩ := List.forall_mem_append.mp hpieces
      have hbefore := ih hchunks
      rw [List.foldl_append, List.foldl_cons, List.foldl_nil]
      -- once the connection has ended, the pieces that are left are not read
      by_cases hlive : (chunks.foldl (fun server chunk => server.read id chunk) server).isLive id
      · exact hread _ chunk hbefore hlive (hchunk chunk (List.mem_singleton.mpr rfl))
      · rwa [read_of_not_live hlive]

/-- From a connection that is not live nothing is read. -/
theorem receive_of_not_live (h : ¬ server.isLive id) (octets : Bytes) :
    server.receive id octets = server := by
  refine receive_induction (fun later => later = server) rfl ?_ octets
  rintro later chunk rfl hlive
  exact absurd hlive h

/-- To read is none of the consumer's business, nor of those who are yet to connect. -/
theorem receive_keeps (server : Server) (id : ConnectionId) (octets : Bytes) :
    (server.receive id octets).hasConsumer = server.hasConsumer ∧
      (server.receive id octets).isAccepting = server.isAccepting ∧
      (server.receive id octets).taken = server.taken := by
  refine receive_induction (fun later => later.hasConsumer = server.hasConsumer ∧
    later.isAccepting = server.isAccepting ∧ later.taken = server.taken)
    ⟨rfl, rfl, rfl⟩ (fun later chunk hkept hlive hne => ?_) octets
  have hserve : (later.serve id chunk).hasConsumer = server.hasConsumer ∧
      (later.serve id chunk).isAccepting = server.isAccepting ∧
      (later.serve id chunk).taken = server.taken := hkept
  rcases read_cases hlive hne with heq | ⟨_, _, _, _, _, _, heq⟩ | heq <;> rw [heq]
  · exact hserve
  · simpa using hserve
  · simpa using hserve

end Server
end SharedListener
