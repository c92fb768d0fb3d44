import Mathlib.Data.Set.Card
import SharedListener.Proofs.Config.Validation
import SharedListener.Proofs.Router.Counting
import SharedListener.Proofs.Router.Registration
import SharedListener.Proofs.Server.Changes

/-!
# Nothing is left of a connection that has ended

Connections are counted when they are taken and when they are let go, and every
way out of a connection is a `finish`.  So the counters, the entries of the router
and the registry can be read off the connections that are live (`Accounted`).

An entry comes with the first byte that is read, and goes with the end of the
connection (`entry_iff_heard`).
-/

namespace SharedListener

/-! ## Counting -/

/-- A map has as many entries as there are numbers under which it has one. -/
private theorem size_eq_ncard {value : Type} (map : Std.ExtTreeMap ConnectionId value) :
    map.size = {id : ConnectionId | map[id]? ≠ none}.ncard := by
  have hkeys : {id : ConnectionId | map[id]? ≠ none} = ↑map.keys.toFinset := by
    ext id
    rw [List.coe_toFinset, Set.mem_ofPred_eq, Set.mem_ofPred_eq, Std.ExtTreeMap.mem_keys,
      Std.ExtTreeMap.mem_iff_isSome_getElem?, Option.isSome_iff_ne_none]
  rw [hkeys, Set.ncard_coe_finset, List.toFinset_card_of_nodup Std.ExtTreeMap.nodup_keys,
    Std.ExtTreeMap.length_keys]

namespace Router

/-- What happens inside of a connection does not change how many there are. -/
theorem metrics_receive (router : Router) (id : ConnectionId) (chunk : Bytes) :
    (router.receive id chunk).2.metrics.accepted = router.metrics.accepted ∧
      (router.receive id chunk).2.metrics.active = router.metrics.active := by
  have hcount (events : List Connection.Event) (metrics : Metrics) :
      (events.foldl count metrics).accepted = metrics.accepted ∧
        (events.foldl count metrics).active = metrics.active := by
    induction events generalizing metrics with
    | nil => exact ⟨rfl, rfl⟩
    | cons event events ih =>
        obtain ⟨haccepted, hactive⟩ := ih (count metrics event)
        cases event <;> exact ⟨haccepted, hactive⟩
  rw [receive_metrics]
  exact hcount _ _

end Router

namespace Server

variable {server after : Server} {id : ConnectionId} {chunk : Bytes}

/-! ## Numbers and lists -/

/-- The connections that have not ended. -/
def live (server : Server) : Set ConnectionId :=
  {id | server.isLive id}

theorem mem_live : id ∈ server.live ↔ server.ended? id = some false :=
  isLive_iff

theorem live_congr (h : ∀ id, after.ended? id = server.ended? id) : after.live = server.live := by
  ext id
  rw [mem_live, mem_live, h]

theorem Orderly.finite_live (h : server.Orderly) : server.live.Finite := by
  refine (Set.finite_le_nat server.taken).subset fun id hlive => ?_
  have hgiven : server.ended? id ≠ none := by
    rw [mem_live.mp hlive]
    exact nofun
  exact ((h.given_iff id).mp hgiven).2

/-- The numbers and lists of a gateway agree with the connections that are live. -/
structure Accounted (server : Server) : Prop where
  agrees : server.gateway.router.Agrees
  accepted_eq :
    server.gateway.router.metrics.accepted.get [] = UInt64.ofNat server.taken
  active_eq : server.gateway.router.metrics.active.get [] = Int64.ofNat server.live.ncard

namespace Accounted

private theorem connect (h : server.Accounted) (horderly : server.Orderly) :
    server.connect.Accounted := by
  have hnew := horderly.nextId_new
  have hfree : server.nextId ∉ server.live := by
    rw [mem_live, hnew]
    exact nofun
  have hlive : server.connect.live = insert server.nextId server.live := by
    ext id
    rw [mem_live, ended?_connect, Set.mem_insert_iff, mem_live]
    split_ifs with heq
    · simp [heq]
    · simp [Ne.symm heq]
  refine ⟨⟨h.agrees.registered, h.agrees.indexed, h.agrees.known⟩, ?_, ?_⟩
  · rw [taken_connect, UInt64.ofNat_add, ← h.accepted_eq]
    exact Metrics.Series.get_add _ _ _
  · rw [hlive, Set.ncard_insert_of_notMem hfree horderly.finite_live, Int64.ofNat_add,
      ← h.active_eq]
    exact Metrics.Series.get_add _ _ _

private theorem serve (h : server.Accounted) (id : ConnectionId) (chunk : Bytes) :
    (server.serve id chunk).Accounted := by
  obtain ⟨haccepted, hactive⟩ := Router.metrics_receive server.gateway.router id chunk
  refine ⟨h.agrees.receive id chunk, ?_, ?_⟩
  · rw [router_serve, haccepted, taken_serve]
    exact h.accepted_eq
  · rw [router_serve, hactive, live_congr fun _ => ended?_serve server id chunk]
    exact h.active_eq

private theorem finish (h : server.Accounted) (horderly : server.Orderly)
    (hlive : server.isLive id) : (server.finish id).Accounted := by
  have hmetrics := Router.close_metrics server.gateway.router id
  have hagrees := h.agrees.close id
  have hleft : (server.finish id).live = server.live \ {id} := by
    ext other
    rw [mem_live, ended?_finish, Set.mem_sdiff, mem_live, Set.mem_singleton_iff]
    split_ifs with heq
    · simp [heq]
    · simp [Ne.symm heq]
  have hmember : id ∈ server.live := hlive
  have hcard : server.live.ncard = (server.live \ {id}).ncard + 1 :=
    (Set.ncard_sdiff_singleton_add_one hmember horderly.finite_live).symm
  refine ⟨⟨hagrees.registered, hagrees.indexed, hagrees.known⟩, ?_, ?_⟩
  · rw [taken_finish, ← h.accepted_eq, ← hmetrics]
    rfl
  · -- what the one who left had added is taken off again, even if the sum has wrapped around
    have hactive := h.active_eq
    rw [hcard, Int64.ofNat_add, ← hmetrics] at hactive
    show ((server.gateway.router.close id).2.metrics.active.add [] (-1)).get [] = _
    have hcancel : Int64.ofNat 1 + -1 = 0 := by decide
    rw [hleft, Metrics.Series.get_add, hactive, Int64.add_assoc, hcancel, Int64.add_zero]

theorem change (h : server.Accounted) (horderly : server.Orderly) (hchange : Change server after) :
    after.Accounted := by
  cases hchange with
  | connect => exact h.connect horderly
  | @serve id chunk => exact h.serve id chunk
  | handOn =>
      refine ⟨by rw [gateway_deliver]; exact h.agrees, ?_, ?_⟩
      · rw [gateway_deliver, taken_deliver]
        exact h.accepted_eq
      · rw [gateway_deliver, live_congr fun _ => ended?_deliver server _]
        exact h.active_eq
  | finish hlive => exact h.finish horderly hlive
  | dropConsumer | stop => exact ⟨h.agrees, h.accepted_eq, h.active_eq⟩
  | setEnabled app enabled =>
      exact ⟨h.agrees.setEnabled app enabled, h.accepted_eq, h.active_eq⟩

theorem run {config : Config} {gateway : Gateway} (hstart : Gateway.start config = .ok gateway)
    (inputs : List Input) : (Server.run (.ofGateway gateway) inputs).Accounted := by
  have hchanges := run_changes (.ofGateway gateway) inputs
  generalize Server.run (.ofGateway gateway) inputs = server at hchanges ⊢
  induction hchanges with
  | refl =>
      have hnobody : (ofGateway gateway).live = ∅ := by
        ext id
        simp [mem_live, ended?, ofGateway]
      rw [Gateway.start_eq hstart] at hnobody ⊢
      refine ⟨Router.Agrees.new _ {} _, rfl, ?_⟩
      rw [hnobody, Set.ncard_empty]
      rfl
  | tail hbefore hchange ih =>
      exact ih.change ((Orderly.start hstart).changes hbefore) hchange

end Accounted

/-! ## Connections that were taken -/

/-- Whether no connections are taken any more after this input. -/
def Input.stops : Input → Bool
  | .shutdown stop abandon => stop || abandon
  | _ => false

/-- How many connections are taken in a run. -/
def connects (inputs : List Input) : Nat :=
  (inputs.takeWhile fun input => !input.stops).count .connect

private theorem connects_cons (input : Input) (inputs : List Input) :
    connects (input :: inputs) =
      if input.stops then 0 else connects inputs + if input = .connect then 1 else 0 := by
  rw [connects, List.takeWhile_cons]
  cases hstops : input.stops with
  | true => rfl
  | false => simp [connects, List.count_cons]

private theorem isAccepting_step (server : Server) (input : Input) :
    (server.step input).isAccepting = (server.isAccepting && !input.stops) := by
  cases input with
  | connect =>
      show (if server.isAccepting then server.connect else server).isAccepting = _
      split_ifs <;> exact (Bool.and_true _).symm
  | send id octets => exact (receive_keeps server id octets).2.1.trans (Bool.and_true _).symm
  | finish id | reset id =>
      show (if server.isLive id then server.finish id else server).isAccepting = _
      split_ifs <;> simp [Input.stops]
  | dropConsumer | setEnabled => exact (Bool.and_true _).symm
  | shutdown stop abandon => rfl

private theorem taken_step (server : Server) (input : Input) :
    (server.step input).taken =
      server.taken + if server.isAccepting ∧ input = .connect then 1 else 0 := by
  cases input with
  | connect =>
      show (if server.isAccepting then server.connect else server).taken = _
      split_ifs with haccepting hboth hboth
      · exact taken_connect server
      · exact absurd ⟨haccepting, rfl⟩ hboth
      · exact absurd hboth.1 haccepting
      · rfl
  | send id octets =>
      rw [if_neg (by simp)]
      exact (receive_keeps server id octets).2.2
  | finish id | reset id =>
      show (if server.isLive id then server.finish id else server).taken = _
      split_ifs <;> simp_all
  | dropConsumer | setEnabled | shutdown => simp [step]

private theorem taken_run (server : Server) (inputs : List Input) :
    (Server.run server inputs).taken =
      server.taken + if server.isAccepting then connects inputs else 0 := by
  induction inputs generalizing server with
  | nil => simp [Server.run, connects]
  | cons input inputs ih =>
      have hrest := ih (server.step input)
      rw [isAccepting_step, taken_step] at hrest
      show (Server.run (server.step input) inputs).taken = _
      rw [hrest, connects_cons]
      by_cases hconnect : input = .connect
      · subst hconnect
        have hstops : Input.stops .connect = false := rfl
        by_cases haccepting : server.isAccepting
        · simp only [haccepting, hstops, Bool.not_false, Bool.and_true, and_self, if_true,
            Bool.false_eq_true, if_false]
          omega
        · simp [haccepting]
      · by_cases haccepting : server.isAccepting <;> by_cases hstops : input.stops <;>
          simp [hconnect, haccepting, hstops]

/-! ## Connections that were heard -/

/-- At least one byte was read from the connection. -/
def Heard (server : Server) (inputs : List Input) (id : ConnectionId) : Prop :=
  ∃ before octets, before ++ [.send id octets] <+: inputs ∧ octets ≠ [] ∧
    (run server before).isLive id

private theorem heard_concat_iff {inputs : List Input} {input : Input} :
    Heard server (inputs ++ [input]) id ↔
      Heard server inputs id ∨
        ∃ octets, input = .send id octets ∧ octets ≠ [] ∧ (run server inputs).isLive id := by
  constructor
  · rintro ⟨before, octets, hprefix, hne, hlive⟩
    rcases List.prefix_concat_iff.mp hprefix with heq | hearlier
    · obtain ⟨rfl, hinput⟩ := List.append_inj' heq rfl
      exact .inr ⟨octets, (List.singleton_inj.mp hinput).symm, hne, hlive⟩
    · exact .inl ⟨before, octets, hearlier, hne, hlive⟩
  · rintro (⟨before, octets, hprefix, hne, hlive⟩ | ⟨octets, rfl, hne, hlive⟩)
    · exact ⟨before, octets, hprefix.trans (List.prefix_append _ _), hne, hlive⟩
    · exact ⟨inputs, octets, List.prefix_refl _, hne, hlive⟩

/-- A number that was given stays given. -/
private theorem given_changes (hgiven : server.ended? id ≠ none)
    (h : Relation.ReflTransGen Change server after) : after.ended? id ≠ none := by
  induction h with
  | refl => exact hgiven
  | tail _ hchange ih =>
      cases hchange with
      | connect =>
          rw [ended?_connect]
          split_ifs
          · exact nofun
          · exact ih
      | serve => rwa [ended?_serve]
      | handOn => rwa [ended?_deliver]
      | finish =>
          rw [ended?_finish]
          split_ifs
          · rwa [ne_eq, Option.map_eq_none_iff]
          · exact ih
      | dropConsumer | setEnabled | stop => exact ih

private theorem Heard.given {inputs : List Input} (h : Heard server inputs id) :
    (run server inputs).ended? id ≠ none := by
  obtain ⟨before, octets, ⟨rest, rfl⟩, _, hlive⟩ := h
  have hbefore : (run server before).ended? id ≠ none := by
    rw [isLive_iff.mp hlive]
    exact nofun
  rw [List.append_assoc, run_append]
  exact given_changes hbefore (run_changes _ _)

/-- What is read from one connection does not touch another one. -/
private theorem receive_other {other : ConnectionId} (h : other ≠ id) (server : Server)
    (octets : Bytes) :
    (server.receive other octets).ended? id = server.ended? id ∧
      (server.receive other octets).gateway.router.connections[id]? =
        server.gateway.router.connections[id]? := by
  refine receive_induction (fun later => later.ended? id = server.ended? id ∧
    later.gateway.router.connections[id]? = server.gateway.router.connections[id]?)
    ⟨rfl, rfl⟩ (fun later chunk hkept hlive hne => ?_) octets
  have hserve : (later.serve other chunk).ended? id = server.ended? id ∧
      (later.serve other chunk).gateway.router.connections[id]? =
        server.gateway.router.connections[id]? := by
    refine ⟨(ended?_serve later other chunk).trans hkept.1, ?_⟩
    rw [router_serve, Router.receive_connections, Std.ExtTreeMap.getElem?_insert]
    simp only [Std.LawfulEqCmp.compare_eq_iff_eq, if_neg h]
    exact hkept.2
  rcases read_cases hlive hne with heq | ⟨_, _, _, _, _, _, heq⟩ | heq <;> rw [heq]
  · exact hserve
  · rwa [ended?_deliver, gateway_deliver]
  · obtain ⟨hended, hentry⟩ := finish_other h (later.serve other chunk)
    exact ⟨hended.trans hserve.1, hentry.trans hserve.2⟩

private theorem receive_nil (server : Server) (id : ConnectionId) :
    server.receive id [] = server := by
  have hnone : pieces server.gateway.config.listener.readBufferBytes [] = [] := by
    refine List.eq_nil_iff_forall_not_mem.mpr fun piece hpiece => ?_
    have hempty : piece = [] := by
      obtain ⟨i, _, rfl⟩ := List.mem_map.mp hpiece
      simp
    exact ne_nil_of_mem_pieces hpiece hempty
  rw [receive, hnone]
  rfl

/-- A connection that is still live behind a read has an entry. -/
private theorem entry_of_read (hne : chunk ≠ []) (hlive : (server.read id chunk).isLive id) :
    (server.read id chunk).gateway.router.connections[id]? ≠ none := by
  have hbefore : server.isLive id := by
    by_contra hdead
    rw [read_of_not_live hdead] at hlive
    exact hdead hlive
  have hserve : (server.serve id chunk).gateway.router.connections[id]? ≠ none := by
    rw [router_serve, Router.receive_connections, Std.ExtTreeMap.getElem?_insert_self]
    exact nofun
  rcases read_cases hbefore hne with heq | ⟨protocol, octets, _, _, _, _, heq⟩ | heq <;>
    rw [heq] at hlive ⊢
  · exact hserve
  · rwa [gateway_deliver]
  · exact absurd hlive (not_isLive_finish _ id)

private theorem entry_of_receive {octets : Bytes}
    (hwidth : 0 < server.gateway.config.listener.readBufferBytes) (hne : octets ≠ [])
    (hlive : (server.receive id octets).isLive id) :
    (server.receive id octets).gateway.router.connections[id]? ≠ none := by
  -- it is enough to look at the last piece: had the connection ended before, it would not be live
  have hpieces := pieces_ne_nil hwidth hne
  have hpiece : ∀ piece ∈ pieces server.gateway.config.listener.readBufferBytes octets,
      piece ≠ [] := fun piece => ne_nil_of_mem_pieces
  unfold receive at hlive ⊢
  rcases List.eq_nil_or_concat
      (pieces server.gateway.config.listener.readBufferBytes octets) with hnil | ⟨chunks, last, heq⟩
  · exact absurd hnil hpieces
  · rw [heq, List.concat_eq_append, List.foldl_append] at hlive ⊢
    exact entry_of_read (hpiece last (by simp [heq])) hlive

private theorem entry_of_send (hwidth : 0 < server.gateway.config.listener.readBufferBytes)
    {octets : Bytes} (hne : octets ≠ []) (hlive : (server.step (.send id octets)).isLive id) :
    server.isLive id ∧
      (server.step (.send id octets)).gateway.router.connections[id]? ≠ none := by
  have hafter : (server.receive id octets).isLive id := hlive
  refine ⟨?_, entry_of_receive hwidth hne hafter⟩
  by_contra hdead
  rw [receive_of_not_live hdead] at hafter
  exact hdead hafter

/-- If it sends nothing, a live connection was as it is, or it is a new one. -/
private theorem entry_of_not_send (horderly : server.Orderly) {input : Input}
    (hinput : ∀ octets, octets ≠ [] → input ≠ .send id octets)
    (hlive : (server.step input).isLive id) :
    (server.isLive id ∧ (server.step input).gateway.router.connections[id]? =
        server.gateway.router.connections[id]?) ∨
      server.ended? id = none ∧ (server.step input).gateway.router.connections[id]? = none := by
  cases input with
  | connect =>
      by_cases haccepting : server.isAccepting
      · have hconnect : server.step .connect = server.connect := if_pos haccepting
        rw [hconnect, isLive_iff, ended?_connect] at hlive
        rw [hconnect]
        split_ifs at hlive with hnext
        · -- the connection is new, and what is not live has no entry
          have hnew : server.ended? id = none := hnext ▸ horderly.nextId_new
          exact .inr ⟨hnew, horderly.entry_of_new hnew⟩
        · exact .inl ⟨isLive_iff.mpr hlive, rfl⟩
      · have hsame : server.step .connect = server := if_neg haccepting
        rw [hsame] at hlive ⊢
        exact .inl ⟨hlive, rfl⟩
  | send other octets =>
      have hafter : (server.receive other octets).isLive id := hlive
      show _ ∧ (server.receive other octets).gateway.router.connections[id]? = _ ∨ _
      by_cases hempty : octets = []
      · rw [hempty, receive_nil] at hafter ⊢
        exact .inl ⟨hafter, rfl⟩
      · have hother : other ≠ id := fun heq => hinput octets hempty (heq ▸ rfl)
        obtain ⟨hended, hentry⟩ := receive_other hother server octets
        rw [isLive_iff, hended, ← isLive_iff] at hafter
        exact .inl ⟨hafter, hentry⟩
  | finish other | reset other =>
      by_cases hthere : server.isLive other
      · simp only [step, hthere, if_true] at hlive ⊢
        by_cases hother : other = id
        · subst hother
          exact absurd hlive (not_isLive_finish server other)
        · obtain ⟨hended, hentry⟩ := finish_other hother server
          rw [isLive_iff, hended, ← isLive_iff] at hlive
          exact .inl ⟨hlive, hentry⟩
      · simp only [step, hthere] at hlive ⊢
        exact .inl ⟨hlive, rfl⟩
  | dropConsumer | setEnabled | shutdown => exact .inl ⟨hlive, rfl⟩

/-- A live connection has an entry if at least one byte was read from it. -/
theorem entry_iff_heard {config : Config} {gateway : Gateway}
    (hstart : Gateway.start config = .ok gateway) (hwidth : 0 < config.listener.readBufferBytes)
    (inputs : List Input) (hlive : (run (.ofGateway gateway) inputs).isLive id) :
    (run (.ofGateway gateway) inputs).gateway.router.connections[id]? ≠ none ↔
      Heard (.ofGateway gateway) inputs id := by
  induction inputs using List.reverseRecOn with
  | nil =>
      rw [isLive_iff] at hlive
      simp [run, ended?, ofGateway] at hlive
  | append_singleton inputs input ih =>
      rw [run_concat] at hlive ⊢
      rw [heard_concat_iff]
      by_cases hsent : ∃ octets, octets ≠ [] ∧ input = .send id octets
      · obtain ⟨octets, hne, rfl⟩ := hsent
        have hconfig : (run (.ofGateway gateway) inputs).gateway.config = config :=
          (config_changes (run_changes _ inputs)).trans (by rw [Gateway.start_eq hstart]; rfl)
        obtain ⟨hbefore, hentry⟩ := entry_of_send (by rwa [hconfig]) hne hlive
        exact iff_of_true hentry (.inr ⟨octets, rfl, hne, hbefore⟩)
      · have horderly := (Orderly.start hstart).changes (run_changes (.ofGateway gateway) inputs)
        have hquiet : ¬ ∃ octets, input = .send id octets ∧ octets ≠ [] ∧
            (run (.ofGateway gateway) inputs).isLive id := by
          rintro ⟨octets, heq, hne, _⟩
          exact hsent ⟨octets, hne, heq⟩
        rw [or_iff_left hquiet]
        rcases entry_of_not_send horderly
            (fun octets hne heq => hsent ⟨octets, hne, heq⟩) hlive with
          ⟨hbefore, hentry⟩ | ⟨hnew, hentry⟩
        · rw [hentry]
          exact ih hbefore
        · exact iff_of_false (fun hsome => hsome hentry) fun hheard => hheard.given hnew

/-! ## Whole runs -/

/-- What is accepted reads something at once. -/
private theorem readBufferBytes_pos {config : Config} (h : config.validate = .ok ()) :
    0 < config.listener.readBufferBytes := by
  obtain ⟨-, -, -, hlistener, -⟩ := Config.validate_eq_ok_iff.mp h
  obtain ⟨-, ⟨hlow, -⟩, -⟩ := Config.Listener.validate_eq_ok_iff.mp hlistener
  exact Nat.lt_of_lt_of_le (by decide) hlow

/-- **Nothing is left of a connection that has ended.**  However connections come and go, with a
consumer or without: those that were taken have the numbers from 1 on and are counted as accepted,
and those that have not ended are counted as active, as far as machine words can count.  The router
has an entry for each live connection from which at least one byte was read, the registry has each
live WebSocket connection, and neither has any other. -/
theorem run_accounted {config : Config} {gateway : Gateway} (hvalid : config.validate = .ok ())
    (hstart : Gateway.start config = .ok gateway) (inputs : List Input) :
    let server := run (.ofGateway gateway) inputs
    let router := server.gateway.router
    (∀ id : Nat, server.ended? id ≠ none ↔ 1 ≤ id ∧ id ≤ connects inputs) ∧
    router.metrics.accepted.get [] = UInt64.ofNat (connects inputs) ∧
    (connects inputs < 2 ^ 64 →
      (router.metrics.accepted.get []).toNat = connects inputs) ∧
    router.metrics.active.get [] = Int64.ofNat server.live.ncard ∧
    (server.live.ncard < 2 ^ 63 →
      (router.metrics.active.get []).toInt = server.live.ncard) ∧
    (server.live = ∅ → router.metrics.active.get [] = 0) ∧
    router.size = {id | id ∈ server.live ∧ Heard (.ofGateway gateway) inputs id}.ncard ∧
    router.scopes.size = {id | id ∈ server.live ∧ router.protocol? id = some .websocket}.ncard ∧
    ∀ id, id ∉ server.live →
      router.snapshot? id = none ∧ ∀ app, id ∉ router.scopes.connectionsIn app := by
  intro server router
  have horderly : server.Orderly := (Orderly.start hstart).changes (run_changes _ inputs)
  have haccounted : server.Accounted := Accounted.run hstart inputs
  have hwidth := readBufferBytes_pos hvalid
  have htaken : server.taken = connects inputs := by
    have hfirst := taken_run (.ofGateway gateway) inputs
    rw [if_pos (by rfl)] at hfirst
    exact hfirst.trans (Nat.zero_add _)
  have haccepted : router.metrics.accepted.get [] = UInt64.ofNat (connects inputs) :=
    htaken ▸ haccounted.accepted_eq
  refine ⟨htaken ▸ horderly.given_iff, haccepted, ?_, haccounted.active_eq, ?_, ?_, ?_, ?_, ?_⟩
  · intro hsmall
    rw [haccepted, UInt64.toNat_ofNat_of_lt' hsmall]
  · intro hsmall
    rw [haccounted.active_eq, Int64.toInt_ofNat_of_lt hsmall]
  · intro hnobody
    rw [haccounted.active_eq, hnobody, Set.ncard_empty]
    rfl
  · have hentries : {id : ConnectionId | router.connections[id]? ≠ none} =
        {id | id ∈ server.live ∧ Heard (.ofGateway gateway) inputs id} := by
      ext id
      constructor
      · intro hentry
        have hlive := horderly.isLive_of_entry id hentry
        exact ⟨hlive, (entry_iff_heard hstart hwidth inputs hlive).mp hentry⟩
      · rintro ⟨hlive, hheard⟩
        exact (entry_iff_heard hstart hwidth inputs hlive).mpr hheard
    rw [Router.size, size_eq_ncard, hentries]
  · have hregistered : {id : ConnectionId | router.scopes.connections[id]? ≠ none} =
        {id | id ∈ server.live ∧ router.protocol? id = some .websocket} := by
      ext id
      rw [Set.mem_ofPred_eq, Set.mem_ofPred_eq, haccounted.agrees.registered id, Router.protocol?]
      cases hentry : router.connections[id]? with
      | none => simp
      | some connection =>
          have hlive : id ∈ server.live := horderly.isLive_of_entry id (by simp [router, hentry])
          simp [Connection.registered?, hlive]
    rw [Scope.Registry.size, size_eq_ncard, hregistered]
  · intro id hdead
    have hnone : router.snapshot? id = none := by
      rw [Router.snapshot?, Option.map_eq_none_iff]
      by_contra hentry
      exact hdead (horderly.isLive_of_entry id hentry)
    refine ⟨hnone, fun app hmember => ?_⟩
    obtain ⟨snapshot, hsnapshot, _⟩ := haccounted.agrees.mem_connectionsIn_iff.mp hmember
    rw [hnone] at hsnapshot
    cases hsnapshot

/-- Two connections, one of which ends because the consumer has gone away. -/
theorem run_accounted_gone :
    let config : Config := { version := 1, scopes := [{ app := "a" }] }
    let inputs : List Input :=
      [.connect, .connect, .send 1 [0x58], .dropConsumer, .send 1 [0x59], .reset 2]
    ∃ gateway, config.validate = .ok () ∧ Gateway.start config = .ok gateway ∧
      let router := (run (.ofGateway gateway) inputs).gateway.router
      router.metrics.accepted.get [] = 2 ∧ router.metrics.active.get [] = 0 ∧
        router.snapshot? 1 = none ∧ router.snapshot? 2 = none := by
  intro config inputs
  have hvalid : config.validate = .ok () := by decide +kernel
  have hstart := Gateway.start_ok config
  obtain ⟨hgiven, haccepted, -, -, -, hnobody, -, -, hover⟩ :=
    run_accounted hvalid hstart inputs
  refine ⟨_, hvalid, hstart, ?_⟩
  generalize hserver : run (.ofGateway _) inputs = server at *
  have hfirst : server.ended? 1 = some true := by
    rw [← hserver]
    decide +kernel
  have hsecond : server.ended? 2 = some true := by
    rw [← hserver]
    decide +kernel
  have hdead : ∀ id, id ∉ server.live := by
    intro (id : Nat) hlive
    have hended := mem_live.mp hlive
    have hbetween : 1 ≤ id ∧ id ≤ 2 := (hgiven id).mp (by rw [hended]; exact nofun)
    have hnumber : id = 1 ∨ id = 2 := by omega
    rcases hnumber with rfl | rfl
    · rw [hfirst] at hended
      cases hended
    · rw [hsecond] at hended
      cases hended
  exact ⟨haccepted, hnobody (Set.eq_empty_of_forall_notMem hdead), (hover 1 (hdead 1)).1,
    (hover 2 (hdead 2)).1⟩

end Server
end SharedListener
