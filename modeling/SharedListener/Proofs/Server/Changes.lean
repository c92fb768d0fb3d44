import Mathlib.Logic.Relation
import SharedListener.Proofs.Server.Reads

/-!
# How a server changes

A server changes by a few small steps, into which every input can be taken apart
(`Change`).  So what they all keep is kept by every run (`run_changes`).

Numbers are given in order, and a connection that is not live has no entry
(`Orderly`).
-/

namespace SharedListener

/-! ## Setting out -/

theorem Handshake.verifyAccept_ok : Handshake.verifyAccept = .ok () := by
  have haccept : Handshake.acceptValue "dGhlIHNhbXBsZSBub25jZQ==" =
      "s3pPLMBiTxaQ9kYGzzhZRbK+xOo=".toList := by
    decide +kernel
  rw [Handshake.verifyAccept, if_pos haccept]

/-- Every gateway starts, without entries. -/
theorem Gateway.start_ok (config : Config) :
    Gateway.start config = .ok
      { config
        router :=
          { settings := config.listener.settings
            scopes := Scope.Registry.ofApps config.switches } } := by
  unfold Gateway.start
  rw [Handshake.verifyAccept_ok]
  rfl

theorem Gateway.start_eq {config : Config} {gateway : Gateway}
    (h : Gateway.start config = .ok gateway) :
    gateway =
      { config
        router :=
          { settings := config.listener.settings
            scopes := Scope.Registry.ofApps config.switches } } :=
  Except.ok.inj (h.symm.trans (Gateway.start_ok config))

namespace Server

open Relation (ReflTransGen)

variable {server after : Server} {id : ConnectionId} {chunk octets : Bytes}

/-! ## Small steps -/

/-- The steps by which a server changes. -/
inductive Change : Server → Server → Prop
  | connect (server : Server) : Change server server.connect
  /-- A read reaches the router, and the client gets the reply. -/
  | serve (server : Server) {id : ConnectionId} {chunk : Bytes} (hlive : server.isLive id)
      (hne : chunk ≠ []) : Change server (server.serve id chunk)
  /-- Bytes are handed on, under the protocol that the router knows the connection by. -/
  | handOn (server : Server) {id : ConnectionId} {protocol : Protocol} {octets : Bytes}
      (hlive : server.isLive id) (hconsumer : server.hasConsumer)
      (hprotocol : server.gateway.router.protocol? id = some protocol)
      (hknown : protocol ≠ .unclassified) (hne : octets ≠ []) :
      Change server (server.deliver (.payload id protocol octets))
  | finish (server : Server) {id : ConnectionId} (hlive : server.isLive id) :
      Change server (server.finish id)
  | dropConsumer (server : Server) : Change server { server with hasConsumer := false }
  | setEnabled (server : Server) (app : String) (enabled : Bool) :
      Change server { server with gateway := server.gateway.setEnabled app enabled }
  | stop (server : Server) (isAccepting : Bool) : Change server { server with isAccepting }

theorem read_changes (hlive : server.isLive id) (hne : chunk ≠ []) :
    ReflTransGen Change server (server.read id chunk) := by
  have hserve := Change.serve server hlive hne
  have hstill : (server.serve id chunk).isLive id := by rwa [isLive_serve]
  rcases read_cases hlive hne with
    heq | ⟨protocol, octets, hconsumer, hprotocol, hknown, hoctets, heq⟩ | heq <;> rw [heq]
  · exact .single hserve
  · exact .tail (.single hserve) (.handOn _ hstill hconsumer hprotocol hknown hoctets)
  · exact .tail (.single hserve) (.finish _ hstill)

theorem receive_changes (server : Server) (id : ConnectionId) (octets : Bytes) :
    ReflTransGen Change server (server.receive id octets) :=
  receive_induction (ReflTransGen Change server) .refl
    (fun _ _ hbefore hlive hne => hbefore.trans (read_changes hlive hne)) octets

theorem step_changes (server : Server) (input : Input) :
    ReflTransGen Change server (server.step input) := by
  cases input with
  | connect =>
      show ReflTransGen Change server (if server.isAccepting then server.connect else server)
      split_ifs
      · exact .single (.connect server)
      · exact .refl
  | send id octets => exact receive_changes server id octets
  | finish id | reset id =>
      show ReflTransGen Change server (if server.isLive id then server.finish id else server)
      split_ifs with hlive
      · exact .single (.finish server hlive)
      · exact .refl
  | dropConsumer => exact .single (.dropConsumer server)
  | setEnabled app enabled => exact .single (.setEnabled server app enabled)
  | shutdown stop abandon => exact .single (.stop server _)

@[simp] theorem run_concat (server : Server) (inputs : List Input) (input : Input) :
    run server (inputs ++ [input]) = (run server inputs).step input := by
  rw [run, List.foldl_append]
  rfl

theorem run_append (server : Server) (inputs more : List Input) :
    run server (inputs ++ more) = run (run server inputs) more :=
  List.foldl_append

/-- Every run is made of small steps. -/
theorem run_changes (server : Server) (inputs : List Input) :
    ReflTransGen Change server (run server inputs) := by
  induction inputs using List.reverseRecOn with
  | nil => exact .refl
  | append_singleton inputs input ih =>
      rw [run_concat]
      exact ih.trans (step_changes _ input)

/-! ## Order -/

/-- The numbers up to the last one are given, and only live connections have an entry. -/
structure Orderly (server : Server) : Prop where
  given_iff : ∀ id : Nat, server.ended? id ≠ none ↔ 1 ≤ id ∧ id ≤ server.taken
  isLive_of_entry : ∀ id, server.gateway.router.connections[id]? ≠ none → server.isLive id

namespace Orderly

theorem start {config : Config} {gateway : Gateway} (h : Gateway.start config = .ok gateway) :
    (ofGateway gateway).Orderly := by
  have hnone (id : ConnectionId) : (ofGateway gateway).gateway.router.connections[id]? = none := by
    rw [Gateway.start_eq h]
    exact Std.ExtTreeMap.getElem?_empty
  refine ⟨fun id => ?_, fun id hentry => absurd (hnone id) hentry⟩
  have hfree : (ofGateway gateway).ended? id = none := by simp [ended?, ofGateway]
  have htaken : (ofGateway gateway).taken = 0 := rfl
  rw [hfree, htaken]
  simp only [ne_eq, not_true_eq_false, false_iff]
  omega

theorem nextId_new (h : server.Orderly) : server.ended? server.nextId = none := by
  by_contra hgiven
  have hle := ((h.given_iff _).mp hgiven).2
  exact absurd hle (Nat.not_succ_le_self _)

theorem entry_of_new (h : server.Orderly) (hnew : server.ended? id = none) :
    server.gateway.router.connections[id]? = none := by
  by_contra hentry
  have hlive := isLive_iff.mp (h.isLive_of_entry id hentry)
  rw [hnew] at hlive
  cases hlive

theorem change (h : server.Orderly) (hchange : Change server after) : after.Orderly := by
  cases hchange with
  | connect =>
      refine ⟨fun id => ?_, fun id hentry => ?_⟩
      · rw [ended?_connect, taken_connect]
        split_ifs with heq
        · have hlast : server.taken + 1 = id := heq
          simp only [ne_eq, reduceCtorEq, not_false_eq_true, true_iff]
          omega
        · have hearlier : ¬ server.taken + 1 = id := heq
          rw [h.given_iff]
          omega
      · rw [isLive_iff, ended?_connect]
        split_ifs with heq
        · rfl
        · exact isLive_iff.mp (h.isLive_of_entry id hentry)
  | @serve receiver chunk hlive _ =>
      refine ⟨fun id => ?_, fun id hentry => ?_⟩
      · rw [ended?_serve, taken_serve]
        exact h.given_iff id
      · rw [isLive_serve]
        rw [router_serve, Router.receive_connections, Std.ExtTreeMap.getElem?_insert] at hentry
        simp only [Std.LawfulEqCmp.compare_eq_iff_eq] at hentry
        split_ifs at hentry with heq
        · exact heq ▸ hlive
        · exact h.isLive_of_entry id hentry
  | handOn =>
      refine ⟨fun id => ?_, fun id hentry => ?_⟩
      · rw [ended?_deliver, taken_deliver]
        exact h.given_iff id
      · rw [isLive_deliver]
        rw [gateway_deliver] at hentry
        exact h.isLive_of_entry id hentry
  | @finish ending hlive =>
      -- with the connection its entry goes, so that what is left is still live
      refine ⟨fun id => ?_, fun id hentry => ?_⟩
      · rw [taken_finish, ← h.given_iff id, ended?_finish]
        split_ifs <;> simp
      · have hleft : (server.gateway.router.close ending).2.connections[id]? ≠ none := hentry
        rw [Router.close_connections] at hleft
        rw [isLive_iff, ended?_finish]
        split_ifs at hleft with heq
        · exact absurd rfl hleft
        · rw [if_neg heq]
          exact isLive_iff.mp (h.isLive_of_entry id hleft)
  | dropConsumer | stop => exact ⟨h.given_iff, h.isLive_of_entry⟩
  | setEnabled => exact ⟨h.given_iff, h.isLive_of_entry⟩

theorem changes (h : server.Orderly) (hchanges : ReflTransGen Change server after) :
    after.Orderly := by
  induction hchanges with
  | refl => exact h
  | tail _ hchange ih => exact ih.change hchange

end Orderly

/-! ## Reads as inputs -/

/-- The reads that an input is made of, each as an input of its own. -/
def Input.reads (width : Nat) : Input → List Input
  | .send id octets => (pieces width octets).map (.send id)
  | input => [input]

theorem config_changes (h : ReflTransGen Change server after) :
    after.gateway.config = server.gateway.config := by
  induction h with
  | refl => rfl
  | tail _ hchange ih =>
      rw [← ih]
      cases hchange <;> first | rfl | rw [gateway_deliver]

/-- What is small enough is one read. -/
theorem step_send (hne : octets ≠ [])
    (hle : octets.length ≤ server.gateway.config.listener.readBufferBytes) :
    server.step (.send id octets) = server.read id octets := by
  show server.receive id octets = _
  rw [receive, pieces_eq_singleton hne hle]
  rfl

private theorem run_sends {chunks : List Bytes} (hne : ∀ chunk ∈ chunks, chunk ≠ [])
    (hle : ∀ chunk ∈ chunks, chunk.length ≤ server.gateway.config.listener.readBufferBytes) :
    run server (chunks.map (.send id)) =
      chunks.foldl (fun server chunk => server.read id chunk) server := by
  induction chunks generalizing server with
  | nil => rfl
  | cons chunk chunks ih =>
      obtain ⟨hchunk, hchunks⟩ := List.forall_mem_cons.mp hne
      obtain ⟨hfirst, hrest⟩ := List.forall_mem_cons.mp hle
      have hconfig := config_changes (step_changes server (.send id chunk))
      rw [List.foldl_cons, ← step_send hchunk hfirst]
      exact ih hchunks (by rwa [hconfig])

/-- Each read may as well be an input of its own. -/
theorem run_reads (server : Server) (inputs : List Input) :
    run server (inputs.flatMap (Input.reads server.gateway.config.listener.readBufferBytes)) =
      run server inputs := by
  induction inputs generalizing server with
  | nil => rfl
  | cons input inputs ih =>
      have hconfig := config_changes (step_changes server input)
      have hone : run server (input.reads server.gateway.config.listener.readBufferBytes) =
          server.step input := by
        cases input with
        | send id octets =>
            exact run_sends (fun _ => ne_nil_of_mem_pieces) fun _ => length_le_of_mem_pieces
        | connect | finish | reset | dropConsumer | setEnabled | shutdown => rfl
      rw [List.flatMap_cons, run_append, hone, ← hconfig]
      exact ih (server.step input)

/-- What is read at once is not empty, and small enough. -/
theorem reads_send {inputs : List Input} {width : Nat} {other : ConnectionId}
    {octets : Bytes} (h : .send other octets ∈ inputs.flatMap (Input.reads width)) :
    octets ≠ [] ∧ octets.length ≤ width := by
  obtain ⟨input, _, hreads⟩ := List.mem_flatMap.mp h
  cases input with
  | send id sent =>
      obtain ⟨piece, hpiece, heq⟩ := List.mem_map.mp hreads
      cases heq
      exact ⟨ne_nil_of_mem_pieces hpiece, length_le_of_mem_pieces hpiece⟩
  | connect | finish | reset | dropConsumer | setEnabled | shutdown => simp [Input.reads] at hreads

/-- A consumer that goes away within a read, when the reply is written and nothing is handed on
yet, may as well have gone away before it. -/
theorem react_dropConsumer (hlive : server.isLive id) (chunk : Bytes) :
    ((server.serve id chunk).step .dropConsumer).react id
        (server.gateway.router.receive id chunk).1.reaction =
      (server.step .dropConsumer).read id chunk := by
  have hstill : (server.step .dropConsumer).isLive id := hlive
  rw [read_eq hstill]
  rfl

end Server
end SharedListener
