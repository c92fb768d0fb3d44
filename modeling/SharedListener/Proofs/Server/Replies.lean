import SharedListener.Proofs.Connection.Standing
import SharedListener.Proofs.Router.Lives
import SharedListener.Proofs.Router.Shape
import SharedListener.Proofs.Server.Changes

/-!
# What a client gets

A client gets the replies of its connection and nothing else.  What these are is
a matter of what was read from it (`Arrival`): nothing as long as the connection
waits and once it is native, and when a request is answered the one response or
the one farewell that it calls for (`Fate`).  No chunk behind that adds to it.
-/

namespace SharedListener

open Connection (Standing received replies)
open Handshake (HeadEnds negotiate)

namespace Router

/-! ## What becomes of a connection -/

/-- What was read from a connection at once, and the gate in force then. -/
structure Arrival where
  chunk : Bytes
  isEnabled : String → Bool

/-- The life of a connection from which all this was read. -/
def Life.after (settings : Connection.Settings) (arrivals : List Arrival) : Life :=
  arrivals.foldl (fun life arrival => life.next settings arrival.isEnabled arrival.chunk) .new

/-- What has become of a connection, and what was sent back. -/
inductive Fate (arrivals : List Arrival) (life : Life) : Prop
  | waits (hwaits : life.connection.Waits (received life.exchanges))
      (hreplies : replies life.exchanges = [])
  | native (hdecided : life.connection.Decided)
      (hstanding : life.connection.standing life.exchanges = .native)
  | answered {arrival : Arrival} {length : Nat} (hdecided : life.connection.Decided)
      (harrival : arrival ∈ arrivals) (hends : HeadEnds (received life.exchanges) length)
      (hstanding : life.connection.standing life.exchanges =
        .answered (negotiate arrival.isEnabled ((received life.exchanges).take length)))

variable {settings : Connection.Settings} {arrivals : List Arrival} {life : Life}

/-- A connection that waits may be answered on a chunk, and one that does not keeps its fate. -/
theorem Fate.next (h : Fate arrivals life) (settings : Connection.Settings) (arrival : Arrival) :
    Fate (arrivals ++ [arrival]) (life.next settings arrival.isEnabled arrival.chunk) := by
  have hreceived : received (life.next settings arrival.isEnabled arrival.chunk).exchanges =
      received life.exchanges ++ arrival.chunk := Connection.received_concat
  cases h with
  | waits hwaits hreplies =>
      have houtcome := hwaits.receive settings arrival.isEnabled arrival.chunk
      unfold Life.next at hreceived ⊢
      generalize life.connection.receive settings arrival.isEnabled arrival.chunk = step
        at houtcome hreceived ⊢
      cases houtcome with
      | waited _ _ _ haction hwaits =>
          refine .waits (by rwa [hreceived]) ?_
          rw [Connection.replies_concat, hreplies, haction]
          rfl
      | turnedNative =>
          exact .native (Connection.becomeNative_decided (received life.exchanges ++ arrival.chunk))
            (Connection.becomeNative_standing hreplies _ _)
      | @answered length _ hends =>
          refine .answered (Connection.answer_decided _ _ _ _)
            (List.mem_append_right _ (List.mem_singleton.mpr rfl)) (by rwa [hreceived]) ?_
          rw [hreceived]
          exact Connection.answer_standing hreplies _ _ _ _ _
  | native hdecided hstanding =>
      obtain ⟨hstill, hsame⟩ :=
        hdecided.receive settings arrival.isEnabled life.exchanges arrival.chunk
      exact .native hstill (hsame.trans hstanding)
  | answered hdecided harrival hends hstanding =>
      obtain ⟨hstill, hsame⟩ :=
        hdecided.receive settings arrival.isEnabled life.exchanges arrival.chunk
      refine .answered hstill (List.mem_append_left _ harrival)
        (by rw [hreceived]; exact hends.append _) ?_
      rw [hreceived, List.take_append_of_le_length hends.length_le]
      exact hsame.trans hstanding

@[simp] theorem Life.after_concat (settings : Connection.Settings) (arrivals : List Arrival)
    (arrival : Arrival) :
    Life.after settings (arrivals ++ [arrival]) =
      (Life.after settings arrivals).next settings arrival.isEnabled arrival.chunk := by
  rw [Life.after, List.foldl_append]
  rfl

theorem fate_after (settings : Connection.Settings) (arrivals : List Arrival) :
    Fate arrivals (.after settings arrivals) := by
  induction arrivals using List.reverseRecOn with
  | nil => exact .waits Connection.waits_new rfl
  | append_singleton arrivals arrival ih =>
      rw [Life.after_concat]
      exact ih.next settings arrival

/-- What the client must have got, by what has become of its connection. -/
def Owed (arrivals : List Arrival) (life : Life) (written : Bytes) : Prop :=
  match life.connection.shape with
  | .waiting | .native => written = []
  | .rejected => written = [0xFF, 0x00] ∧ ∃ arrival ∈ arrivals, ∃ length path,
      HeadEnds (received life.exchanges) length ∧
        negotiate arrival.isEnabled ((received life.exchanges).take length) =
          .error (.rejected path)
  | .upgraded | .ended => ∃ arrival ∈ arrivals, ∃ length request,
      HeadEnds (received life.exchanges) length ∧
        negotiate arrival.isEnabled ((received life.exchanges).take length) = .ok request ∧
        life.connection.metadata = request.metadata ∧
        written = Handshake.response request.metadata.origin request.metadata.host request.key

private theorem owed_of_native (h : life.connection.standing life.exchanges = .native) :
    Owed arrivals life (replies life.exchanges).flatten := by
  have hprotocol : life.connection.protocol = .native := congrArg Standing.protocol h
  have hreplies : replies life.exchanges = [] := congrArg Standing.replies h
  rw [Owed, Connection.shape_of_native hprotocol, hreplies]
  rfl

theorem Fate.owed (h : Fate arrivals life) :
    Owed arrivals life (replies life.exchanges).flatten := by
  cases h with
  | waits hwaits hreplies =>
      rw [Owed, Connection.shape_eq_waiting hwaits.state_eq hwaits.isOpen, hreplies]
      rfl
  | native _ hstanding => exact owed_of_native hstanding
  | @answered arrival length hdecided harrival hends hstanding =>
      rcases hverdict : negotiate arrival.isEnabled ((received life.exchanges).take length) with
        (flaw | path) | request
      · rw [hverdict] at hstanding
        exact owed_of_native hstanding
      · rw [hverdict] at hstanding
        have hprotocol : life.connection.protocol = .unclassified :=
          congrArg Standing.protocol hstanding
        have hreplies : replies life.exchanges = [Handshake.rejection] :=
          congrArg Standing.replies hstanding
        have hclosed := hdecided.resolve_right fun hknown => hknown hprotocol
        rw [Owed, Connection.shape_of_unclassified hprotocol hclosed, hreplies]
        exact ⟨rfl, arrival, harrival, length, path, hends, hverdict⟩
      · rw [hverdict] at hstanding
        have hprotocol : life.connection.protocol = .websocket :=
          congrArg Standing.protocol hstanding
        have hmetadata : life.connection.metadata = request.metadata :=
          congrArg Standing.metadata hstanding
        have hreplies : replies life.exchanges = [Handshake.response request.metadata.origin
            request.metadata.host request.key] := congrArg Standing.replies hstanding
        rcases Connection.shape_of_websocket hprotocol with hshape | hshape <;>
          rw [Owed, hshape, hreplies] <;>
          exact ⟨arrival, harrival, length, request, hends, hverdict, hmetadata,
            List.append_nil _⟩

end Router

namespace Server

open Router (Arrival Life Owed)

variable {server after : Server} {id : ConnectionId}

/-! ## What is read -/

/-- What one read of an input brings to a connection. -/
def arrivalOf (server : Server) (id : ConnectionId) : Input → List Arrival
  | .send other octets =>
      if other = id ∧ server.isLive id then
        [⟨octets, server.gateway.router.scopes.isEnabled⟩]
      else []
  | .connect | .finish _ | .reset _ | .dropConsumer | .setEnabled _ _ | .shutdown _ _ => []

/-- What these reads bring to a connection, in order. -/
def arrivals (server : Server) (id : ConnectionId) : List Input → List Arrival
  | [] => []
  | input :: inputs => server.arrivalOf id input ++ (server.step input).arrivals id inputs

theorem arrivals_concat (server : Server) (id : ConnectionId) (inputs : List Input)
    (input : Input) :
    server.arrivals id (inputs ++ [input]) =
      server.arrivals id inputs ++ (run server inputs).arrivalOf id input := by
  induction inputs generalizing server with
  | nil => simp [arrivals, run]
  | cons first inputs ih =>
      rw [List.cons_append, arrivals, arrivals, ih, List.append_assoc]
      rfl

/-- The client got the replies of the connection, and a live connection is what was read made of
it. -/
structure Replied (settings : Connection.Settings) (server : Server) (id : ConnectionId)
    (arrivals : List Arrival) : Prop where
  settings_eq : server.gateway.router.settings = settings
  written_eq : server.writtenTo id = (replies (Life.after settings arrivals).exchanges).flatten
  entry_eq : server.isLive id → server.gateway.router.connections[id]? =
    if arrivals = [] then none else some (Life.after settings arrivals).connection
  nil_of_not_given : server.ended? id = none → arrivals = []

namespace Replied

variable {settings : Connection.Settings} {arrivals : List Arrival}

private theorem congr (h : server.Replied settings id arrivals)
    (hsettings : after.gateway.router.settings = server.gateway.router.settings)
    (hwritten : after.writtenTo id = server.writtenTo id)
    (hentry : after.isLive id → server.isLive id ∧
      after.gateway.router.connections[id]? = server.gateway.router.connections[id]?)
    (hgiven : after.ended? id = none → server.ended? id = none) :
    after.Replied settings id arrivals where
  settings_eq := hsettings.trans h.settings_eq
  written_eq := hwritten.trans h.written_eq
  entry_eq hlive := (hentry hlive).2.trans (h.entry_eq (hentry hlive).1)
  nil_of_not_given hnone := h.nil_of_not_given (hgiven hnone)

/-- A new connection is one from which nothing was read. -/
private theorem connect (h : server.Replied settings id arrivals) (horderly : server.Orderly) :
    server.connect.Replied settings id arrivals := by
  refine ⟨h.settings_eq, (writtenTo_connect horderly.nextId_new).trans h.written_eq, ?_, ?_⟩
  · intro hlive
    rw [isLive_iff, ended?_connect] at hlive
    split_ifs at hlive with hnext
    · -- what is not live has no entry
      have hnew : server.ended? id = none := hnext ▸ horderly.nextId_new
      rw [h.nil_of_not_given hnew, if_pos rfl]
      exact horderly.entry_of_new hnew
    · exact h.entry_eq (isLive_iff.mpr hlive)
  · intro hnone
    rw [ended?_connect] at hnone
    split_ifs at hnone
    exact h.nil_of_not_given hnone

private theorem serve (h : server.Replied settings id arrivals) (hlive : server.isLive id)
    (chunk : Bytes) :
    (server.serve id chunk).Replied settings id
      (arrivals ++ [⟨chunk, server.gateway.router.scopes.isEnabled⟩]) := by
  -- the entry is the connection that the chunks before made
  have hentry : server.gateway.router.connections[id]?.getD {} =
      (Life.after settings arrivals).connection := by
    rw [h.entry_eq hlive]
    split_ifs with hnone
    · rw [hnone]
      rfl
    · rfl
  refine ⟨?_, ?_, fun _ => ?_, ?_⟩
  · rw [router_serve, Router.receive_settings, h.settings_eq]
  · have hreply (reply : Option Bytes) : reply.toList.flatten = reply.getD [] := by
      cases reply <;> simp
    rw [writtenTo_serve hlive, h.written_eq, Router.Life.after_concat, Life.next,
      Connection.replies_concat, List.flatten_append, hreply, ← hentry, ← h.settings_eq]
    rfl
  · rw [router_serve, Router.receive_connections, Std.ExtTreeMap.getElem?_insert_self,
      Router.Life.after_concat, hentry, h.settings_eq, if_neg (by simp)]
    rfl
  · intro hnone
    rw [ended?_serve, isLive_iff.mp hlive] at hnone
    cases hnone

private theorem serve_other (h : server.Replied settings id arrivals) {other : ConnectionId}
    (hother : other ≠ id) (chunk : Bytes) :
    (server.serve other chunk).Replied settings id arrivals := by
  refine h.congr ?_ (writtenTo_serve_of_ne hother chunk) (fun hlive => ?_) fun hnone => ?_
  · rw [router_serve, Router.receive_settings]
  · rw [isLive_serve] at hlive
    refine ⟨hlive, ?_⟩
    rw [router_serve, Router.receive_connections, Std.ExtTreeMap.getElem?_insert,
      if_neg (by simpa using hother)]
  · rwa [ended?_serve] at hnone

private theorem deliver (h : server.Replied settings id arrivals) (delivery : Delivery) :
    (server.deliver delivery).Replied settings id arrivals := by
  refine h.congr (by rw [gateway_deliver]) (writtenTo_deliver server delivery) (fun hlive => ?_)
    fun hnone => ?_
  · rw [isLive_deliver] at hlive
    exact ⟨hlive, by rw [gateway_deliver]⟩
  · rwa [ended?_deliver] at hnone

private theorem finish (h : server.Replied settings id arrivals) (other : ConnectionId) :
    (server.finish other).Replied settings id arrivals := by
  refine h.congr (Router.close_settings _ other) (writtenTo_finish server other) (fun hlive => ?_)
    fun hnone => ?_
  · have hother : other ≠ id := by
      rintro rfl
      exact not_isLive_finish server other hlive
    obtain ⟨hended, hentry⟩ := finish_other hother server
    rw [isLive_iff, hended, ← isLive_iff] at hlive
    exact ⟨hlive, hentry⟩
  · rw [ended?_finish] at hnone
    split_ifs at hnone
    · exact Option.map_eq_none_iff.mp hnone
    · exact hnone

/-- A read brings the replies to its chunk, and what it calls for besides writes nothing. -/
private theorem read (h : server.Replied settings id arrivals) {other : ConnectionId}
    {chunk : Bytes} (hlive : server.isLive other) (hne : chunk ≠ []) :
    (server.read other chunk).Replied settings id
      (arrivals ++ server.arrivalOf id (.send other chunk)) := by
  have hserve : (server.serve other chunk).Replied settings id
      (arrivals ++ server.arrivalOf id (.send other chunk)) := by
    by_cases hother : other = id
    · subst hother
      rw [arrivalOf, if_pos ⟨rfl, hlive⟩]
      exact h.serve hlive chunk
    · rw [arrivalOf, if_neg fun hboth => hother hboth.1, List.append_nil]
      exact h.serve_other hother chunk
  rcases read_cases hlive hne with heq | ⟨_, _, _, _, _, _, heq⟩ | heq <;> rw [heq]
  · exact hserve
  · exact hserve.deliver _
  · exact hserve.finish other

/-- One read, or one other input. -/
theorem step (h : server.Replied settings id arrivals) (horderly : server.Orderly) {input : Input}
    (hread : ∀ other octets, input = .send other octets →
      octets ≠ [] ∧ octets.length ≤ server.gateway.config.listener.readBufferBytes) :
    (server.step input).Replied settings id (arrivals ++ server.arrivalOf id input) := by
  cases input with
  | send other octets =>
      obtain ⟨hne, hle⟩ := hread other octets rfl
      rw [step_send hne hle]
      by_cases hlive : server.isLive other
      · exact h.read hlive hne
      · rw [read_of_not_live hlive, arrivalOf, if_neg, List.append_nil]
        · exact h
        · rintro ⟨rfl, hthere⟩
          exact hlive hthere
  | connect =>
      rw [arrivalOf, List.append_nil]
      show (if server.isAccepting then server.connect else server).Replied settings id arrivals
      split_ifs
      · exact h.connect horderly
      · exact h
  | finish other | reset other =>
      rw [arrivalOf, List.append_nil]
      show (if server.isLive other then server.finish other else server).Replied settings id
        arrivals
      split_ifs
      · exact h.finish other
      · exact h
  | dropConsumer | setEnabled | shutdown =>
      rw [arrivalOf, List.append_nil]
      exact h.congr rfl rfl (fun hlive => ⟨hlive, rfl⟩) fun hnone => hnone

end Replied

/-! ## Whole runs -/

theorem replied_run {config : Config} {gateway : Gateway}
    (hstart : Gateway.start config = .ok gateway) {reads : List Input}
    (hreads : ∀ other octets, .send other octets ∈ reads →
      octets ≠ [] ∧ octets.length ≤ config.listener.readBufferBytes) (id : ConnectionId) :
    (run (.ofGateway gateway) reads).Replied config.listener.settings id
      ((ofGateway gateway).arrivals id reads) := by
  have hgateway := Gateway.start_eq hstart
  induction reads using List.reverseRecOn with
  | nil =>
      refine ⟨by rw [hgateway]; rfl, ?_, fun hlive => ?_, fun _ => rfl⟩
      · simp [run, writtenTo, ofGateway, arrivals, Life.after, Life.new, replies]
      · rw [isLive_iff] at hlive
        simp [run, ended?, ofGateway] at hlive
  | append_singleton reads input ih =>
      have hbefore := ih fun other octets hmem => hreads other octets (List.mem_append_left _ hmem)
      have hconfig : (run (.ofGateway gateway) reads).gateway.config = config :=
        (config_changes (run_changes _ reads)).trans (by rw [hgateway]; rfl)
      have horderly := (Orderly.start hstart).changes (run_changes (.ofGateway gateway) reads)
      rw [run_concat, arrivals_concat]
      refine hbefore.step horderly fun other octets heq => ?_
      rw [hconfig]
      exact hreads other octets (by simp [heq])

/-- **What a client gets.**  Taken read by read, a run is the same.  After any number of reads and
of other inputs, whatever became of the consumer, what has been written to a client is what it is
owed by all that was read from it: nothing as long as its connection waits and once it is native,
the farewell and nothing else once its request was turned down, and the response to its request and
nothing else once it was upgraded.  What was read is also what made the entry of a connection that
is live. -/
theorem run_written {config : Config} {gateway : Gateway}
    (hstart : Gateway.start config = .ok gateway) (inputs : List Input) (id : ConnectionId) :
    let reads := inputs.flatMap (Input.reads config.listener.readBufferBytes)
    run (.ofGateway gateway) reads = run (.ofGateway gateway) inputs ∧
    ∀ before, before <+: reads →
      let server := run (.ofGateway gateway) before
      let arrivals := (ofGateway gateway).arrivals id before
      let life := Life.after config.listener.settings arrivals
      Owed arrivals life (server.writtenTo id) ∧
      (server.isLive id → server.gateway.router.connections[id]? =
        if arrivals = [] then none else some life.connection) := by
  intro reads
  have hconfig : (ofGateway gateway).gateway.config = config := by
    rw [Gateway.start_eq hstart]
    rfl
  have hsame := run_reads (.ofGateway gateway) inputs
  rw [hconfig] at hsame
  refine ⟨hsame, fun before hbefore => ?_⟩
  have hreplied := replied_run hstart (fun other octets hmem =>
    reads_send (hbefore.subset hmem)) id
  refine ⟨?_, hreplied.entry_eq⟩
  rw [hreplied.written_eq]
  exact (Router.fate_after _ _).owed

/-- A connection whose request is turned down. -/
theorem run_written_rejected :
    let config : Config := { version := 1, scopes := [{ app := "a", enabled := false }] }
    let inputs : List Input := [.connect, .send 1 (Text.Utf8.encodeString
      "GET /a H\r\nSec-WebSocket-Key: k\r\n\r\n"), .finish 1]
    ∃ gateway, Gateway.start config = .ok gateway ∧
      (Life.after config.listener.settings
        ((ofGateway gateway).arrivals 1 inputs)).connection.shape = .rejected ∧
      (run (.ofGateway gateway) inputs).writtenTo 1 = [0xFF, 0x00] := by
  intro config inputs
  have hprefix : inputs <+: inputs.flatMap (Input.reads config.listener.readBufferBytes) := by
    decide +kernel
  obtain ⟨howed, -⟩ := (run_written (Gateway.start_ok config) inputs 1).2 inputs hprefix
  refine ⟨_, Gateway.start_ok config, ?_⟩
  generalize hserver : ofGateway _ = server at howed ⊢
  have hshape : (Life.after config.listener.settings
      (server.arrivals 1 inputs)).connection.shape = .rejected := by
    rw [← hserver]
    decide +kernel
  rw [Owed, hshape] at howed
  exact ⟨hshape, howed.1⟩

end Server

end SharedListener
