import Mathlib.Data.List.Count
import SharedListener.Proofs.Handshake.Grant
import SharedListener.Proofs.Router.Run
import SharedListener.Proofs.Scope.Index

/-!
# The registry and the entries of a router agree

The router registers a connection when it is upgraded and unregisters it when
its entry is dropped, so the registry holds what the WebSocket entries say.  A
chunk registers at most one connection, and only one that was not registered
before (`receive_enrolled`), which is what keeps the index right.
-/

namespace SharedListener

namespace Connection

variable {connection : Connection}

/-- What an event enters into the registry. -/
def Event.enrolled? : Event → Option Metadata
  | .upgraded metadata => some metadata
  | _ => none

/-- What the registry has to say of a connection: nothing, unless it was upgraded. -/
def registered? (connection : Connection) : Option Metadata :=
  if connection.protocol = .websocket then some connection.metadata else none

/-- A connection without an entry is a new one, of which nothing is registered. -/
theorem registered?_getD (entry : Option Connection) :
    (entry.getD {}).registered? = entry.bind registered? := by
  cases entry <;> rfl

/-! ## What a chunk registers -/

private theorem react_enrolled (lifecycle : Lifecycle) (outcome : Except Fault Frame.Outcome) :
    (react lifecycle outcome).2.2.filterMap Event.enrolled? = [] := by
  unfold react
  split
  · split <;> rfl
  all_goals rfl

private theorem answer_enrolled (settings : Settings) (isEnabled : String → Bool)
    {buffer : Bytes} (hstate : connection.state = .unclassified buffer)
    (received behind head : Bytes) :
    let step := answer settings connection received behind (Handshake.negotiate isEnabled head)
    step.events.filterMap Event.enrolled? = [] ∧
        step.connection.registered? = connection.registered? ∨
      ∃ metadata, step.events.filterMap Event.enrolled? = [metadata] ∧
        connection.registered? = none ∧ step.connection.registered? = some metadata ∧
        isEnabled metadata.path := by
  have hnone : connection.registered? = none := by simp [registered?, protocol, hstate]
  rw [hnone]
  rcases hverdict : Handshake.negotiate isEnabled head with (flaw | path) | request
  · exact .inl ⟨rfl, rfl⟩
  · exact .inl ⟨rfl, rfl⟩
  · refine .inr ⟨request.metadata, ?_, rfl, ?_, (Handshake.negotiate_eq_ok hverdict).1⟩
    · rw [answer, upgrade_eq]
      exact congrArg (request.metadata :: ·) (react_enrolled _ _)
    · rw [answer, upgrade_eq]
      rfl

/-- A chunk changes nothing that is registered, or it registers a connection that was not. -/
theorem receive_enrolled (settings : Settings) (isEnabled : String → Bool)
    (connection : Connection) (chunk : Bytes) :
    let step := connection.receive settings isEnabled chunk
    step.events.filterMap Event.enrolled? = [] ∧
        step.connection.registered? = connection.registered? ∨
      ∃ metadata, step.events.filterMap Event.enrolled? = [metadata] ∧
        connection.registered? = none ∧ step.connection.registered? = some metadata ∧
        isEnabled metadata.path := by
  have hmove := receive_move settings isEnabled connection chunk
  intro step
  change Move settings isEnabled connection chunk step at hmove
  clear_value step
  cases hmove with
  | ended => exact .inl ⟨rfl, rfl⟩
  | waited _ hstate => exact .inl ⟨rfl, by simp [registered?, protocol, hstate]⟩
  | turnedNative _ hstate =>
      exact .inl ⟨rfl, by simp [registered?, protocol, hstate, becomeNative]⟩
  | answered _ hstate => exact answer_enrolled settings isEnabled hstate _ _ _
  | copied _ hstate => exact .inl ⟨rfl, by simp [registered?, protocol, hstate]⟩
  | decoded _ hstate =>
      rw [receiveFrames_eq]
      exact .inl ⟨react_enrolled _ _, by simp [registered?, protocol, hstate]⟩

end Connection

namespace Router

open Connection (Event)

variable {router : Router} {id : ConnectionId}

theorem scopes_foldl_note (router : Router) (id : ConnectionId) (events : List Event) :
    (events.foldl (note id) router).scopes =
      (events.filterMap Event.enrolled?).foldl
        (fun scopes metadata => scopes.register id metadata) router.scopes := by
  induction events generalizing router with
  | nil => rfl
  | cons event events ih =>
      rw [List.foldl_cons, ih]
      cases event <;> rfl

/-! ## Agreement -/

/-- The registry holds what the entries say, in its index too, and knows their applications. -/
structure Agrees (router : Router) : Prop where
  registered : ∀ id : ConnectionId, router.scopes.connections[id]? =
    router.connections[id]?.bind Connection.registered?
  indexed : router.scopes.Indexed
  known : router.scopes.Known

namespace Agrees

theorem new (settings : Connection.Settings) (metrics : Metrics)
    (apps : List (String × Bool)) :
    Agrees { settings, scopes := .ofApps apps, metrics } where
  registered id := by simp [(Scope.Registry.ofApps_empty apps).1]
  indexed := Scope.Registry.ofApps_indexed apps
  known := Scope.Registry.ofApps_known apps

theorem receive (h : router.Agrees) (id : ConnectionId) (chunk : Bytes) :
    (router.receive id chunk).2.Agrees := by
  have hconnections := receive_connections router id chunk
  have hscopes : (router.receive id chunk).2.scopes = _ := scopes_foldl_note _ id _
  have hbefore := (Connection.registered?_getD router.connections[id]?).trans
    (h.registered id).symm
  have henrolled := Connection.receive_enrolled router.settings router.scopes.isEnabled
    (router.connections[id]?.getD {}) chunk
  generalize (router.connections[id]?.getD {}).receive router.settings
    router.scopes.isEnabled chunk = step at hconnections hscopes henrolled
  rcases henrolled with ⟨hnone, hsame⟩ | ⟨metadata, hsome, hnew, hafter, hlive⟩
  · rw [hnone, List.foldl_nil] at hscopes
    refine ⟨fun other => ?_, hscopes ▸ h.indexed, hscopes ▸ h.known⟩
    rw [hscopes, hconnections, Std.ExtTreeMap.getElem?_insert]
    simp only [Std.LawfulEqCmp.compare_eq_iff_eq]
    split_ifs with heq
    · rw [← heq, Option.bind_some, hsame, hbefore]
    · exact h.registered other
  · rw [hsome, List.foldl_cons, List.foldl_nil] at hscopes
    rw [hnew] at hbefore
    obtain ⟨app, hmember, happ⟩ := Scope.Registry.exists_app_of_isEnabled hlive
    refine ⟨fun other => ?_, hscopes ▸ h.indexed.register hbefore.symm metadata,
      hscopes ▸ h.known.register hmember happ id⟩
    rw [hscopes, hconnections, Scope.Registry.connections_register,
      Std.ExtTreeMap.getElem?_insert]
    simp only [Std.LawfulEqCmp.compare_eq_iff_eq]
    split_ifs with heq
    · rw [Option.bind_some, hafter]
    · exact h.registered other

/-- A connection that was not upgraded is not registered, so that nothing is to be done. -/
private theorem scopes_close (h : router.Agrees) (id : ConnectionId) :
    (router.close id).2.scopes = router.scopes.unregister id := by
  have hregistered := h.registered id
  unfold Router.close
  cases hconnection : router.connections[id]? with
  | none =>
      rw [hconnection, Option.bind_none] at hregistered
      rw [Scope.Registry.unregister, hregistered]
  | some connection =>
      rw [hconnection, Option.bind_some, Connection.registered?] at hregistered
      split_ifs at hregistered with hprotocol
      · simp only [hprotocol, if_true]
      · simp only [hprotocol, if_false]
        rw [Scope.Registry.unregister, hregistered]

theorem close (h : router.Agrees) (id : ConnectionId) : (router.close id).2.Agrees where
  registered other := by
    rw [h.scopes_close, Scope.Registry.connections_unregister, close_connections]
    split_ifs
    · rfl
    · exact h.registered other
  indexed := h.scopes_close id ▸ h.indexed.unregister id
  known := h.scopes_close id ▸ h.known.unregister id

theorem setEnabled (h : router.Agrees) (app : String) (enabled : Bool) :
    (router.setEnabled app enabled).Agrees where
  registered := h.registered
  indexed := h.indexed.setEnabled app enabled
  known := h.known.setEnabled app enabled

theorem run (h : router.Agrees) (inputs : List Input) :
    (Router.run router inputs).router.Agrees := by
  induction inputs using List.reverseRecOn with
  | nil => exact h
  | append_singleton inputs input ih =>
      rw [run_concat]
      cases input with
      | receive id chunk => exact ih.receive id chunk
      | close id => exact ih.close id
      | setEnabled app enabled => exact ih.setEnabled app enabled

/-! ## What agreement says of the entries -/

theorem metadata?_eq_some_iff (h : router.Agrees) {metadata : Metadata} :
    router.scopes.metadata? id = some metadata ↔
      ∃ snapshot, router.snapshot? id = some snapshot ∧ snapshot.protocol = .websocket ∧
        snapshot.metadata = metadata := by
  rw [Scope.Registry.metadata?, h.registered id, snapshot?]
  cases router.connections[id]? with
  | none => simp
  | some connection => simp [Connection.registered?]

theorem mem_connectionsIn_iff (h : router.Agrees) {app : String} :
    id ∈ router.scopes.connectionsIn app ↔
      ∃ snapshot, router.snapshot? id = some snapshot ∧ snapshot.protocol = .websocket ∧
        Scope.applicationOf snapshot.metadata.path = some app := by
  rw [Scope.Registry.mem_connectionsIn, h.indexed app id, Scope.Registry.application?,
    Option.bind_eq_some_iff]
  constructor
  · rintro ⟨metadata, hmetadata, happ⟩
    obtain ⟨snapshot, hsnapshot, hprotocol, rfl⟩ := h.metadata?_eq_some_iff.mp hmetadata
    exact ⟨snapshot, hsnapshot, hprotocol, happ⟩
  · rintro ⟨snapshot, hsnapshot, hprotocol, happ⟩
    exact ⟨snapshot.metadata,
      h.metadata?_eq_some_iff.mpr ⟨snapshot, hsnapshot, hprotocol, rfl⟩, happ⟩

theorem size_eq_countP (h : router.Agrees) :
    router.scopes.size =
      router.connections.toList.countP fun entry => entry.2.protocol = .websocket := by
  have hregistered : router.scopes.connections =
      router.connections.filterMap fun _ connection => connection.registered? := by
    refine Std.ExtTreeMap.ext_getElem? fun id => ?_
    rw [h.registered id, Std.ExtTreeMap.getElem?_filterMap']
  rw [Scope.Registry.size, hregistered, ← Std.ExtTreeMap.length_toList,
    Std.ExtTreeMap.toList_filterMap, List.length_filterMap_eq_countP]
  refine List.countP_congr fun entry _ => ?_
  by_cases hprotocol : entry.2.protocol = .websocket <;>
    simp [Connection.registered?, hprotocol]

theorem exists_switch (h : router.Agrees) {app : String}
    (hid : id ∈ router.scopes.connectionsIn app) :
    ∃ enabled, (app, enabled) ∈ router.scopes.switches := by
  rw [Scope.Registry.mem_connectionsIn, h.indexed app id] at hid
  obtain ⟨metadata, hmetadata, _⟩ := Option.bind_eq_some_iff.mp hid
  obtain ⟨name, hmember, hname⟩ := h.known id
    (Std.ExtTreeMap.mem_iff_isSome_getElem?.mpr (by rw [hmetadata]; rfl))
  obtain rfl := Option.some.inj (hid.symm.trans hname)
  obtain ⟨enabled, henabled⟩ :=
    Option.isSome_iff_exists.mp (Std.ExtTreeMap.mem_iff_isSome_getElem?.mp hmember)
  exact ⟨enabled, Std.ExtTreeMap.mem_toList_iff_getElem?_eq_some.mpr henabled⟩

end Agrees

/-- **The registry and the entries agree.**  After every run over a router without entries, whatever
applications it was set up with, the registry has metadata for exactly the WebSocket entries, namely
those that their snapshots show.  Under each application it lists, in increasing order, the
WebSocket entries whose path belongs to it; such an application has a switch, so that the numbers in
the listing of all applications add up to the number of WebSocket entries. -/
theorem run_agrees (settings : Connection.Settings) (metrics : Metrics)
    (apps : List (String × Bool)) (inputs : List Input) :
    let router := (run { settings, scopes := .ofApps apps, metrics } inputs).router
    (∀ id metadata, router.scopes.metadata? id = some metadata ↔
      ∃ snapshot, router.snapshot? id = some snapshot ∧ snapshot.protocol = .websocket ∧
        snapshot.metadata = metadata) ∧
    (∀ app, (router.scopes.connectionsIn app).Pairwise (· < ·) ∧
      ∀ id, id ∈ router.scopes.connectionsIn app ↔
        ∃ snapshot, router.snapshot? id = some snapshot ∧ snapshot.protocol = .websocket ∧
          Scope.applicationOf snapshot.metadata.path = some app) ∧
    router.scopes.size =
      (router.connections.toList.countP fun entry => entry.2.protocol = .websocket) ∧
    (∀ app, router.scopes.connectionsIn app = [] ∨
      ∃ enabled, (app, enabled) ∈ router.scopes.switches) ∧
    ((Operations.listing router.scopes).map Operations.ScopeStatus.connections).sum =
      router.scopes.size := by
  intro router
  have h : router.Agrees := (Agrees.new settings metrics apps).run inputs
  refine ⟨fun id metadata => h.metadata?_eq_some_iff, fun app => ⟨?_, fun id => ?_⟩,
    h.size_eq_countP, fun app => ?_,
    Scope.Registry.sum_connections_listing h.indexed h.known⟩
  · exact Scope.Registry.connectionsIn_increasing _ app
  · exact h.mem_connectionsIn_iff
  · rcases List.eq_nil_or_concat (router.scopes.connectionsIn app) with hnil | ⟨_, id, hid⟩
    · exact .inl hnil
    · have hmember : id ∈ router.scopes.connectionsIn app := by simp [hid]
      exact .inr (h.exists_switch hmember)

-- of an upgraded connection and a native one, only the first is listed
example :
    (run { scopes := .ofApps [("a", true)] }
      [.receive 7 (Text.Utf8.encodeString "GET /a H\r\nSec-WebSocket-Key: k\r\n\r\n"),
        .receive 8 [0x58]]).router.scopes.connectionsIn "a" = [7] := by
  rfl

end Router
end SharedListener
