import SharedListener.Proofs.Router.Run

/-!
# Frames behind a request

A request is granted on its head, and the bytes behind the head go to a decoder
that has nothing yet.  A connection whose request came alone is left with just
such a decoder, so the bytes may as well follow in a chunk of their own
(`upgrade_then`).  Two chunks write their events one after the other, and only
the second connection stays (`receive_receive`), so with the connection the
registry and the metrics are the same as well.
-/

namespace SharedListener

open Handshake

namespace Connection

variable {settings : Settings} {isEnabled : String → Bool} {connection : Connection}
  {buffer chunk : Bytes} {length : Nat} {request : Request}

/-! ## Granted requests -/

/-- Among the chunks that complete the head of a request, only a granted one is answered with an
upgrade. -/
theorem granted_of_upgrade {response : Bytes} {behind : Option Reaction}
    (hstate : connection.state = .unclassified buffer) (hends : HeadEnds (buffer ++ chunk) length)
    (hupgrade : (connection.receive settings isEnabled chunk).action = .upgrade response behind) :
    connection.lifecycle ≠ .closed ∧ ¬ Diverges (buffer ++ chunk) ∧
      ∃ request, negotiate isEnabled ((buffer ++ chunk).take length) = .ok request := by
  have hmove := receive_move settings isEnabled connection chunk
  generalize connection.receive settings isEnabled chunk = step at hmove hupgrade
  cases hmove with
  | ended | waited | turnedNative | copied => cases hupgrade
  | answered hopen hother hagree hother_ends =>
      obtain rfl := State.unclassified.inj (hstate.symm.trans hother)
      obtain rfl := hends.unique hother_ends
      refine ⟨hopen, hagree, ?_⟩
      rcases hverdict : negotiate isEnabled ((buffer ++ chunk).take length) with
        (flaw | path) | request
      · rw [hverdict] at hupgrade
        cases hupgrade
      · rw [hverdict] at hupgrade
        cases hupgrade
      · exact ⟨request, rfl⟩
  | decoded _ hother => exact State.noConfusion (hstate.symm.trans hother)

theorem receive_of_granted (hopen : connection.lifecycle ≠ .closed)
    (hstate : connection.state = .unclassified buffer) (hagree : ¬ Diverges (buffer ++ chunk))
    (hends : HeadEnds (buffer ++ chunk) length)
    (hgranted : negotiate isEnabled ((buffer ++ chunk).take length) = .ok request) :
    connection.receive settings isEnabled chunk =
      upgrade settings.limits request ((buffer ++ chunk).drop length) := by
  rw [receive_of_headEnds hopen hstate hagree hends, hgranted]
  rfl

/-- More bytes behind a granted request are decoded, and change nothing else. -/
theorem receive_append_of_granted (hopen : connection.lifecycle ≠ .closed)
    (hstate : connection.state = .unclassified buffer) (hagree : ¬ Diverges (buffer ++ chunk))
    (hends : HeadEnds (buffer ++ chunk) length)
    (hgranted : negotiate isEnabled ((buffer ++ chunk).take length) = .ok request)
    (more : Bytes) :
    connection.receive settings isEnabled (chunk ++ more) =
      upgrade settings.limits request ((buffer ++ chunk).drop length ++ more) := by
  have hstart : requestStart <+: buffer ++ chunk :=
    requestStart_prefix_of_four_le hagree (four_le_of_blankLine hends.blankLine_isInfix)
  have hlonger : requestStart <+: buffer ++ chunk ++ more := hstart.trans (List.prefix_append _ _)
  rw [← List.drop_append_of_le_length hends.length_le, List.append_assoc]
  rw [List.append_assoc] at hlonger
  refine receive_of_granted hopen hstate (not_diverges_of_requestStart hlonger) ?_ ?_
  · rw [← List.append_assoc]
    exact hends.append more
  · rwa [← List.append_assoc, List.take_append_of_le_length hends.length_le]

/-! ## A request alone, and frames alone -/

/-- A request with frames behind it is answered as the request alone and then the frames. -/
theorem upgrade_then (settings : Settings) (isEnabled : String → Bool) (request : Request)
    (frames : Bytes) :
    let first := upgrade settings.limits request []
    let second := first.connection.receive settings isEnabled frames
    ∃ reaction : Reaction, second.action = reaction.action ∧
      upgrade settings.limits request frames =
        { action := .upgrade
            (response request.metadata.origin request.metadata.host request.key) reaction.then?
          connection := second.connection
          events := first.events ++ second.events } := by
  intro first second
  -- the connection is open, and its decoder has nothing
  have hsecond : second = receiveFrames settings.limits first.connection {} frames := rfl
  rw [hsecond, receiveFrames_eq, upgrade_eq]
  exact ⟨_, rfl, rfl⟩

end Connection

/-! ## Over a router -/

namespace Router

private theorem insert_insert (connections : Std.ExtTreeMap ConnectionId Connection)
    (id : ConnectionId) (first second : Connection) :
    (connections.insert id first).insert id second = connections.insert id second := by
  refine Std.ExtTreeMap.ext_getElem? fun other => ?_
  simp only [Std.ExtTreeMap.getElem?_insert]
  split_ifs <;> rfl

/-- Two chunks of one connection are two steps of it, and their events are noted in order. -/
theorem receive_receive (router : Router) (id : ConnectionId) (chunk more : Bytes) :
    let first := (router.connections[id]?.getD {}).receive router.settings
      router.scopes.isEnabled chunk
    let second := first.connection.receive router.settings router.scopes.isEnabled more
    (router.receive id chunk).2.receive id more =
      (second.action,
        { (first.events ++ second.events).foldl (note id) router with
          connections := router.connections.insert id second.connection }) := by
  intro first second
  have hentry : (router.receive id chunk).2.connections[id]?.getD {} = first.connection := by
    rw [receive_connections, Std.ExtTreeMap.getElem?_insert_self]
    rfl
  rw [receive_eq, hentry, receive_settings, receive_isEnabled, receive_connections, insert_insert,
    List.foldl_append, receive_eq, foldl_note_connections]

/-- **Frames behind a request make no difference.**  A chunk that completes a request and has
nothing behind it, and that is answered with an upgrade, may as well bring the first frames along:
the router is the same as if they had followed in a chunk of their own, and the upgrade calls for
what that chunk would have been answered with, or for nothing if that would have been to wait. -/
theorem receive_pipelined (router : Router) (id : ConnectionId) {buffer head response : Bytes}
    {behind : Option Connection.Reaction} (frames : Bytes)
    (hstate : (router.connections[id]?.getD {}).state = .unclassified buffer)
    (hends : HeadEnds (buffer ++ head) (buffer ++ head).length)
    (hupgrade : (router.receive id head).1 = .upgrade response behind) :
    (router.receive id (head ++ frames)).2 = ((router.receive id head).2.receive id frames).2 ∧
    ∃ next, (router.receive id (head ++ frames)).1 = .upgrade response next ∧
      (next = none ↔ ((router.receive id head).2.receive id frames).1 = .await) ∧
      ∀ reaction ∈ next, ((router.receive id head).2.receive id frames).1 = reaction.action := by
  obtain ⟨hopen, hagree, request, hgranted⟩ :=
    Connection.granted_of_upgrade hstate hends hupgrade
  have halone : (router.connections[id]?.getD {}).receive router.settings
      router.scopes.isEnabled head = Connection.upgrade router.settings.limits request [] := by
    rw [Connection.receive_of_granted hopen hstate hagree hends hgranted, List.drop_length]
  have htogether : (router.connections[id]?.getD {}).receive router.settings
      router.scopes.isEnabled (head ++ frames) =
        Connection.upgrade router.settings.limits request frames := by
    rw [Connection.receive_append_of_granted hopen hstate hagree hends hgranted,
      List.drop_length, List.nil_append]
  obtain ⟨reaction, hreaction, hthen⟩ :=
    Connection.upgrade_then router.settings router.scopes.isEnabled request frames
  rw [receive_eq, halone] at hupgrade
  rw [receive_receive, receive_eq, htogether, halone, hthen]
  cases hupgrade
  refine ⟨rfl, reaction.then?, rfl, ?_, fun other hother => ?_⟩
  · rw [hreaction, Connection.Reaction.then?_eq_none_iff]
    cases reaction <;> simp [Connection.Reaction.action]
  · rw [hreaction, Connection.Reaction.eq_of_then?_eq_some hother]

/-- A router for one live application. -/
def liveRouter : Router := { scopes := .ofApps [("a", true)] }

/-- A request that it grants. -/
def liveRequest : Bytes :=
  Text.Utf8.encodeString "GET /a H\r\nSec-WebSocket-Key: k\r\n\r\n"

/-- A text frame behind a granted request is handed on with the response. -/
theorem receive_pipelined_text :
    (liveRouter.connections[(7 : ConnectionId)]?.getD {}).state = .unclassified [] ∧
    HeadEnds liveRequest liveRequest.length ∧
    (liveRouter.receive 7 liveRequest).1 = .upgrade (response "" "" "k") none ∧
    (liveRouter.receive 7 (liveRequest ++ [0x81, 0x01, 0x78])).2 =
      ((liveRouter.receive 7 liveRequest).2.receive 7 [0x81, 0x01, 0x78]).2 ∧
    ((liveRouter.receive 7 liveRequest).2.receive 7 [0x81, 0x01, 0x78]).1 = .forward [0x78] ∧
    (liveRouter.receive 7 (liveRequest ++ [0x81, 0x01, 0x78])).1 =
      .upgrade (response "" "" "k") (some (.forward [0x78])) := by
  have hstate : (liveRouter.connections[(7 : ConnectionId)]?.getD {}).state = .unclassified [] := by
    rfl
  have hends : HeadEnds liveRequest liveRequest.length :=
    headLength?_eq_some_iff.mp (by decide +kernel)
  have hupgrade : (liveRouter.receive 7 liveRequest).1 = .upgrade (response "" "" "k") none := by
    rfl
  have hsecond :
      ((liveRouter.receive 7 liveRequest).2.receive 7 [0x81, 0x01, 0x78]).1 = .forward [0x78] := by
    decide +kernel
  obtain ⟨hrouter, next, hfirst, habsent, hnext⟩ :=
    receive_pipelined liveRouter 7 [0x81, 0x01, 0x78] hstate hends hupgrade
  refine ⟨hstate, hends, hupgrade, hrouter, hsecond, hfirst.trans (congrArg _ ?_)⟩
  cases next with
  | none => exact Connection.Action.noConfusion (hsecond.symm.trans (habsent.mp rfl))
  | some reaction =>
      have haction := hsecond.symm.trans (hnext reaction rfl)
      cases reaction with
      | forward payload => rw [Connection.Action.forward.inj haction]
      | await | close => exact Connection.Action.noConfusion haction

end Router
end SharedListener
