import SharedListener.Proofs.Handshake.Head
import SharedListener.Proofs.Handshake.HeaderLines
import SharedListener.Proofs.Router.Registration
import SharedListener.Proofs.Scope.Switches

/-!
# The gate decides before the headers do

When the head of a request is complete, three questions are asked in order: is
there a path, is its application switched on, and is there a client key.  Without
a path or a key the connection is native; with a path that is not live it is
turned down, whatever the header lines say.

The switch in force is the last one set in the run, those of the configuration
counting as set before it (`apps_run`).
-/

namespace SharedListener

open Handshake
open Text.Utf8 (recover)

namespace Router

open Scope (IsFirstSegment IsLive lastSwitch?)

variable {router : Router} {id : ConnectionId} {chunk buffer : Bytes} {length : Nat}

/-! ## The switches of a run -/

/-- The switch that an input sets. -/
def Input.switch? : Input → Option (String × Bool)
  | .setEnabled app enabled => some (app, enabled)
  | .receive _ _ | .close _ => none

private theorem close_apps (router : Router) (id : ConnectionId) :
    (router.close id).2.scopes.apps = router.scopes.apps := by
  unfold close
  split
  · rfl
  · dsimp only
    split_ifs
    · exact Scope.Registry.apps_unregister _ _
    · rfl

/-- Only switches change the switches. -/
theorem apps_run (router : Router) (inputs : List Input) :
    (run router inputs).router.scopes.apps =
      (inputs.filterMap Input.switch?).foldl
        (fun apps switch => apps.insert switch.1 switch.2) router.scopes.apps := by
  induction inputs using List.reverseRecOn with
  | nil => rfl
  | append_singleton inputs input ih =>
      rw [run_concat, List.filterMap_append, List.foldl_append, ← ih]
      cases input with
      | receive id chunk => exact receive_apps _ id chunk
      | close id => exact close_apps _ id
      | setEnabled app enabled => rfl

private theorem apps_ofApps_eq_foldl (apps : List (String × Bool)) :
    (Scope.Registry.ofApps apps).apps =
      apps.foldl (fun apps switch => apps.insert switch.1 switch.2) ∅ := by
  induction apps using List.reverseRecOn with
  | nil => rfl
  | append_singleton apps switch ih =>
      rw [Scope.Registry.ofApps_concat, List.foldl_append, ← ih]
      rfl

theorem getElem?_apps_run (settings : Connection.Settings) (metrics : Metrics)
    (apps : List (String × Bool)) (inputs : List Input) (app : String) :
    (run { settings, scopes := .ofApps apps, metrics } inputs).router.scopes.apps[app]? =
      lastSwitch? (apps ++ inputs.filterMap Input.switch?) app := by
  rw [← Scope.Registry.apps_ofApps, apps_run, apps_ofApps_eq_foldl, apps_ofApps_eq_foldl,
    List.foldl_append]

/-! ## The answer to a complete request -/

private theorem protocol?_eq (router : Router) (id : ConnectionId) :
    router.protocol? id = (router.snapshot? id).map Snapshot.protocol := by
  rw [protocol?, snapshot?, Option.map_map]
  rfl

private theorem receive_of_answer
    (hopen : (router.connections[id]?.getD {}).lifecycle ≠ .closed)
    (hstate : (router.connections[id]?.getD {}).state = .unclassified buffer)
    (hstart : requestStart <+: buffer ++ chunk) (hends : HeadEnds (buffer ++ chunk) length) :
    let step := Connection.answer router.settings (router.connections[id]?.getD {})
      (buffer ++ chunk) ((buffer ++ chunk).drop length)
      (negotiate router.scopes.isEnabled ((buffer ++ chunk).take length))
    (router.receive id chunk).1 = step.action ∧
      (router.receive id chunk).2.connections[id]? = some step.connection ∧
      (router.receive id chunk).2.scopes =
        (step.events.filterMap Connection.Event.enrolled?).foldl
          (fun scopes metadata => scopes.register id metadata) router.scopes := by
  intro step
  have hstep : (router.connections[id]?.getD {}).receive router.settings
      router.scopes.isEnabled chunk = step :=
    Connection.receive_of_headEnds hopen hstate (not_diverges_of_requestStart hstart) hends
  refine ⟨?_, ?_, ?_⟩
  · rw [receive_eq, hstep]
  · rw [receive_connections, hstep, Std.ExtTreeMap.getElem?_insert_self]
  · rw [receive_eq, hstep]
    exact scopes_foldl_note router id step.events

variable (hopen : (router.connections[id]?.getD {}).lifecycle ≠ .closed)
  (hstate : (router.connections[id]?.getD {}).state = .unclassified buffer)
  (hstart : requestStart <+: buffer ++ chunk) (hends : HeadEnds (buffer ++ chunk) length)

include hopen hstate hstart hends

/-- A flawed request makes the connection native, and all its bytes are handed on. -/
private theorem receive_of_flawed {flaw : Flaw}
    (hverdict : negotiate router.scopes.isEnabled ((buffer ++ chunk).take length) =
      .error (.flawed flaw)) :
    (router.receive id chunk).1 = .forward (buffer ++ chunk) ∧
      (router.receive id chunk).2.protocol? id = some .native := by
  obtain ⟨haction, hentry, -⟩ := receive_of_answer hopen hstate hstart hends
  rw [hverdict] at haction hentry
  exact ⟨haction, by rw [protocol?, hentry]; rfl⟩

/-- A request for a path that is not live is turned down, and leaves no trace in the registry. -/
private theorem receive_of_rejected {path : String}
    (hverdict : negotiate router.scopes.isEnabled ((buffer ++ chunk).take length) =
      .error (.rejected path)) :
    (router.receive id chunk).1 = .close (some [0xFF, 0x00]) ∧
      (router.receive id chunk).2.protocol? id = some .unclassified ∧
      (router.receive id chunk).2.scopes = router.scopes := by
  obtain ⟨haction, hentry, hscopes⟩ := receive_of_answer hopen hstate hstart hends
  rw [hverdict] at haction hentry hscopes
  exact ⟨haction, by rw [protocol?, hentry]; rfl, hscopes⟩

private theorem receive_of_granted {request : Request}
    (hverdict : negotiate router.scopes.isEnabled ((buffer ++ chunk).take length) = .ok request) :
    (∃ response behind, (router.receive id chunk).1 = .upgrade response behind) ∧
      ∃ snapshot, (router.receive id chunk).2.snapshot? id = some snapshot ∧
        snapshot.protocol = .websocket ∧ snapshot.metadata = request.metadata := by
  obtain ⟨haction, hentry, -⟩ := receive_of_answer hopen hstate hstart hends
  rw [hverdict, Connection.answer, Connection.upgrade_eq] at haction hentry
  exact ⟨⟨_, _, haction⟩, _, by rw [snapshot?, hentry]; rfl, rfl, rfl⟩

omit hopen hstate hstart hends

/-! ## The verdict -/

/-- What a router makes of the bytes received from `id` when they are a complete request with these
lines, by the switches that were set so far. -/
structure Verdict (switches : List (String × Bool)) (id : ConnectionId) (received : Bytes)
    (requestLine : Bytes) (headerLines : List Bytes) (before : Router)
    (action : Connection.Action) (after : Router) : Prop where
  of_lacksPath : LacksPath (recover requestLine) →
    action = .forward received ∧ after.protocol? id = some .native
  of_not_live : ∀ path, IsPathOf path (recover requestLine) → ¬ IsLive switches path →
    action = .close (some [0xFF, 0x00]) ∧ after.protocol? id = some .unclassified ∧
      after.scopes = before.scopes
  upgrade_iff : ∀ path, IsPathOf path (recover requestLine) → IsLive switches path →
    ((∃ response behind, action = .upgrade response behind) ↔ HasKey (headerLines.map recover))
  of_hasKey : ∀ path, IsPathOf path (recover requestLine) → IsLive switches path →
    HasKey (headerLines.map recover) →
      after.protocol? id = some .websocket ∧
      (∃ metadata, after.scopes.metadata? id = some metadata ∧
        metadata.path = String.ofList path) ∧
      ∀ segment, IsFirstSegment segment path →
        id ∈ after.scopes.connectionsIn (String.ofList segment)
  of_not_hasKey : ∀ path, IsPathOf path (recover requestLine) → IsLive switches path →
    ¬ HasKey (headerLines.map recover) →
      action = .forward received ∧ after.protocol? id = some .native

/-- **The gate decides before the headers do.**  In a run over a router that was set up with `apps`,
let a chunk complete the head of a request.  Without a path in the request line all bytes are handed
on as native.  If the last switch for the application of the path does not turn it on, the
connection is turned down, whatever the header lines are, and nothing is registered.  Otherwise it
is upgraded and registered if the last line that sets the client key gives it a value, and native
if not. -/
theorem receive_verdict (settings : Connection.Settings) (metrics : Metrics)
    (apps : List (String × Bool)) (inputs : List Input) (id : ConnectionId) (chunk : Bytes)
    {buffer : Bytes} :
    let history := run { settings, scopes := .ofApps apps, metrics } inputs
    (history.connection id).lifecycle ≠ .closed →
    (history.connection id).state = .unclassified buffer →
    requestStart <+: buffer ++ chunk → blankLine <:+: buffer ++ chunk →
    ∃ length requestLine headerLines, HeadEnds (buffer ++ chunk) length ∧
      HeadLines ((buffer ++ chunk).take length) requestLine headerLines ∧
      Verdict (apps ++ inputs.filterMap Input.switch?) id (buffer ++ chunk) requestLine headerLines
        history.router (history.router.receive id chunk).1
        (history.router.receive id chunk).2 := by
  intro history hopen hstate hstart hblank
  have hagrees : (history.router.receive id chunk).2.Agrees :=
    ((Agrees.new settings metrics apps).run inputs).receive id chunk
  have hgate (path : List Char) : history.router.scopes.isEnabled (String.ofList path) ↔
      IsLive (apps ++ inputs.filterMap Input.switch?) path :=
    Scope.Registry.isEnabled_iff_isLive fun app =>
      getElem?_apps_run settings metrics apps inputs app
  obtain ⟨length, hends⟩ := exists_headEnds hblank
  obtain ⟨requestLine, headerLines, hlines⟩ := hends.exists_headLines
  have hheadstart : requestStart <+: (buffer ++ chunk).take length :=
    List.prefix_take_iff.mpr ⟨hstart, hends.four_le⟩
  -- with a live path, it is all a matter of the key
  have hgrant (path : List Char) (hpath : IsPathOf path (recover requestLine))
      (hlive : IsLive (apps ++ inputs.filterMap Input.switch?) path) :
      negotiate history.router.scopes.isEnabled ((buffer ++ chunk).take length) =
        grant ((headerLines.map recover).foldl withLine { path := String.ofList path }) := by
    refine hlines.negotiate_of_live hheadstart hpath ?_ ((hgate path).mpr hlive)
    obtain ⟨segment, hsegment, _⟩ := hlive
    obtain ⟨_, _, _, _, rfl, _, _⟩ := hpath
    exact hsegment.one_lt_length
  have hnative (path : List Char) (hpath : IsPathOf path (recover requestLine))
      (hlive : IsLive (apps ++ inputs.filterMap Input.switch?) path)
      (hkey : ¬ HasKey (headerLines.map recover)) :=
    receive_of_flawed hopen hstate hstart hends
      ((hgrant path hpath hlive).trans (grant_of_not_hasKey (String.ofList path) hkey))
  refine ⟨length, requestLine, headerLines, hends, hlines, ?_, ?_, ?_, ?_, hnative⟩
  · intro hlacks
    obtain ⟨flaw, hverdict⟩ := hlines.negotiate_of_lacksPath hheadstart hlacks
    exact receive_of_flawed hopen hstate hstart hends hverdict
  · intro path hpath hdead
    exact receive_of_rejected hopen hstate hstart hends
      (hlines.negotiate_of_not_live hheadstart hpath (mt (hgate path).mp hdead))
  · intro path hpath hlive
    constructor
    · rintro ⟨response, behind, hupgrade⟩
      by_contra hkey
      have hforward := (hnative path hpath hlive hkey).1
      exact Connection.Action.noConfusion (hforward.symm.trans hupgrade)
    · intro hkey
      obtain ⟨request, hgranted, -⟩ := grant_of_hasKey (String.ofList path) hkey
      exact (receive_of_granted hopen hstate hstart hends
        ((hgrant path hpath hlive).trans hgranted)).1
  · intro path hpath hlive hkey
    obtain ⟨request, hgranted, hnamed⟩ := grant_of_hasKey (String.ofList path) hkey
    obtain ⟨-, snapshot, hsnapshot, hprotocol, hmetadata⟩ :=
      receive_of_granted hopen hstate hstart hends ((hgrant path hpath hlive).trans hgranted)
    rw [← hmetadata] at hnamed
    refine ⟨?_, ⟨snapshot.metadata, ?_, hnamed⟩, fun segment hsegment => ?_⟩
    · rw [protocol?_eq, hsnapshot, ← hprotocol]
      rfl
    · exact hagrees.metadata?_eq_some_iff.mpr ⟨snapshot, hsnapshot, hprotocol, rfl⟩
    · refine hagrees.mem_connectionsIn_iff.mpr ⟨snapshot, hsnapshot, hprotocol, ?_⟩
      rw [hnamed]
      exact Scope.applicationOf_eq_some_iff.mpr hsegment

/-- A request in two chunks, for an application that was switched off between them: its client key
does not help. -/
theorem receive_verdict_off :
    let first : Bytes := Text.Utf8.encodeString "GET /a"
    let second : Bytes := Text.Utf8.encodeString " H\r\nSec-WebSocket-Key: k\r\n\r\n"
    let inputs : List Input := [.receive 7 first, .setEnabled "a" false]
    let history := run { scopes := .ofApps [("a", true)] } inputs
    (history.connection 7).lifecycle ≠ .closed ∧
    (history.connection 7).state = .unclassified first ∧
    requestStart <+: first ++ second ∧ blankLine <:+: first ++ second ∧
    (∃ length requestLine headerLines, HeadEnds (first ++ second) length ∧
      HeadLines ((first ++ second).take length) requestLine headerLines ∧
      Verdict ([("a", true)] ++ inputs.filterMap Input.switch?) 7 (first ++ second) requestLine
        headerLines history.router (history.router.receive 7 second).1
        (history.router.receive 7 second).2) ∧
    (history.router.receive 7 second).1 = .close (some [0xFF, 0x00]) ∧
    (history.router.receive 7 second).2.protocol? 7 = some .unclassified ∧
    (history.router.receive 7 second).2.scopes = history.router.scopes := by
  intro first second inputs history
  have hopen : (history.connection 7).lifecycle ≠ .closed := by
    have hwaits : (history.connection 7).lifecycle = .handshaking := rfl
    rw [hwaits]
    exact Lifecycle.noConfusion
  have hstate : (history.connection 7).state = .unclassified first := rfl
  have hstart : requestStart <+: first ++ second := by decide +kernel
  have hblank : blankLine <:+: first ++ second := by decide +kernel
  obtain ⟨length, requestLine, headerLines, hends, hlines, hverdict⟩ :=
    receive_verdict {} {} [("a", true)] inputs 7 second hopen hstate hstart hblank
  refine ⟨hopen, hstate, hstart, hblank,
    ⟨length, requestLine, headerLines, hends, hlines, hverdict⟩,
    hverdict.of_not_live "/a".toList ?_ ?_⟩
  · -- the request line is the first line of the bytes
    have hfirst : (Text.lines (recover (first ++ second))).head? = some "GET /a H".toList := by
      decide +kernel
    have hread := hlines.lines_append ((first ++ second).drop length)
    rw [List.take_append_drop] at hread
    rw [hread] at hfirst
    rw [Option.some.inj hfirst]
    exact ⟨"GET ".toList, "a".toList, "H".toList, by decide, by decide, by decide, by decide⟩
  · rintro ⟨segment, hsegment, hlast⟩
    have happ : Scope.applicationOf "/a" = some "a" := by decide
    have hsame := (Scope.applicationOf_eq_some_iff.mpr hsegment).symm.trans happ
    rw [Option.some.inj hsame] at hlast
    exact absurd hlast (by decide)

end Router
end SharedListener
