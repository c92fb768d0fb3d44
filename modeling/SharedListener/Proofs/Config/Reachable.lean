import SharedListener.Proofs.Config.Validation
import SharedListener.Proofs.Handshake.Extraction
import SharedListener.Proofs.Scope.Index
import SharedListener.Proofs.Scope.Switches

/-!
# Which applications can be reached

A configuration is accepted if each of its applications has a name that is not empty
and has no slash in it.  A request names an application in its request line, which ends at the
first line break, by a path that ends at the first space.  So an application with a
space or a line break in its name is never named by a request, whatever its switch says
(`fits_path_of_negotiate`).

All others can be reached, and by the plainest request there is
(`Config.reaches_iff_fitsRequestLine`).
-/

namespace SharedListener

open Handshake
open Text.Utf8 (encode)

namespace Handshake

variable {isEnabled : String → Bool} {line path : List Char}

/-! ## What a request line can name -/

/-- The text can stand in a request line as part of the path. -/
def FitsRequestLine (text : List Char) : Prop :=
  ' ' ∉ text ∧ ¬ Text.lineBreak <:+: text

theorem FitsRequestLine.of_isInfix {text part : List Char} (h : FitsRequestLine text)
    (hpart : part <:+: text) : FitsRequestLine part :=
  ⟨fun hspace => h.1 (hpart.subset hspace), fun hbreak => h.2 (hbreak.trans hpart)⟩

theorem isPathOf_of_pathOf (h : pathOf line = .ok path) : IsPathOf path line := by
  unfold pathOf at h
  split at h
  · rcases lacksPath_or_exists line with hlacks | ⟨found, hfound⟩
    · obtain ⟨flaw, hflaw⟩ := requestPath_of_lacksPath hlacks
      cases hflaw.symm.trans h
    · cases (requestPath_of_isPathOf hfound).symm.trans h
      exact hfound
  · cases h

theorem IsPathOf.fitsRequestLine (h : IsPathOf path line) (hline : ¬ Text.lineBreak <:+: line) :
    FitsRequestLine path := by
  obtain ⟨before, segments, behind, rfl, rfl, -, hspace⟩ := h
  exact ⟨hspace, fun hbreak => hline (hbreak.trans ⟨before, ' ' :: behind, by simp⟩)⟩

/-- The path of a granted request has neither a space nor a line break in it. -/
theorem fits_path_of_negotiate {received : Bytes} {request : Request}
    (h : negotiate isEnabled received = .ok request) :
    FitsRequestLine request.metadata.path.toList := by
  obtain ⟨requestLine, headerLines, path, hlines, hpath, -, hgrant⟩ := exists_lines_of_negotiate h
  have hline : ¬ Text.lineBreak <:+: requestLine :=
    Text.unbroken_of_mem_lines (hlines ▸ List.mem_cons_self)
  rw [(grant_eq_ok hgrant).1, path_metadataOf, String.toList_ofList]
  exact (isPathOf_of_pathOf hpath).fitsRequestLine hline

/-! ## The plainest request -/

/-- The request line that asks for an application. -/
def plainRequestLine (app : List Char) : List Char :=
  'G' :: 'E' :: 'T' :: ' ' :: '/' :: (app ++ " HTTP/1.1".toList)

/-- The header line that gives a client key. -/
def plainKeyLine (key : List Char) : List Char :=
  "Sec-WebSocket-Key".toList ++ ':' :: ' ' :: key

/-- The request for an application that gives a client key and says nothing else. -/
def plainRequest (app key : List Char) : Bytes :=
  encode (headText (plainRequestLine app) [plainKeyLine key])

example : plainRequest "live".toList "k".toList =
    Text.Utf8.encodeString "GET /live HTTP/1.1\r\nSec-WebSocket-Key: k\r\n\r\n" := by
  decide +kernel

theorem isPathOf_plainRequestLine {app : List Char} (h : ' ' ∉ app) :
    IsPathOf ('/' :: app) (plainRequestLine app) :=
  ⟨['G', 'E', 'T', ' '], app, "HTTP/1.1".toList, rfl, rfl, by decide, by simpa using h⟩

theorem unbroken_plainRequestLine {app : List Char} (h : ¬ Text.lineBreak <:+: app) :
    ¬ Text.lineBreak <:+: plainRequestLine app := by
  have hbegin : '\r' ∉ ['G', 'E', 'T', ' ', '/'] := by decide
  exact Text.unbroken_append_of_no_return hbegin
    (Text.unbroken_append_of_no_feed h (by decide +kernel))

theorem isHeaderLine_plainKeyLine {key : List Char} (h : ¬ Text.lineBreak <:+: key) :
    IsHeaderLine (plainKeyLine key) := by
  have hblank : '\r' ∉ [':', ' '] := by decide
  refine ⟨List.append_ne_nil_of_right_ne_nil _ (List.cons_ne_nil _ _), ?_⟩
  exact Text.unbroken_append_of_no_return (by decide +kernel)
    (Text.unbroken_append_of_no_return hblank h)

theorem sets_plainKeyLine (key : List Char) :
    Sets "Sec-WebSocket-Key" (plainKeyLine key) (Text.trim key) := by
  have hname : Header.matching? "Sec-WebSocket-Key".toList = some .key := by decide +kernel
  refine ⟨"Sec-WebSocket-Key".toList, ' ' :: key, rfl, by decide +kernel,
    Header.matching?_eq_some_iff.mp hname, ?_⟩
  have hpad := Text.trim_pad (List.forall_mem_singleton.mpr (by decide : Text.IsWhite ' '))
    (List.forall_mem_nil _) key
  rw [List.append_nil, List.singleton_append] at hpad
  exact Text.isTrimmed_iff.mpr hpad.symm

theorem hasKey_plainKeyLine {key : List Char} (h : Text.trim key ≠ []) :
    HasKey [plainKeyLine key] :=
  ⟨Text.trim key, h, [], plainKeyLine key, [], rfl, sets_plainKeyLine key, List.forall_mem_nil _⟩

/-- The plain request for an application that is live is granted, if the name fits. -/
theorem negotiate_plainRequest {app key : List Char} (hfits : FitsRequestLine app)
    (hne : app ≠ []) (hlive : isEnabled (String.ofList ('/' :: app)))
    (hkey : ¬ Text.lineBreak <:+: key) (htrim : Text.trim key ≠ []) :
    ∃ request, negotiate isEnabled (plainRequest app key) = .ok request ∧
      request.metadata.path = String.ofList ('/' :: app) := by
  have hget : "GET ".toList <+: plainRequestLine app := by
    have hliteral : "GET ".toList = ['G', 'E', 'T', ' '] := by decide +kernel
    rw [hliteral]
    exact ⟨'/' :: (app ++ " HTTP/1.1".toList), rfl⟩
  have hlong : 1 < ('/' :: app).length := Nat.succ_lt_succ (List.length_pos_iff.mpr hne)
  have hverdict : negotiate isEnabled (plainRequest app key) = _ :=
    negotiate_of_reads hget (unbroken_plainRequestLine hfits.2)
      (isPathOf_plainRequestLine hfits.1) hlong hlive
      (List.forall_mem_singleton.mpr (isHeaderLine_plainKeyLine hkey))
      (Text.Utf8.recover_encode _)
  rw [hverdict]
  exact grant_of_hasKey _ (hasKey_plainKeyLine htrim)

end Handshake

/-! ## Applications of a configuration -/

open Scope (IsFirstSegment applicationOf applicationOf_eq_some_iff lastSwitch? Registry)

variable {config : Config} {app : String} {key : List Char}

theorem Config.isSegment_iff : isSegment app ↔ app.toList ≠ [] ∧ '/' ∉ app.toList := by
  simp [isSegment]

/-- What a configuration switches is one of its applications. -/
theorem Config.isSegment_of_lastSwitch {enabled : Bool} (hvalid : config.validate = .ok ())
    (h : lastSwitch? config.switches app = some enabled) : isSegment app := by
  obtain ⟨-, -, hsegments, -⟩ := validate_eq_ok_iff.mp hvalid
  obtain ⟨switch, hlast, -⟩ := Option.map_eq_some_iff.mp h
  obtain ⟨hmem, happ⟩ := List.mem_filter.mp (List.mem_of_getLast? hlast)
  obtain ⟨scope, hscope, rfl⟩ := List.mem_map.mp hmem
  obtain rfl : scope.app = app := of_decide_eq_true happ
  exact hsegments scope hscope

namespace Scope

theorem isFirstSegment_cons {segment : List Char} (hne : segment ≠ []) (hslash : '/' ∉ segment) :
    IsFirstSegment segment ('/' :: segment) :=
  ⟨['/'], [], by simp, by simp, hne, hslash, .inl rfl⟩

theorem isInfix_of_applicationOf {path : String} (h : applicationOf path = some app) :
    app.toList <:+: path.toList := by
  rw [← String.ofList_toList (s := path), ← String.ofList_toList (s := app),
    applicationOf_eq_some_iff] at h
  obtain ⟨slashes, rest, hpath, -⟩ := h
  exact ⟨slashes, rest, hpath.symm⟩

/-- What was received is a request for the path of the application, it is granted, and a connection
that makes it is counted under the application. -/
def Registry.Reaches (registry : Registry) (received : Bytes) (app : String) : Prop :=
  ∃ request, negotiate registry.isEnabled received = .ok request ∧
    request.metadata.path = "/" ++ app ∧ applicationOf request.metadata.path = some app ∧
    ∀ id, id ∈ (registry.register id request.metadata).connectionsIn app

end Scope

/-- No request at all belongs to an application whose name does not fit. -/
theorem fits_of_applicationOf {isEnabled : String → Bool} {received : Bytes} {request : Request}
    (h : negotiate isEnabled received = .ok request)
    (happ : applicationOf request.metadata.path = some app) : FitsRequestLine app.toList :=
  (fits_path_of_negotiate h).of_isInfix (Scope.isInfix_of_applicationOf happ)

/-- **Which applications can be reached.**  An application that an accepted configuration turns on,
its last switch being the one that counts, can be reached with any client key by the plain request
for it, exactly if its name has neither a space nor a line break in it.  If it has one, no request
of any form that is granted belongs to the application. -/
theorem Config.reaches_iff_fitsRequestLine (hvalid : config.validate = .ok ())
    (hswitch : lastSwitch? config.switches app = some true)
    (hkey : ¬ Text.lineBreak <:+: key) (htrim : Text.trim key ≠ []) :
    let registry := Registry.ofApps config.switches
    (registry.Reaches (plainRequest app.toList key) app ↔ FitsRequestLine app.toList) ∧
    (¬ FitsRequestLine app.toList → ∀ received request,
      negotiate registry.isEnabled received = .ok request →
        applicationOf request.metadata.path ≠ some app) := by
  intro registry
  obtain ⟨hne, hslash⟩ := Config.isSegment_iff.mp (Config.isSegment_of_lastSwitch hvalid hswitch)
  have hsegment := Scope.isFirstSegment_cons hne hslash
  have hlive : registry.isEnabled (String.ofList ('/' :: app.toList)) :=
    (Registry.isEnabled_iff_isLive (Registry.apps_ofApps config.switches)).mpr
      ⟨app.toList, hsegment, by rwa [String.ofList_toList]⟩
  refine ⟨⟨?_, fun hfits => ?_⟩, fun hunfit received request hgranted happ =>
    hunfit (fits_of_applicationOf hgranted happ)⟩
  · rintro ⟨request, hgranted, -, happ, -⟩
    exact fits_of_applicationOf hgranted happ
  · obtain ⟨request, hgranted, hpath⟩ := negotiate_plainRequest hfits hne hlive hkey htrim
    have happ : applicationOf request.metadata.path = some app := by
      rw [hpath, ← String.ofList_toList (s := app), applicationOf_eq_some_iff,
        String.toList_ofList]
      exact hsegment
    refine ⟨request, hgranted, ?_, happ, fun id => ?_⟩
    · rw [hpath, ← String.toList_inj]
      simp
    · rw [Registry.mem_connectionsIn, Registry.mem_members_register]
      exact .inl ⟨rfl, happ⟩

/-- An application that is turned off and, further down, on again, and a key between blanks. -/
theorem Config.reaches_iff_fitsRequestLine_twice :
    let config : Config := { version := 1, scopes := [⟨"live", false⟩, ⟨"live", true⟩] }
    let registry := Registry.ofApps config.switches
    config.validate = .ok () ∧ lastSwitch? config.switches "live" = some true ∧
    ¬ Text.lineBreak <:+: "\r k\r".toList ∧ Text.trim "\r k\r".toList ≠ [] ∧
    (registry.Reaches (plainRequest "live".toList "\r k\r".toList) "live" ↔
      FitsRequestLine "live".toList) ∧
    (¬ FitsRequestLine "live".toList → ∀ received request,
      negotiate registry.isEnabled received = .ok request →
        applicationOf request.metadata.path ≠ some "live") := by
  intro config registry
  have hvalid : config.validate = .ok () := by decide +kernel
  have hswitch : lastSwitch? config.switches "live" = some true := by decide +kernel
  have hkey : ¬ Text.lineBreak <:+: "\r k\r".toList := by decide +kernel
  have htrim : Text.trim "\r k\r".toList ≠ [] := by decide +kernel
  exact ⟨hvalid, hswitch, hkey, htrim,
    Config.reaches_iff_fitsRequestLine hvalid hswitch hkey htrim⟩

/-- Two applications of an accepted configuration, both turned on: of the one the path is cut off at
the space, of the other the request line at the line break. -/
theorem Config.not_reaches_cut :
    let config : Config := { version := 1, scopes := [⟨"a b", true⟩, ⟨"c\r\nd", true⟩] }
    let registry := Registry.ofApps config.switches
    config.validate = .ok () ∧ lastSwitch? config.switches "a b" = some true ∧
    lastSwitch? config.switches "c\r\nd" = some true ∧
    ¬ Text.lineBreak <:+: "k".toList ∧ Text.trim "k".toList ≠ [] ∧
    negotiate registry.isEnabled (plainRequest "a b".toList "k".toList) =
      .error (.rejected "/a") ∧
    negotiate registry.isEnabled (plainRequest "c\r\nd".toList "k".toList) =
      .error (.flawed .noProtocol) ∧
    ¬ registry.Reaches (plainRequest "a b".toList "k".toList) "a b" ∧
    ¬ registry.Reaches (plainRequest "c\r\nd".toList "k".toList) "c\r\nd" := by
  intro config registry
  have hspace : negotiate registry.isEnabled (plainRequest "a b".toList "k".toList) =
      .error (.rejected "/a") := by
    rfl
  have hbreak : negotiate registry.isEnabled (plainRequest "c\r\nd".toList "k".toList) =
      .error (.flawed .noProtocol) := by
    rfl
  refine ⟨by decide +kernel, by decide +kernel, by decide +kernel, by decide +kernel,
    by decide +kernel, hspace, hbreak, ?_, ?_⟩
  · rintro ⟨request, hgranted, -⟩
    cases hspace.symm.trans hgranted
  · rintro ⟨request, hgranted, -⟩
    cases hbreak.symm.trans hgranted

end SharedListener
