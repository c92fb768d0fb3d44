import Mathlib.Logic.Relation
import SharedListener.Proofs.Handshake.Head
import SharedListener.Proofs.Handshake.HeaderLines
import SharedListener.Proofs.Text.Encoding

/-!
# What a request says in its header lines

The metadata of a request are determined by its path and its header lines
(`Extracted`): a known name has the value that the last of its lines gives it, and
no other name has one.

So lines may be changed in ways that no header takes notice of (`Reworded`).
Each of them leaves the metadata as they are, and so does any number of them, one
after the other, whatever the lines are in between.
-/

namespace SharedListener.Handshake

open Text (IsWhite SameLetters StandsIn)
open Text.Utf8 (encode recover)

variable {isEnabled : String → Bool} {requestLine path line : List Char}
  {headerLines lines others : List (List Char)} {metadata : Metadata}

/-! ## The metadata that lines give -/

/-- The metadata are those of a request for the path with these header lines. -/
structure Extracted (path : List Char) (lines : List (List Char)) (metadata : Metadata) :
    Prop where
  path_eq : metadata.path = String.ofList path
  mem_iff (name : String) : name ∈ metadata.headers ↔ ∃ line ∈ lines, ∃ value, Sets name line value
  value_iff (name : String) (value : List Char) :
    metadata.headers[name]? = some (String.ofList value) ↔ LastSets name lines value
  known (name : String) : name ∈ metadata.headers → name ∈ knownNames
  host_eq : metadata.host = metadata.headers["Host"]?.getD ""
  origin_eq : metadata.origin = metadata.headers["Origin"]?.getD ""

private theorem mem_headers_foldl_withLine (path : String) (lines : List (List Char))
    (name : String) :
    name ∈ (lines.foldl withLine { path }).headers ↔
      ∃ line ∈ lines, ∃ value, Sets name line value := by
  rw [← exists_lastSets_iff, ← Std.ExtTreeMap.isSome_getElem?_iff_mem, Option.isSome_iff_exists]
  constructor
  · rintro ⟨value, hvalue⟩
    rw [← String.ofList_toList (s := value), headers_foldl_withLine] at hvalue
    exact ⟨value.toList, hvalue⟩
  · rintro ⟨value, hlast⟩
    exact ⟨String.ofList value, (headers_foldl_withLine _ lines).mpr hlast⟩

theorem extracted_foldl (path : List Char) (lines : List (List Char)) :
    Extracted path lines (lines.foldl withLine { path := String.ofList path }) where
  path_eq := path_foldl_withLine _ lines
  mem_iff := mem_headers_foldl_withLine _ lines
  value_iff name value := headers_foldl_withLine (String.ofList path) lines
  known name h := by
    obtain ⟨line, -, value, hsets⟩ := (mem_headers_foldl_withLine _ lines name).mp h
    exact hsets.mem_knownNames
  host_eq := ((mirrored_of_path _).foldl_withLine lines).host_eq
  origin_eq := ((mirrored_of_path _).foldl_withLine lines).origin_eq

section Pair

variable {first second : String} {other value text : List Char}
  (h : Extracted path [line, other] metadata) (hfirst : Sets first line value)
  (hsecond : Sets second other text)
include h hfirst hsecond

/-- Two lines that set names are all that the metadata have headers of. -/
theorem Extracted.mem_iff_of_pair {name : String} :
    name ∈ metadata.headers ↔ name = first ∨ name = second := by
  rw [h.mem_iff]
  constructor
  · rintro ⟨set, hset, found, hsets⟩
    rcases List.mem_pair.mp hset with rfl | rfl
    · exact .inl (hsets.unique hfirst).1
    · exact .inr (hsets.unique hsecond).1
  · rintro (rfl | rfl)
    · exact ⟨line, by simp, value, hfirst⟩
    · exact ⟨other, by simp, text, hsecond⟩

/-- If the names are different, each of them has the value of its line. -/
theorem Extracted.values_of_pair (hne : first ≠ second) :
    metadata.headers[first]? = some (String.ofList value) ∧
      metadata.headers[second]? = some (String.ofList text) := by
  constructor
  · apply (h.value_iff first value).mpr
    refine ⟨[], line, [other], rfl, hfirst, List.forall_mem_singleton.mpr ?_⟩
    intro found hsets
    exact hne (hsets.unique hsecond).1
  · apply (h.value_iff second text).mpr
    exact ⟨[line], other, [], rfl, hsecond, List.forall_mem_nil _⟩

end Pair

/-! ## Changes that no header takes notice of -/

/-- The line has no colon, or no known name stands in front of its first one. -/
def Idle (line : List Char) : Prop :=
  ∀ label rest, line = label ++ ':' :: rest → ':' ∉ label →
    ∀ name ∈ knownNames, ¬ StandsIn name label

/-- No known name is set by both lines. -/
def SetsApart (first second : List Char) : Prop :=
  ∀ name value other, Sets name first value → ¬ Sets name second other

theorem setsApart_of_ne {first second : String} {other value text : List Char}
    (hfirst : Sets first line value) (hsecond : Sets second other text) (hne : first ≠ second) :
    SetsApart line other := by
  intro name found set hname hother
  exact hne ((hname.unique hfirst).1.symm.trans (hother.unique hsecond).1)

/-- One list of header lines is the other after one change: a line that sets nothing is put in, the
letters of a name are written in upper or lower case, white space is put around a value, or two
neighbours that set different names change places. -/
inductive Reworded : List (List Char) → List (List Char) → Prop
  | idle (before : List (List Char)) {line : List Char} (behind : List (List Char))
      (hidle : Idle line) :
      Reworded (before ++ behind) (before ++ line :: behind)
  | recased (before : List (List Char)) {label other : List Char} (value : List Char)
      (behind : List (List Char)) (hlabel : ':' ∉ label) (hsame : SameLetters label other) :
      Reworded (before ++ (label ++ ':' :: value) :: behind)
        (before ++ (other ++ ':' :: value) :: behind)
  | padded (before : List (List Char)) {label left right : List Char} (value : List Char)
      (behind : List (List Char)) (hlabel : ':' ∉ label) (hleft : ∀ c ∈ left, IsWhite c)
      (hright : ∀ c ∈ right, IsWhite c) :
      Reworded (before ++ (label ++ ':' :: value) :: behind)
        (before ++ (label ++ ':' :: (left ++ value ++ right)) :: behind)
  | swapped (before : List (List Char)) {first second : List Char} (behind : List (List Char))
      (hapart : SetsApart first second) :
      Reworded (before ++ first :: second :: behind) (before ++ second :: first :: behind)

theorem withLine_of_idle (h : Idle line) (metadata : Metadata) :
    withLine metadata line = metadata := by
  unfold withLine
  cases hline : Header.ofLine? line with
  | none => rfl
  | some set =>
      obtain ⟨header, value⟩ := set
      rw [← String.ofList_toList (s := value), Header.ofLine?_eq_some_iff] at hline
      have hname := hline.mem_knownNames
      obtain ⟨label, rest, hsplit, hlabel, hmatches, -⟩ := hline
      exact absurd hmatches.1 (h label rest hsplit hlabel header.name hname)

/-! ### Upper and lower case -/

/-- A colon is no letter. -/
theorem colon_eq_iff {first second : Char} (h : Text.SameLetter first second) :
    ':' = first ↔ ':' = second := by
  have hcolon : (':' : Char).toNat = 58 := rfl
  rcases h with rfl | hupper | hlower
  · rfl
  · rw [← Char.toNat_inj, ← Char.toNat_inj, hcolon]
    omega
  · rw [← Char.toNat_inj, ← Char.toNat_inj, hcolon]
    omega

theorem colon_mem_iff {label other : List Char} (h : SameLetters label other) :
    ':' ∈ label ↔ ':' ∈ other := by
  induction h with
  | nil => rfl
  | cons hletter _ ih => rw [List.mem_cons, List.mem_cons, ih, colon_eq_iff hletter]

theorem ofLine?_of_sameLetters {label other : List Char} (hlabel : ':' ∉ label)
    (hsame : SameLetters label other) (value : List Char) :
    Header.ofLine? (other ++ ':' :: value) = Header.ofLine? (label ++ ':' :: value) := by
  have hother : ':' ∉ other := by rwa [← colon_mem_iff hsame]
  have hlowered : Header.lowered label = Header.lowered other :=
    (Text.map_toLower_eq_iff label other).mpr hsame
  have hmatching : Header.matching? other = Header.matching? label := by
    rw [Header.matching?, Header.matching?, hlowered]
  rw [Header.ofLine?_append hother, Header.ofLine?_append hlabel, hmatching]

/-! ### Neighbours -/

theorem withHeader_comm {first second : Header} (h : first ≠ second) (value other : String) :
    withHeader (withHeader metadata first value) second other =
      withHeader (withHeader metadata second other) first value := by
  have hheaders : (metadata.headers.insert first.name value).insert second.name other =
      (metadata.headers.insert second.name other).insert first.name value := by
    apply Std.ExtTreeMap.ext_getElem?
    intro name
    simp only [Std.ExtTreeMap.getElem?_insert, Std.LawfulEqCmp.compare_eq_iff_eq]
    split_ifs with hsecond hfirst
    · exact absurd (Header.name_injective (hfirst.trans hsecond.symm)) h
    · rfl
    · rfl
    · rfl
  unfold withHeader
  rw [hheaders]
  cases first <;> cases second <;> first | rfl | exact absurd rfl h

theorem withLine_comm {first second : List Char} (h : SetsApart first second)
    (metadata : Metadata) :
    withLine (withLine metadata first) second = withLine (withLine metadata second) first := by
  unfold withLine
  cases hfirst : Header.ofLine? first with
  | none => rfl
  | some set =>
      cases hsecond : Header.ofLine? second with
      | none => rfl
      | some reset =>
          obtain ⟨header, value⟩ := set
          obtain ⟨other, text⟩ := reset
          apply withHeader_comm
          rintro rfl
          rw [← String.ofList_toList (s := value), Header.ofLine?_eq_some_iff] at hfirst
          rw [← String.ofList_toList (s := text), Header.ofLine?_eq_some_iff] at hsecond
          exact h header.name _ _ hfirst hsecond

/-! ### Any number of changes -/

theorem Reworded.foldl_withLine (h : Reworded lines others) (metadata : Metadata) :
    others.foldl withLine metadata = lines.foldl withLine metadata := by
  cases h with
  | idle before behind hidle =>
      simp only [List.foldl_append, List.foldl_cons, withLine_of_idle hidle]
  | recased before value behind hlabel hsame =>
      simp only [List.foldl_append, List.foldl_cons, withLine,
        ofLine?_of_sameLetters hlabel hsame value]
  | padded before value behind hlabel hleft hright =>
      simp only [List.foldl_append, List.foldl_cons, withLine, Header.ofLine?_append hlabel,
        Text.trim_pad hleft hright]
  | swapped before behind hapart =>
      simp only [List.foldl_append, List.foldl_cons, withLine_comm hapart]

theorem foldl_withLine_of_reworded (h : Relation.EqvGen Reworded lines others)
    (metadata : Metadata) : others.foldl withLine metadata = lines.foldl withLine metadata := by
  induction h with
  | rel lines others hreworded => exact hreworded.foldl_withLine metadata
  | refl lines => rfl
  | symm lines others _ ih => exact ih.symm
  | trans lines middle others _ _ ihfirst ihsecond => exact ihsecond.trans ihfirst

/-! ## Requests written line by line -/

/-- A header line can be any text but the empty one, as long as there is no line break in it. -/
def IsHeaderLine (line : List Char) : Prop :=
  line ≠ [] ∧ ¬ Text.lineBreak <:+: line

/-- The text of a request: its lines with a line break behind each, and the blank line. -/
def headText (requestLine : List Char) (headerLines : List (List Char)) : List Char :=
  (requestLine :: headerLines).flatMap (· ++ Text.lineBreak) ++ Text.lineBreak

theorem lines_headText (hrequest : ¬ Text.lineBreak <:+: requestLine)
    (hlines : ∀ line ∈ headerLines, IsHeaderLine line) :
    Text.lines (headText requestLine headerLines) = requestLine :: (headerLines ++ [[], []]) := by
  have hunbroken : ∀ line ∈ requestLine :: headerLines ++ [[]], ¬ Text.lineBreak <:+: line := by
    intro line hline
    rcases List.mem_append.mp hline with hmem | hmem
    · rcases List.mem_cons.mp hmem with rfl | hheader
      · exact hrequest
      · exact (hlines line hheader).2
    · exact List.mem_singleton.mp hmem ▸ Text.unbroken_nil
  have htext : headText requestLine headerLines =
      (requestLine :: headerLines ++ [[]]).flatMap (· ++ Text.lineBreak) ++ [] := by
    simp [headText]
  rw [htext, Text.lines_flatMap hunbroken Text.unbroken_nil]
  simp

/-- A request for a live path is granted or not by its header lines. -/
theorem negotiate_of_reads {received : Bytes} (hget : "GET ".toList <+: requestLine)
    (hrequest : ¬ Text.lineBreak <:+: requestLine) (hpath : IsPathOf path requestLine)
    (hlong : 1 < path.length) (hlive : isEnabled (String.ofList path))
    (hlines : ∀ line ∈ headerLines, IsHeaderLine line)
    (hread : recover received = headText requestLine headerLines) :
    negotiate isEnabled received =
      grant (headerLines.foldl withLine { path := String.ofList path }) := by
  have hpathOf : pathOf requestLine = .ok path := by
    rw [pathOf, if_pos (List.isPrefixOf_iff_prefix.mpr hget), requestPath_of_isPathOf hpath]
  have hpasses : ¬ (path.length ≤ 1 || !isEnabled (String.ofList path)) = true := by
    simp [hlive, Nat.not_le.mpr hlong]
  have hall : headerLines.takeWhile (!·.isEmpty) = headerLines :=
    List.takeWhile_eq_self_iff.mpr fun line hline => by simpa using (hlines line hline).1
  rw [negotiate, hread, lines_headText hrequest hlines]
  show negotiateLines isEnabled requestLine (headerLines ++ [[], []]) = _
  rw [negotiateLines, hpathOf]
  show (if _ then _ else grant (metadataOf path _)) = _
  rw [if_neg hpasses, metadataOf_append, metadataOf, hall]

theorem grant_cases (metadata : Metadata) :
    (∃ key, metadata.headers[Header.key.name]? = some key ∧ key ≠ "" ∧
      grant metadata = .ok ⟨metadata, key⟩) ∨
    (∀ key, metadata.headers[Header.key.name]? = some key → key = "") ∧
      grant metadata = .error (.flawed .noKey) := by
  unfold grant
  cases hkey : metadata.headers[Header.key.name]? with
  | none => exact .inr ⟨nofun, rfl⟩
  | some key =>
      by_cases hempty : key = ""
      · subst hempty
        exact .inr ⟨fun _ hsame => (Option.some.inj hsame).symm, rfl⟩
      · refine .inl ⟨key, rfl, hempty, ?_⟩
        have hnot : ¬ key.isEmpty := by rwa [String.isEmpty_iff]
        exact if_neg hnot

/-- **The headers of a request are what its lines say.**  Let a request line ask for a live path,
and let header lines of any text follow, each non-empty and without a line break.  Then the request
has the known names that the lines set and no others, each with the value of the last line that sets
it; host and origin repeat their headers; and it is granted, with the client key, exactly if there
is one and it is not empty.  Changes to the lines that no header takes notice of do not change the
result, as long as the lines are still of that form.  Any octets will do that are read as the text,
those of its UTF-8 form among them. -/
theorem negotiate_extracts (isEnabled : String → Bool) {received : Bytes}
    (hget : "GET ".toList <+: requestLine)
    (hrequest : ¬ Text.lineBreak <:+: requestLine) (hpath : IsPathOf path requestLine)
    (hlong : 1 < path.length) (hlive : isEnabled (String.ofList path))
    (hlines : ∀ line ∈ headerLines, IsHeaderLine line)
    (hread : recover received = headText requestLine headerLines) :
    recover (encode (headText requestLine headerLines)) = headText requestLine headerLines ∧
    (∃ metadata, Extracted path headerLines metadata ∧
      ((∃ key, metadata.headers["Sec-WebSocket-Key"]? = some key ∧ key ≠ "" ∧
          negotiate isEnabled received = .ok ⟨metadata, key⟩) ∨
        (∀ key, metadata.headers["Sec-WebSocket-Key"]? = some key → key = "") ∧
          negotiate isEnabled received = .error (.flawed .noKey))) ∧
    ∀ (others : List (List Char)) (changed : Bytes),
      Relation.EqvGen Reworded headerLines others → (∀ line ∈ others, IsHeaderLine line) →
      recover changed = headText requestLine others →
      negotiate isEnabled changed = negotiate isEnabled received := by
  have hgrant := negotiate_of_reads hget hrequest hpath hlong hlive hlines hread
  refine ⟨Text.Utf8.recover_encode _, ?_, ?_⟩
  · rw [hgrant]
    exact ⟨_, extracted_foldl path headerLines, grant_cases _⟩
  · intro others changed hreworded hothers hchanged
    rw [hgrant, negotiate_of_reads hget hrequest hpath hlong hlive hothers hchanged,
      foldl_withLine_of_reworded hreworded]

/-- A header behind a longer name and a value with a colon in it, before and after the key: the
request is granted with that key and that host, in either order of its lines. -/
theorem negotiate_extracts_forwarded :
    let requestLine := "GET /a H".toList
    let host := "X-Forwarded-HOST:h:1".toList
    let key := "sec-websocket-KEY: k".toList
    let received := encode (headText requestLine [host, key])
    let changed := encode (headText requestLine [key, host])
    "GET ".toList <+: requestLine ∧ ¬ Text.lineBreak <:+: requestLine ∧
    IsPathOf "/a".toList requestLine ∧ 1 < "/a".toList.length ∧
    (∀ line ∈ [host, key], IsHeaderLine line) ∧ (∀ line ∈ [key, host], IsHeaderLine line) ∧
    Relation.EqvGen Reworded [host, key] [key, host] ∧
    recover received = headText requestLine [host, key] ∧
    recover changed = headText requestLine [key, host] ∧
    ∃ metadata, metadata.path = "/a" ∧ metadata.host = "h:1" ∧ metadata.origin = "" ∧
      (∀ name, name ∈ metadata.headers ↔ name = "Host" ∨ name = "Sec-WebSocket-Key") ∧
      metadata.headers["Host"]? = some "h:1" ∧
      metadata.headers["Sec-WebSocket-Key"]? = some "k" ∧
      negotiate (fun _ => true) received = .ok ⟨metadata, "k"⟩ ∧
      negotiate (fun _ => true) changed = .ok ⟨metadata, "k"⟩ := by
  intro requestLine host key received changed
  have hget : "GET ".toList <+: requestLine := by decide +kernel
  have hrequest : ¬ Text.lineBreak <:+: requestLine := by decide +kernel
  have hpath : IsPathOf "/a".toList requestLine :=
    ⟨"GET ".toList, "a".toList, "H".toList, by decide, by decide, by decide, by decide⟩
  have hhost : IsHeaderLine host := ⟨by decide +kernel, by decide +kernel⟩
  have hkey : IsHeaderLine key := ⟨by decide +kernel, by decide +kernel⟩
  have hlines : ∀ line ∈ [host, key], IsHeaderLine line := by simp [hhost, hkey]
  have hothers : ∀ line ∈ [key, host], IsHeaderLine line := by simp [hhost, hkey]
  have hsetsHost : Sets "Host" host "h:1".toList :=
    sets_iff.mpr ⟨.host, rfl, by decide +kernel⟩
  have hsetsKey : Sets "Sec-WebSocket-Key" key "k".toList :=
    sets_iff.mpr ⟨.key, rfl, by decide +kernel⟩
  have hdistinct : "Host" ≠ "Sec-WebSocket-Key" := by decide
  have hreworded : Relation.EqvGen Reworded [host, key] [key, host] :=
    .rel _ _ (.swapped [] [] (setsApart_of_ne hsetsHost hsetsKey hdistinct))
  have hread := Text.Utf8.recover_encode (headText requestLine [host, key])
  have hchanged := Text.Utf8.recover_encode (headText requestLine [key, host])
  obtain ⟨-, ⟨metadata, hextracted, hverdict⟩, hsame⟩ :=
    negotiate_extracts (fun _ => true) hget hrequest hpath (by decide) rfl hlines hread
  obtain ⟨hvalueHost, hvalueKey⟩ := hextracted.values_of_pair hsetsHost hsetsKey hdistinct
  have hnames : ∀ name, name ∈ metadata.headers ↔ name = "Host" ∨ name = "Sec-WebSocket-Key" := by
    intro name
    exact hextracted.mem_iff_of_pair hsetsHost hsetsKey
  have horigin : metadata.headers["Origin"]? = none := by
    apply Std.ExtTreeMap.getElem?_eq_none
    rw [hnames]
    decide
  have hgranted : negotiate (fun _ => true) received = .ok ⟨metadata, "k"⟩ := by
    rcases hverdict with ⟨found, hfound, -, hgranted⟩ | ⟨hnone, -⟩
    · rw [hvalueKey] at hfound
      obtain rfl := Option.some.inj hfound
      exact hgranted
    · exact absurd (hnone "k" hvalueKey) (by decide)
  refine ⟨hget, hrequest, hpath, by decide, hlines, hothers, hreworded, hread, hchanged, metadata,
    hextracted.path_eq, ?_, ?_, hnames, hvalueHost, hvalueKey, hgranted, ?_⟩
  · rw [hextracted.host_eq, hvalueHost]
    rfl
  · rw [hextracted.origin_eq, horigin]
    rfl
  · rw [hsame _ _ hreworded hothers hchanged, hgranted]

end SharedListener.Handshake
