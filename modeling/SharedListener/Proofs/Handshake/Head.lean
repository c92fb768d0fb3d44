import Mathlib.Data.List.TakeWhile
import SharedListener.Proofs.Handshake.Grant
import SharedListener.Proofs.Handshake.Prologue
import SharedListener.Proofs.Text.Lines

/-!
# The head of a request, line by line

The bytes up to the first blank line are a request line and header lines, none
of them with a line break inside and no header line empty (`HeadLines`).  Read
as a text they fall into the same lines, whatever else is in them
(`HeadLines.lines_append`).

So the verdict on a head is a matter of its lines: the request line names a
path or it does not, the path is live or it is not, and only then the header
lines count.
-/

namespace SharedListener.Handshake

open Text.Utf8 (recover lineBreak)

variable {isEnabled : String → Bool} {head requestLine : Bytes} {headerLines : List Bytes}

/-! ## The lines of a head -/

/-- A head as its lines, with a line break behind each and one more behind the last. -/
structure HeadLines (head requestLine : Bytes) (headerLines : List Bytes) : Prop where
  head_eq : head = (requestLine :: headerLines).flatMap (· ++ lineBreak) ++ lineBreak
  unbroken : ∀ line ∈ requestLine :: headerLines, ¬ lineBreak <:+: line
  nonempty : ∀ line ∈ headerLines, line ≠ []

/-- The lines in front of a first blank line. -/
private theorem exists_lines {before : Bytes} (behind : Bytes)
    (h : Text.FirstAt blankLine (before ++ blankLine ++ behind) before.length) :
    ∃ first others, before ++ lineBreak = (first :: others).flatMap (· ++ lineBreak) ∧
      (∀ line ∈ first :: others, ¬ lineBreak <:+: line) ∧ ∀ line ∈ others, line ≠ [] := by
  have hlength : lineBreak.length = 2 := rfl
  induction hsize : before.length using Nat.strong_induction_on generalizing before with
  | _ size ih =>
  by_cases hbreak : lineBreak <:+: before
  · obtain ⟨place, hplace⟩ := Text.exists_firstAt hbreak
    obtain ⟨first, rest, rfl, rfl⟩ := hplace.occurs
    -- the blank line is the first one behind the first line break too
    have hrest : Text.FirstAt blankLine (rest ++ blankLine ++ behind) rest.length := by
      refine ⟨⟨rest, behind, rfl, rfl⟩, fun earlier later hsplit => ?_⟩
      have hle := h.first (first ++ lineBreak ++ earlier) later (by simp [hsplit])
      simp only [List.length_append] at hle
      omega
    have hshorter : rest.length < size := by
      simp only [List.length_append] at hsize
      omega
    obtain ⟨second, others, hlines, hunbroken, hnonempty⟩ := ih _ hshorter hrest rfl
    refine ⟨first, second :: others, ?_, ?_, ?_⟩
    · rw [List.append_assoc (first ++ lineBreak), hlines]
      simp
    · exact List.forall_mem_cons.mpr
        ⟨hplace.not_infix_before (List.cons_ne_nil _ _), hunbroken⟩
    · refine List.forall_mem_cons.mpr ⟨?_, hnonempty⟩
      rintro rfl
      -- two line breaks in a row would be a blank line that stands earlier
      have hblank : first ++ lineBreak ++ rest ++ lineBreak =
          first ++ blankLine ++ others.flatMap (· ++ lineBreak) := by
        rw [List.append_assoc (first ++ lineBreak), hlines]
        simp [blankLine, lineBreak]
      have hsplit : first ++ lineBreak ++ rest ++ blankLine ++ behind =
          first ++ blankLine ++ (others.flatMap (· ++ lineBreak) ++ lineBreak ++ behind) := by
        calc first ++ lineBreak ++ rest ++ blankLine ++ behind
            = first ++ lineBreak ++ rest ++ lineBreak ++ (lineBreak ++ behind) := by
              simp [blankLine, lineBreak]
          _ = _ := by
              rw [hblank]
              simp
      have hle := h.first _ _ hsplit
      simp only [List.length_append] at hle
      omega
  · exact ⟨before, [], by simp, by simpa using hbreak, List.forall_mem_nil _⟩

theorem HeadEnds.exists_headLines {received : Bytes} {length : Nat}
    (h : HeadEnds received length) :
    ∃ requestLine headerLines, HeadLines (received.take length) requestLine headerLines := by
  obtain ⟨place, hplace, rfl⟩ := h
  obtain ⟨before, behind, rfl, rfl⟩ := hplace.occurs
  obtain ⟨first, others, hlines, hunbroken, hnonempty⟩ := exists_lines behind hplace
  refine ⟨first, others, ?_, hunbroken, hnonempty⟩
  have htake : (before ++ blankLine ++ behind).take (before.length + blankLine.length) =
      before ++ blankLine := by
    rw [← List.length_append, List.take_left]
  rw [htake, ← hlines]
  simp [blankLine, lineBreak]

/-- The header lines end at the first empty one. -/
theorem metadataOf_append (path : List Char) (lines rest : List (List Char)) :
    metadataOf path (lines ++ [] :: rest) = metadataOf path lines := by
  have htake : (lines ++ [] :: rest).takeWhile (!·.isEmpty) = lines.takeWhile (!·.isEmpty) := by
    induction lines with
    | nil => rfl
    | cons line lines ih => cases line <;> simp [ih]
  rw [metadataOf, metadataOf, htake]

namespace HeadLines

theorem recover_unbroken (h : HeadLines head requestLine headerLines) :
    ∀ line ∈ (requestLine :: headerLines ++ [[]]).map recover, ¬ Text.lineBreak <:+: line := by
  intro line hline
  obtain ⟨octets, hoctets, rfl⟩ := List.mem_map.mp hline
  intro hbreak
  have hfound := Text.Utf8.lineBreak_isInfix_of_recover hbreak
  rcases List.mem_append.mp hoctets with hmem | hmem
  · exact h.unbroken octets hmem hfound
  · rw [List.mem_singleton.mp hmem] at hfound
    exact absurd hfound.length_le (by decide)

/-- The text of a head has the lines of the head, and an empty one for the blank line.  Whatever
comes behind the head is read as further lines. -/
theorem lines_append (h : HeadLines head requestLine headerLines) (behind : Bytes) :
    Text.lines (recover (head ++ behind)) =
      recover requestLine :: (headerLines.map recover ++ [] :: Text.lines (recover behind)) := by
  have hhead : head ++ behind =
      (requestLine :: headerLines ++ [[]]).flatMap (· ++ lineBreak) ++ behind := by
    rw [h.head_eq]
    simp
  rw [hhead, Text.Utf8.recover_flatMap_lineBreak, Text.lines_flatMap_append h.recover_unbroken]
  simp

theorem recover_ne_nil (h : HeadLines head requestLine headerLines) :
    ∀ line ∈ headerLines.map recover, line ≠ [] := by
  intro line hline
  obtain ⟨octets, hoctets, rfl⟩ := List.mem_map.mp hline
  exact fun hnil => h.nonempty octets hoctets (Text.Utf8.recover_eq_nil_iff.mp hnil)

/-- All header lines count. -/
theorem metadataOf_eq (h : HeadLines head requestLine headerLines) (path : List Char) :
    metadataOf path (headerLines.map recover) =
      (headerLines.map recover).foldl withLine { path := String.ofList path } := by
  have htake : (headerLines.map recover).takeWhile (!·.isEmpty) = headerLines.map recover :=
    List.takeWhile_eq_self_iff.mpr (by simpa using h.recover_ne_nil)
  rw [metadataOf, htake]

theorem blankLine_isInfix (h : HeadLines head requestLine headerLines) : blankLine <:+: head := by
  rcases List.eq_nil_or_concat (requestLine :: headerLines) with hnil | ⟨earlier, last, hlast⟩
  · exact absurd hnil (List.cons_ne_nil _ _)
  · refine ⟨earlier.flatMap (· ++ lineBreak) ++ last, [], ?_⟩
    rw [h.head_eq, hlast]
    simp [blankLine, lineBreak]

/-- The first blank line of a head is the one at its end. -/
theorem headEnds (h : HeadLines head requestLine headerLines) : HeadEnds head head.length := by
  obtain ⟨length, hends⟩ := exists_headEnds h.blankLine_isInfix
  obtain ⟨requestLine', headerLines', h'⟩ := hends.exists_headLines
  -- the lines up to there are all lines, since none of the others is empty
  have hlines := h'.lines_append (head.drop length)
  rw [List.take_append_drop, ← List.append_nil head, h.lines_append, List.append_nil] at hlines
  have hbehind := congrArg (List.dropWhile (· != [])) (List.cons.inj hlines).2
  rw [Text.dropWhile_ne_append fun hnil => h.recover_ne_nil [] hnil rfl,
    Text.dropWhile_ne_append fun hnil => h'.recover_ne_nil [] hnil rfl] at hbehind
  have hnothing : head.drop length = [] :=
    Text.Utf8.recover_eq_nil_iff.mp
      (Text.eq_of_lines_eq_singleton (List.cons.inj hbehind).2.symm)
  rwa [Nat.le_antisymm (List.drop_eq_nil_iff.mp hnothing) hends.length_le]

/-- A head that begins with `GET ` has a request line that does. -/
theorem requestStart_prefix (h : HeadLines head requestLine headerLines)
    (hstart : requestStart <+: head) : requestStart <+: requestLine := by
  have hbreak : requestLine ++ [0x0D] <+: head := by
    refine ⟨0x0A :: headerLines.flatMap (· ++ lineBreak) ++ lineBreak, ?_⟩
    rw [h.head_eq]
    simp [lineBreak]
  rcases List.prefix_or_prefix_of_prefix hstart hbreak with hwithin | hbeyond
  · rcases List.prefix_concat_iff.mp hwithin with heq | hprefix
    · exact absurd (heq ▸ List.mem_append_right _ (List.mem_singleton.mpr rfl) :
        (0x0D : UInt8) ∈ requestStart) (by decide)
    · exact hprefix
  · have hmem : (0x0D : UInt8) ∈ requestStart := hbeyond.mem (by simp)
    exact absurd hmem (by decide)

end HeadLines

/-! ## The path of a request line -/

/-- The path stands in the line from the first slash up to the next space. -/
def IsPathOf (path line : List Char) : Prop :=
  ∃ before segments behind, line = before ++ path ++ ' ' :: behind ∧ path = '/' :: segments ∧
    '/' ∉ before ∧ ' ' ∉ path

/-- The line has no slash, or no space behind its first slash. -/
def LacksPath (line : List Char) : Prop :=
  ∀ before behind, line = before ++ '/' :: behind → '/' ∉ before → ' ' ∉ behind

variable {line path : List Char}

theorem lacksPath_or_exists (line : List Char) : LacksPath line ∨ ∃ path, IsPathOf path line := by
  by_cases hlacks : LacksPath line
  · exact .inl hlacks
  · unfold LacksPath at hlacks
    push Not at hlacks
    obtain ⟨before, behind, rfl, hbefore, hspace⟩ := hlacks
    obtain ⟨segments, rest, rfl, hsegments⟩ := List.eq_append_cons_of_mem hspace
    refine .inr ⟨'/' :: segments, before, segments, rest, by simp, rfl, hbefore, ?_⟩
    simpa using hsegments

theorem requestPath_of_isPathOf (h : IsPathOf path line) : requestPath line = .ok path := by
  obtain ⟨before, segments, behind, rfl, rfl, hbefore, hpath⟩ := h
  have hslash : (before ++ '/' :: segments ++ ' ' :: behind).dropWhile (· != '/') =
      '/' :: segments ++ ' ' :: behind := by
    rw [List.append_assoc]
    exact Text.dropWhile_ne_append hbefore _
  unfold requestPath
  simp only [hslash]
  rw [Text.takeWhile_ne_append hpath]
  simp

theorem requestPath_of_lacksPath (h : LacksPath line) :
    ∃ flaw, requestPath line = .error flaw := by
  by_cases hslash : '/' ∈ line
  · obtain ⟨before, behind, rfl, hbefore⟩ := List.eq_append_cons_of_mem hslash
    have hspace : ' ' ∉ behind := h before behind rfl hbefore
    refine ⟨.noProtocol, ?_⟩
    unfold requestPath
    simp only [Text.dropWhile_ne_append hbefore]
    simp [hspace]
  · refine ⟨.noPath, ?_⟩
    have hnone : line.dropWhile (· != '/') = [] :=
      List.dropWhile_eq_nil_iff.mpr fun c hc => by
        simpa using fun heq : c = '/' => hslash (heq ▸ hc)
    unfold requestPath
    simp only [hnone]
    simp

/-! ## The verdict -/

namespace HeadLines

private theorem pathOf_eq (h : HeadLines head requestLine headerLines)
    (hstart : requestStart <+: head) :
    pathOf (recover requestLine) = requestPath (recover requestLine) := by
  obtain ⟨rest, rfl⟩ := h.requestStart_prefix hstart
  have hread : recover (requestStart ++ rest) = "GET ".toList ++ recover rest := by
    show recover (0x47 :: 0x45 :: 0x54 :: 0x20 :: rest) = _
    rw [Text.Utf8.recover_cons_plain _ (by decide), Text.Utf8.recover_cons_plain _ (by decide),
      Text.Utf8.recover_cons_plain _ (by decide), Text.Utf8.recover_cons_plain _ (by decide)]
    rfl
  have hget : "GET ".toList.isPrefixOf (recover (requestStart ++ rest)) = true := by
    rw [List.isPrefixOf_iff_prefix, hread]
    exact List.prefix_append _ _
  rw [pathOf, if_pos hget]

/-- A head is judged by its lines, whatever comes behind it. -/
theorem negotiate_append (h : HeadLines head requestLine headerLines)
    (isEnabled : String → Bool) (behind : Bytes) :
    negotiate isEnabled (head ++ behind) =
      negotiateLines isEnabled (recover requestLine) (headerLines.map recover) := by
  rw [negotiate, h.lines_append]
  show negotiateLines isEnabled _ _ = _
  rw [negotiateLines, negotiateLines]
  simp only [metadataOf_append]

/-- A head that begins with `GET ` is judged by the path of its request line and by its headers. -/
theorem negotiate_eq (h : HeadLines head requestLine headerLines)
    (hstart : requestStart <+: head) (isEnabled : String → Bool) :
    negotiate isEnabled head =
      match requestPath (recover requestLine) with
      | .error flaw => .error (.flawed flaw)
      | .ok path =>
          if path.length ≤ 1 || !isEnabled (String.ofList path) then
            .error (.rejected (String.ofList path))
          else grant ((headerLines.map recover).foldl withLine { path := String.ofList path }) := by
  have hwhole := h.negotiate_append isEnabled []
  rw [List.append_nil, negotiateLines, h.pathOf_eq hstart] at hwhole
  rw [hwhole]
  cases requestPath (recover requestLine) with
  | error flaw => rfl
  | ok path =>
      show (if _ then _ else grant (metadataOf path _)) = if _ then _ else _
      rw [h.metadataOf_eq]

theorem negotiate_of_lacksPath (h : HeadLines head requestLine headerLines)
    (hstart : requestStart <+: head) (hlacks : LacksPath (recover requestLine)) :
    ∃ flaw, negotiate isEnabled head = .error (.flawed flaw) := by
  obtain ⟨flaw, hflaw⟩ := requestPath_of_lacksPath hlacks
  exact ⟨flaw, by rw [h.negotiate_eq hstart, hflaw]⟩

/-- If the path is not live, nothing else of the request counts. -/
theorem negotiate_of_not_live (h : HeadLines head requestLine headerLines)
    (hstart : requestStart <+: head) (hpath : IsPathOf path (recover requestLine))
    (hdead : ¬ isEnabled (String.ofList path)) :
    negotiate isEnabled head = .error (.rejected (String.ofList path)) := by
  rw [h.negotiate_eq hstart, requestPath_of_isPathOf hpath]
  simp [hdead]

theorem negotiate_of_live (h : HeadLines head requestLine headerLines)
    (hstart : requestStart <+: head) (hpath : IsPathOf path (recover requestLine))
    (hlong : 1 < path.length) (hlive : isEnabled (String.ofList path)) :
    negotiate isEnabled head =
      grant ((headerLines.map recover).foldl withLine { path := String.ofList path }) := by
  rw [h.negotiate_eq hstart, requestPath_of_isPathOf hpath]
  simp [hlive, Nat.not_le.mpr hlong]

/-- Of the gate, no more is asked than whether the path of the request is live. -/
theorem negotiate_congr (h : HeadLines head requestLine headerLines)
    (hstart : requestStart <+: head) {other : String → Bool}
    (hsame : ∀ path, IsPathOf path (recover requestLine) →
      isEnabled (String.ofList path) = other (String.ofList path)) :
    negotiate isEnabled head = negotiate other head := by
  rw [h.negotiate_eq hstart, h.negotiate_eq hstart]
  rcases lacksPath_or_exists (recover requestLine) with hlacks | ⟨path, hpath⟩
  · obtain ⟨flaw, hflaw⟩ := requestPath_of_lacksPath hlacks
    rw [hflaw]
  · rw [requestPath_of_isPathOf hpath]
    simp only [hsame path hpath]

end HeadLines

/-! ## What stands behind a head -/

/-- **Nothing behind the blank line counts.**  Where the first blank line ends is a matter of the
octets and stays the same when more of them come in.  A request is judged by the lines in front of
that blank line and by nothing else: what follows, cut-off characters included, changes neither
the request nor the reason to refuse it. -/
theorem negotiate_headLength {received : Bytes} {length : Nat}
    (h : headLength? received = some length) (isEnabled : String → Bool) (tail : Bytes) :
    headLength? (received ++ tail) = some length ∧
      negotiate isEnabled (received ++ tail) = negotiate isEnabled (received.take length) ∧
      ∃ requestLine headerLines, HeadLines (received.take length) requestLine headerLines ∧
        negotiate isEnabled (received ++ tail) =
          negotiateLines isEnabled (recover requestLine) (headerLines.map recover) := by
  have hends : HeadEnds received length := headLength?_eq_some_iff.mp h
  obtain ⟨requestLine, headerLines, hlines⟩ := hends.exists_headLines
  have hsplit : received ++ tail = received.take length ++ (received.drop length ++ tail) := by
    rw [← List.append_assoc, List.take_append_drop]
  have hwhole : negotiate isEnabled (received ++ tail) =
      negotiateLines isEnabled (recover requestLine) (headerLines.map recover) := by
    rw [hsplit]
    exact hlines.negotiate_append isEnabled _
  refine ⟨headLength?_eq_some_iff.mpr (hends.append tail), ?_, requestLine, headerLines, hlines,
    hwhole⟩
  calc negotiate isEnabled (received ++ tail)
      = negotiateLines isEnabled (recover requestLine) (headerLines.map recover) := hwhole
    _ = negotiate isEnabled (received.take length ++ []) :=
        (hlines.negotiate_append isEnabled []).symm
    _ = negotiate isEnabled (received.take length) := by rw [List.append_nil]

/-- A character cut off by the line break in front of the blank line, and one behind the blank line
that the next octet completes. -/
theorem negotiate_headLength_cut :
    let received : Bytes :=
      Text.Utf8.encodeString "GET /a H\r\nHost: " ++
        [0xC3, 0x0D, 0x0A, 0x0D, 0x0A, 0xE2, 0x82]
    headLength? received = some 21 ∧
      headLength? (received ++ [0xAC]) = some 21 ∧
      negotiate (fun _ => true) (received ++ [0xAC]) =
        negotiate (fun _ => true) (received.take 21) ∧
      ∃ requestLine headerLines, HeadLines (received.take 21) requestLine headerLines ∧
        negotiate (fun _ => true) (received ++ [0xAC]) =
          negotiateLines (fun _ => true) (recover requestLine) (headerLines.map recover) := by
  intro received
  have hhead : headLength? received = some 21 := by decide +kernel
  exact ⟨hhead, negotiate_headLength hhead (fun _ => true) [0xAC]⟩

end SharedListener.Handshake
