import Mathlib.Data.List.Induction
import SharedListener.Proofs.Handshake.Grant
import SharedListener.Proofs.Text.Search
import SharedListener.Proofs.Text.Spelling

/-!
# What the header lines set

A line sets the first of the known names that stands, in any mixture of upper and
lower case, in front of its first colon (`Sets`).  Of the lines that set a name the
last one counts (`LastSets`).  Both are said with the names as they are written and
with the codes of characters; `sets_iff` and `headers_foldl_withLine` are what
reading the lines comes to.
-/

namespace SharedListener.Handshake

open Text (StandsIn IsTrimmed)

variable {header : Header} {name : String} {line value : List Char} {lines : List (List Char)}
  {metadata : Metadata}

/-- The names of the headers that matter, in the order in which they are tried. -/
def knownNames : List String :=
  ["Sec-WebSocket-Key", "Sec-WebSocket-Version", "Sec-WebSocket-Extensions", "Host", "Origin",
    "User-Agent"]

/-- The name is a known one and stands in the text, and no name that is tried before it does. -/
def Matches (name : String) (text : List Char) : Prop :=
  StandsIn name text ∧ ∃ earlier later, knownNames = earlier ++ name :: later ∧
    ∀ other ∈ earlier, ¬ StandsIn other text

/-- The line sets the name to the value. -/
def Sets (name : String) (line value : List Char) : Prop :=
  ∃ label rest, line = label ++ ':' :: rest ∧ ':' ∉ label ∧ Matches name label ∧
    IsTrimmed rest value

theorem Sets.mem_knownNames (h : Sets name line value) : name ∈ knownNames := by
  obtain ⟨_, _, -, -, ⟨-, earlier, later, hnames, -⟩, -⟩ := h
  rw [hnames]
  exact List.mem_append_right earlier List.mem_cons_self

theorem Sets.isInfix (h : Sets name line value) : value <:+: line := by
  obtain ⟨label, rest, rfl, -, -, htrimmed⟩ := h
  exact htrimmed.isInfix.trans ⟨label ++ [':'], [], by simp⟩

/-! ## One line -/

namespace Header

theorem map_name_all : all.map Header.name = knownNames := rfl

private theorem occursIn_iff (header : Header) (text : List Char) :
    Text.occursIn (lowered header.name.toList) (lowered text) ↔ StandsIn header.name text := by
  rw [Text.standsIn_iff, Text.occursIn, ← Option.ne_none_iff_isSome, ne_eq,
    Text.firstOccurrence?_eq_none_iff, not_not]
  rfl

theorem matching?_eq_some_iff {text : List Char} :
    matching? text = some header ↔ Matches header.name text := by
  rw [matching?, List.find?_eq_some_iff_append, occursIn_iff, Matches, ← map_name_all]
  apply and_congr_right
  intro _
  constructor
  · rintro ⟨earlier, later, hall, hnone⟩
    refine ⟨earlier.map Header.name, later.map Header.name, ?_, ?_⟩
    · rw [hall, List.map_append, List.map_cons]
    · simp only [List.forall_mem_map]
      intro other hother
      simpa only [Bool.not_eq_true', ← Bool.not_eq_true, occursIn_iff] using hnone other hother
  · rintro ⟨earlier, later, hnames, hnone⟩
    obtain ⟨before, rest, hall, rfl, hrest⟩ := List.map_eq_append_iff.mp hnames
    obtain ⟨first, behind, rfl, hfirst, rfl⟩ := List.map_eq_cons_iff.mp hrest
    obtain rfl := name_injective hfirst
    refine ⟨before, behind, hall, ?_⟩
    intro other hother
    simpa only [Bool.not_eq_true', ← Bool.not_eq_true, occursIn_iff] using
      hnone other.name (List.mem_map_of_mem hother)

theorem ofLine?_append {label : List Char} (hlabel : ':' ∉ label) (rest : List Char) :
    ofLine? (label ++ ':' :: rest) =
      (matching? label).map fun header => (header, String.ofList (Text.trim rest)) := by
  rw [ofLine?, Text.dropWhile_ne_append hlabel, Text.takeWhile_ne_append hlabel]

theorem ofLine?_eq_some_iff :
    ofLine? line = some (header, String.ofList value) ↔ Sets header.name line value := by
  by_cases hcolon : ':' ∈ line
  · obtain ⟨label, rest, rfl, hlabel⟩ := List.eq_append_cons_of_mem hcolon
    have hline := ofLine?_append hlabel rest
    rw [hline, Option.map_eq_some_iff]
    constructor
    · rintro ⟨other, hmatches, hsame⟩
      obtain ⟨rfl, hvalue⟩ := Prod.mk.inj hsame
      exact ⟨label, rest, rfl, hlabel, matching?_eq_some_iff.mp hmatches,
        Text.isTrimmed_iff.mpr (String.ofList_injective hvalue).symm⟩
    · rintro ⟨label', rest', hsplit, hlabel', hmatches, htrimmed⟩
      -- the first colon is where it is
      obtain rfl : label' = label := by
        rw [← Text.takeWhile_ne_append hlabel' rest', ← hsplit, Text.takeWhile_ne_append hlabel]
      obtain rfl := (List.cons.inj (List.append_cancel_left hsplit)).2
      refine ⟨header, matching?_eq_some_iff.mpr hmatches, ?_⟩
      rw [Text.isTrimmed_iff.mp htrimmed]
  · have hnone : line.dropWhile (· != ':') = [] :=
      List.dropWhile_eq_nil_iff.mpr fun c hc => by
        simpa using fun heq : c = ':' => hcolon (heq ▸ hc)
    rw [ofLine?, hnone]
    constructor
    · exact nofun
    · rintro ⟨label, rest, rfl, -⟩
      simp at hcolon

end Header

/-- A line sets what is read off it. -/
theorem sets_iff :
    Sets name line value ↔
      ∃ header : Header, header.name = name ∧
        Header.ofLine? line = some (header, String.ofList value) := by
  constructor
  · intro h
    have hmem := h.mem_knownNames
    rw [← Header.map_name_all] at hmem
    obtain ⟨header, -, rfl⟩ := List.mem_map.mp hmem
    exact ⟨header, rfl, Header.ofLine?_eq_some_iff.mpr h⟩
  · rintro ⟨header, rfl, hline⟩
    exact Header.ofLine?_eq_some_iff.mp hline

/-- A line sets one name to one value. -/
theorem Sets.unique {other : String} {text : List Char} (h : Sets name line value)
    (hother : Sets other line text) : name = other ∧ value = text := by
  obtain ⟨header, rfl, hline⟩ := sets_iff.mp h
  obtain ⟨second, rfl, hsecond⟩ := sets_iff.mp hother
  obtain ⟨rfl, hvalue⟩ := Prod.mk.inj (Option.some.inj (hline.symm.trans hsecond))
  exact ⟨rfl, String.ofList_injective hvalue⟩

/-! ## All lines -/

/-- The last of the lines that set the name sets it to the value. -/
def LastSets (name : String) (lines : List (List Char)) (value : List Char) : Prop :=
  ∃ before line behind, lines = before ++ line :: behind ∧ Sets name line value ∧
    ∀ later ∈ behind, ∀ other, ¬ Sets name later other

private theorem lastSets_concat_iff :
    LastSets name (lines ++ [line]) value ↔
      Sets name line value ∨
        (∀ other, ¬ Sets name line other) ∧ LastSets name lines value := by
  constructor
  · rintro ⟨before, last, behind, hsplit, hsets, hlater⟩
    rcases List.eq_nil_or_concat behind with rfl | ⟨middle, final, rfl⟩
    · obtain ⟨-, hlast⟩ := List.append_inj' hsplit rfl
      obtain rfl := List.singleton_inj.mp hlast
      exact .inl hsets
    · rw [List.concat_eq_append, ← List.cons_append, ← List.append_assoc] at hsplit
      obtain ⟨rfl, hfinal⟩ := List.append_inj' hsplit rfl
      obtain rfl := List.singleton_inj.mp hfinal
      exact .inr ⟨hlater _ (by simp), before, last, middle, rfl, hsets,
        fun later hmem => hlater later (by simp [hmem])⟩
  · rintro (hsets | ⟨hnone, before, last, behind, rfl, hsets, hlater⟩)
    · exact ⟨lines, line, [], rfl, hsets, List.forall_mem_nil _⟩
    · refine ⟨before, last, behind ++ [line], by simp, hsets, fun later hmem => ?_⟩
      rcases List.mem_append.mp hmem with hearlier | hlast
      · exact hlater later hearlier
      · rwa [List.mem_singleton.mp hlast]

/-- Some line is the last to set the name exactly if some line sets it. -/
theorem exists_lastSets_iff :
    (∃ value, LastSets name lines value) ↔ ∃ line ∈ lines, ∃ value, Sets name line value := by
  constructor
  · rintro ⟨value, before, line, behind, rfl, hsets, -⟩
    exact ⟨line, by simp, value, hsets⟩
  · rintro ⟨line, hline, value, hsets⟩
    induction lines using List.reverseRecOn with
    | nil => cases hline
    | append_singleton lines last ih =>
        simp only [lastSets_concat_iff]
        by_cases hlast : ∃ other, Sets name last other
        · obtain ⟨other, hother⟩ := hlast
          exact ⟨other, .inl hother⟩
        · have hnone : ∀ other, ¬ Sets name last other := not_exists.mp hlast
          rcases List.mem_append.mp hline with hmem | hmem
          · obtain ⟨other, hother⟩ := ih hmem
            exact ⟨other, .inr ⟨hnone, hother⟩⟩
          · rw [List.mem_singleton.mp hmem] at hsets
            exact absurd hsets (hnone value)

private theorem headers_withLine_of_sets (h : Sets name line value) :
    (withLine metadata line).headers[name]? = some (String.ofList value) := by
  obtain ⟨header, rfl, hline⟩ := sets_iff.mp h
  rw [withLine, hline]
  simp only [headers_withHeader, if_true]

private theorem headers_withLine_of_not_sets (h : ∀ other, ¬ Sets name line other) :
    (withLine metadata line).headers[name]? = metadata.headers[name]? := by
  rw [withLine]
  cases hline : Header.ofLine? line with
  | none => rfl
  | some set =>
      obtain ⟨other, text⟩ := set
      have hother : other.name ≠ name := by
        intro hname
        rw [← String.ofList_toList (s := text)] at hline
        exact h _ (sets_iff.mpr ⟨other, hname, hline⟩)
      simp only [headers_withHeader, if_neg hother]

/-- A header has the value that the last line gives it. -/
theorem headers_foldl_withLine (path : String) (lines : List (List Char)) :
    (lines.foldl withLine { path }).headers[name]? = some (String.ofList value) ↔
      LastSets name lines value := by
  induction lines using List.reverseRecOn with
  | nil =>
      refine iff_of_false (by simp) ?_
      rintro ⟨before, line, behind, hsplit, -⟩
      simp at hsplit
  | append_singleton lines line ih =>
      rw [List.foldl_append, List.foldl_cons, List.foldl_nil, lastSets_concat_iff]
      by_cases hsets : ∃ other, Sets name line other
      · obtain ⟨other, hother⟩ := hsets
        rw [headers_withLine_of_sets hother, Option.some_inj]
        constructor
        · intro heq
          rw [String.ofList_injective heq] at hother
          exact .inl hother
        · rintro (hvalue | ⟨hnone, -⟩)
          · rw [(hother.unique hvalue).2]
          · exact absurd hother (hnone other)
      · have hnone : ∀ other, ¬ Sets name line other := fun other hother => hsets ⟨other, hother⟩
        rw [headers_withLine_of_not_sets hnone, ih]
        constructor
        · exact fun hlast => .inr ⟨hnone, hlast⟩
        · rintro (hvalue | ⟨-, hlast⟩)
          · exact absurd hvalue (hnone value)
          · exact hlast

/-! ## The client key -/

/-- The last line that sets the client key gives it a value. -/
def HasKey (lines : List (List Char)) : Prop :=
  ∃ key, key ≠ [] ∧ LastSets "Sec-WebSocket-Key" lines key

theorem grant_of_hasKey (path : String) (h : HasKey lines) :
    ∃ request, grant (lines.foldl withLine { path }) = .ok request ∧
      request.metadata.path = path := by
  obtain ⟨key, hne, hlast⟩ := h
  have hkey : (lines.foldl withLine { path }).headers[Header.key.name]? = some _ :=
    (headers_foldl_withLine path lines).mpr hlast
  have hempty : (String.ofList key).isEmpty = false := by
    rw [← Bool.not_eq_true, String.isEmpty_iff]
    simpa using hne
  refine ⟨⟨lines.foldl withLine { path }, String.ofList key⟩, ?_, path_foldl_withLine _ lines⟩
  simp only [grant, hkey, hempty, Bool.false_eq_true, if_false]

theorem grant_of_not_hasKey (path : String) (h : ¬ HasKey lines) :
    grant (lines.foldl withLine { path }) = .error (.flawed .noKey) := by
  unfold grant
  cases hkey : (lines.foldl withLine { path }).headers[Header.key.name]? with
  | none => rfl
  | some key =>
      rw [← String.ofList_toList (s := key)] at hkey
      have hlast := (headers_foldl_withLine path lines).mp hkey
      have hempty : key.isEmpty := by
        rw [String.isEmpty_iff]
        by_contra hne
        exact h ⟨key.toList, by simpa using hne, hlast⟩
      simp only [hempty, if_true]

end SharedListener.Handshake
