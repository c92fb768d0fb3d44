import Mathlib.Data.List.Basic
import Mathlib.Data.List.TakeWhile
import Std.Data.String.ToInt
import SharedListener.Metrics.Basic
import SharedListener.Proofs.Text.Search

/-!
# Reading sample lines

A sample line is read from left to right: the name of the series up to the brace,
labels with commas between them, and a decimal number.  A value ends at the first
double quote that has no backslash in front of it, and the three escapes are undone.

What was written is read back (`Sample.read?_line`), as long as label names are names
(`IsLabelName`); label values may be any text.  So sample lines have no line feed in
them, and lists of labels that are written the same are the same (`labelsText_inj`).
-/

namespace SharedListener.Metrics

/-! ## Label names -/

/-- A letter or an underscore, and then letters, digits and underscores. -/
def IsLabelName (name : String) : Prop :=
  ∃ first rest, name.toList = first :: rest ∧ (first.isAlpha ∨ first = '_') ∧
    ∀ c ∈ rest, c.isAlphanum ∨ c = '_'

/-- The characters that stand around label names in a sample line, and the line feed. -/
private theorem not_name_char {c : Char} (h : c.isAlphanum ∨ c = '_') :
    c ≠ '=' ∧ c ≠ '\n' ∧ c ≠ '\x7d' := by
  refine ⟨?_, ?_, ?_⟩ <;>
    · rintro rfl
      revert h
      decide

theorem IsLabelName.forall_mem {name : String} (h : IsLabelName name) :
    ∀ c ∈ name.toList, c.isAlphanum ∨ c = '_' := by
  obtain ⟨first, rest, hname, hfirst, hrest⟩ := h
  rw [hname]
  refine List.forall_mem_cons.mpr ⟨hfirst.imp_left fun halpha => ?_, hrest⟩
  rw [Char.isAlphanum, halpha, Bool.true_or]

/-! ## Values -/

/-- How one character of a value is written. -/
def escapeChar (c : Char) : List Char :=
  if c = '\\' then ['\\', '\\']
  else if c = '"' then ['\\', '"']
  else if c = '\n' then ['\\', 'n']
  else [c]

/-- The passes of `escape`, in their order, escape each character by itself: no pass finds anything
in what an earlier one has put in. -/
theorem escape_eq (value : List Char) : escape value = value.flatMap escapeChar := by
  unfold escape replace
  simp only [List.flatMap_assoc]
  refine List.flatMap_congr fun c _ => ?_
  unfold escapeChar
  by_cases hslash : c = '\\'
  · subst hslash
    decide
  · by_cases hquote : c = '"'
    · subst hquote
      decide
    · simp [hslash, hquote]

theorem escape_cons (c : Char) (value : List Char) :
    escape (c :: value) = escapeChar c ++ escape value := by
  rw [escape_eq, escape_eq, List.flatMap_cons]

/-- The character that a backslash and this one stand for. -/
def unescaped? : Char → Option Char
  | '\\' => some '\\'
  | '"' => some '"'
  | 'n' => some '\n'
  | _ => none

/-- Reads a value up to the double quote that ends it, and gives back what comes behind. -/
def readValue : List Char → Option (List Char × List Char)
  | [] => none
  | '"' :: rest => some ([], rest)
  | '\\' :: c :: rest => do
    let plain ← unescaped? c
    let (value, behind) ← readValue rest
    return (plain :: value, behind)
  | c :: rest => (readValue rest).map fun (value, behind) => (c :: value, behind)

theorem feed_notMem_escape (value : List Char) : '\n' ∉ escape value := by
  intro hmem
  rw [escape_eq] at hmem
  obtain ⟨c, -, hc⟩ := List.mem_flatMap.mp hmem
  unfold escapeChar at hc
  split_ifs at hc with hslash hquote hfeed
  · simp at hc
  · simp at hc
  · simp at hc
  · exact hfeed (List.mem_singleton.mp hc).symm

theorem readValue_escape (value rest : List Char) :
    readValue (escape value ++ '"' :: rest) = some (value, rest) := by
  induction value with
  | nil => rfl
  | cons c value ih =>
      rw [escape_cons, escapeChar]
      split_ifs with hslash hquote hfeed
      · simp [readValue, unescaped?, ih, hslash]
      · simp [readValue, unescaped?, ih, hquote]
      · simp [readValue, unescaped?, ih, hfeed]
      · simp [readValue, ih, hslash]

theorem length_readValue_lt {text value rest : List Char}
    (h : readValue text = some (value, rest)) : rest.length < text.length := by
  fun_induction readValue text generalizing value rest with
  | case1 => cases h
  | case2 behind =>
      cases h
      exact Nat.lt_succ_self _
  | case3 c behind ih =>
      simp only [Option.bind_eq_bind, Option.bind_eq_some_iff] at h
      obtain ⟨plain, -, ⟨inner, rest'⟩, hinner, hpair⟩ := h
      cases hpair
      exact Nat.lt_succ_of_lt (Nat.lt_succ_of_lt (ih hinner))
  | case4 c behind _ _ ih =>
      obtain ⟨⟨inner, rest'⟩, hinner, hpair⟩ := Option.map_eq_some_iff.mp h
      cases hpair
      exact Nat.lt_succ_of_lt (ih hinner)

/-! ## Labels -/

/-- Reads one label: a name up to the equals sign, and a value between double quotes. -/
def readLabel (text : List Char) : Option (Label × List Char) :=
  match text.dropWhile (· != '=') with
  | '=' :: '"' :: quoted =>
    (readValue quoted).map fun (value, rest) =>
      ((String.ofList (text.takeWhile (· != '=')), String.ofList value), rest)
  | _ => none

theorem length_readLabel_lt {text rest : List Char} {label : Label}
    (h : readLabel text = some (label, rest)) : rest.length < text.length := by
  unfold readLabel at h
  split at h
  · next quoted hquoted =>
      obtain ⟨⟨value, rest'⟩, hvalue, hpair⟩ := Option.map_eq_some_iff.mp h
      cases hpair
      have hlt := length_readValue_lt hvalue
      have hle := (List.dropWhile_suffix (l := text) (· != '=')).length_le
      rw [hquoted, List.length_cons, List.length_cons] at hle
      omega
  · cases h

/-- Reads labels with commas between them up to the closing brace. -/
def readLabels (text : List Char) : Option (LabelList × List Char) :=
  match _hlabel : readLabel text with
  | none => none
  | some (label, ',' :: more) =>
    (readLabels more).map fun (labels, rest) => (label :: labels, rest)
  | some (label, '\x7d' :: rest) => some ([label], rest)
  | some _ => none
termination_by text.length
decreasing_by
  exact Nat.lt_of_succ_lt (length_readLabel_lt _hlabel)

theorem readLabels_of_comma {text more : List Char} {label : Label}
    (h : readLabel text = some (label, ',' :: more)) :
    readLabels text = (readLabels more).map fun (labels, rest) => (label :: labels, rest) := by
  rw [readLabels]
  split <;> simp_all

theorem readLabels_of_brace {text rest : List Char} {label : Label}
    (h : readLabel text = some (label, '\x7d' :: rest)) :
    readLabels text = some ([label], rest) := by
  rw [readLabels]
  split <;> simp_all

theorem readLabel_labelText {label : Label} (h : IsLabelName label.1) (rest : List Char) :
    readLabel (labelText label ++ rest) = some (label, rest) := by
  have hname : '=' ∉ label.1.toList := fun hmem => (not_name_char (h.forall_mem _ hmem)).1 rfl
  have htext : labelText label ++ rest =
      label.1.toList ++ '=' :: '"' :: (escape label.2.toList ++ '"' :: rest) := by
    simp [labelText]
  rw [htext, readLabel, Text.dropWhile_ne_append hname, Text.takeWhile_ne_append hname]
  simp [readValue_escape]

theorem labelsText_singleton (label : Label) : labelsText [label] = labelText label :=
  List.intercalate_singleton

theorem labelsText_cons_cons (label next : Label) (labels : LabelList) :
    labelsText (label :: next :: labels) =
      labelText label ++ ',' :: labelsText (next :: labels) := by
  simp [labelsText, List.intercalate_cons_cons]

/-- The text of labels begins with the name of the first one. -/
theorem exists_labelsText_cons (label : Label) (labels : LabelList) :
    ∃ more, labelsText (label :: labels) = label.1.toList ++ more := by
  cases labels with
  | nil =>
      rw [labelsText_singleton]
      exact ⟨_, rfl⟩
  | cons next labels =>
      rw [labelsText_cons_cons, labelText, List.append_assoc]
      exact ⟨_, rfl⟩

/-- Labels are read back. -/
theorem readLabels_labelsText {label : Label} {labels : LabelList}
    (h : ∀ item ∈ label :: labels, IsLabelName item.1) (rest : List Char) :
    readLabels (labelsText (label :: labels) ++ '\x7d' :: rest) =
      some (label :: labels, rest) := by
  induction labels generalizing label with
  | nil =>
      have hlabel := readLabel_labelText (h label List.mem_cons_self) ('\x7d' :: rest)
      rw [labelsText_singleton, readLabels_of_brace hlabel]
  | cons next labels ih =>
      obtain ⟨hname, hothers⟩ := List.forall_mem_cons.mp h
      rw [labelsText_cons_cons, List.append_assoc, List.cons_append,
        readLabels_of_comma (readLabel_labelText hname _), ih hothers]
      rfl

theorem feed_notMem_labelText {label : Label} (h : IsLabelName label.1) :
    '\n' ∉ labelText label := by
  have hname : '\n' ∉ label.1.toList := fun hmem => (not_name_char (h.forall_mem _ hmem)).2.1 rfl
  simp [labelText, hname, feed_notMem_escape]

theorem feed_notMem_labelsText {labels : LabelList} (h : ∀ label ∈ labels, IsLabelName label.1) :
    '\n' ∉ labelsText labels := by
  induction labels with
  | nil => exact List.not_mem_nil
  | cons label labels ih =>
      obtain ⟨hlabel, hothers⟩ := List.forall_mem_cons.mp h
      cases labels with
      | nil =>
          rw [labelsText_singleton]
          exact feed_notMem_labelText hlabel
      | cons next labels =>
          simp [labelsText_cons_cons, feed_notMem_labelText hlabel, ih hothers]

/-! ## Labels and a number -/

/-- Reads the number that stands behind the labels and a space. -/
def readNumber : List Char → Option ℤ
  | ' ' :: digits => (String.ofList digits).toInt?
  | _ => none

/-- Reads what stands behind the opening brace: labels, if there are any, and the number. -/
def readInside (text : List Char) : Option (LabelList × ℤ) :=
  match text with
  | '\x7d' :: rest => (readNumber rest).map fun number => ([], number)
  | _ => do
    let (labels, rest) ← readLabels text
    let number ← readNumber rest
    return (labels, number)

theorem readNumber_toString (number : ℤ) :
    readNumber (' ' :: (toString number).toList) = some number := by
  rw [readNumber, String.ofList_toList]
  exact Int.toInt?_repr number

theorem readInside_line {labels : LabelList} (h : ∀ label ∈ labels, IsLabelName label.1)
    (number : ℤ) :
    readInside (labelsText labels ++ '\x7d' :: ' ' :: (toString number).toList) =
      some (labels, number) := by
  cases labels with
  | nil =>
      show (readNumber _).map _ = _
      rw [readNumber_toString]
      rfl
  | cons label labels =>
      have hread := readLabels_labelsText h (' ' :: (toString number).toList)
      unfold readInside
      split
      -- a label does not begin with the closing brace
      · next rest hbrace =>
          obtain ⟨more, hmore⟩ := exists_labelsText_cons label labels
          have hchars := (h label List.mem_cons_self).forall_mem
          obtain ⟨first, tail, hfirst, -⟩ := h label List.mem_cons_self
          rw [hfirst] at hchars
          rw [hmore, hfirst] at hbrace
          exact absurd (List.cons.inj hbrace).1
            (not_name_char (hchars first List.mem_cons_self)).2.2
      · simp only [hread, Option.bind_eq_bind, Option.bind_some, readNumber_toString]
        rfl

/-- Labels that are written the same are the same. -/
theorem labelsText_inj {first second : LabelList} (hfirst : ∀ label ∈ first, IsLabelName label.1)
    (hsecond : ∀ label ∈ second, IsLabelName label.1) :
    labelsText first = labelsText second ↔ first = second := by
  refine ⟨fun h => ?_, fun h => h ▸ rfl⟩
  have hread := readInside_line hfirst 0
  rw [h, readInside_line hsecond 0] at hread
  exact (Prod.mk.inj (Option.some.inj hread)).1.symm

/-! ## Sample lines -/

/-- One number of a series. -/
@[ext]
structure Sample where
  /-- The name of the series. -/
  name : String
  labels : LabelList
  number : ℤ
deriving DecidableEq

namespace Sample

/-- The line of a sample. -/
def line (sample : Sample) : List Char :=
  sampleLine sample.name sample.labels (toString sample.number)

/-- Reads a sample line. -/
def read? (text : List Char) : Option Sample :=
  match text.dropWhile (· != '\x7b') with
  | '\x7b' :: inside =>
    (readInside inside).map fun (labels, number) =>
      ⟨String.ofList (text.takeWhile (· != '\x7b')), labels, number⟩
  | _ => none

/-- What can be written so that it can be read. -/
structure IsReadable (sample : Sample) : Prop where
  brace_notMem : '\x7b' ∉ sample.name.toList
  feed_notMem : '\n' ∉ sample.name.toList
  names : ∀ label ∈ sample.labels, IsLabelName label.1

theorem feed_notMem_repr (number : ℤ) : '\n' ∉ number.repr.toList := by
  have hdigits : ∀ n : ℕ, '\n' ∉ n.repr.toList := fun n hmem => by
    rw [Nat.toList_repr] at hmem
    exact absurd (Nat.isDigit_of_mem_toDigits (by decide) (by decide) hmem) (by decide)
  cases number with
  | ofNat n => exact hdigits n
  | negSucc n =>
      show '\n' ∉ ("-" ++ (n + 1).repr).toList
      rw [String.toList_append]
      simpa using hdigits (n + 1)

/-- A sample takes one line. -/
theorem feed_notMem_line {sample : Sample} (h : sample.IsReadable) : '\n' ∉ sample.line := by
  simp [line, sampleLine, h.feed_notMem, feed_notMem_labelsText h.names, feed_notMem_repr]

/-- What was written is read back. -/
theorem read?_line {sample : Sample} (h : sample.IsReadable) :
    read? sample.line = some sample := by
  have hline : sample.line = sample.name.toList ++ '\x7b' ::
      (labelsText sample.labels ++ '\x7d' :: ' ' :: (toString sample.number).toList) := rfl
  rw [hline, read?, Text.dropWhile_ne_append h.brace_notMem,
    Text.takeWhile_ne_append h.brace_notMem]
  simp only [readInside_line h.names, Option.map_some, String.ofList_toList]

end Sample

end SharedListener.Metrics
