import Mathlib.Data.List.Forall2
import Mathlib.Data.List.TakeWhile
import Mathlib.Tactic.SplitIfs
import SharedListener.Text.Blank

/-!
# Spelling

What it is for texts to be the same but for upper and lower case, and for a text
to be another one without the white space around it, by the codes of the
characters.

* `SameLetter` is having the same lower case (`map_toLower_eq_iff`), and
  `StandsIn` is being a part in lower case (`standsIn_iff`);
* `IsWhite` is being a blank (`isBlank_iff`), and `IsTrimmed` is being what
  `trim` leaves (`isTrimmed_iff`).
-/

namespace SharedListener.Text

/-! ## Upper and lower case -/

/-- The characters are the same, or one of them is a letter from `A` to `Z`, which have the codes 65
to 90, and the other is the same letter in lower case, with a code that is 32 higher. -/
def SameLetter (first second : Char) : Prop :=
  first = second ∨
    65 ≤ first.toNat ∧ first.toNat ≤ 90 ∧ second.toNat = first.toNat + 32 ∨
    65 ≤ second.toNat ∧ second.toNat ≤ 90 ∧ first.toNat = second.toNat + 32

/-- The texts are the same letter by letter. -/
def SameLetters (first second : List Char) : Prop :=
  List.Forall₂ SameLetter first second

/-- The name stands somewhere in the text, in any mixture of upper and lower case. -/
def StandsIn (name : String) (text : List Char) : Prop :=
  ∃ before found behind, text = before ++ found ++ behind ∧ SameLetters name.toList found

theorem toNat_toLower (c : Char) :
    c.toLower.toNat = if 65 ≤ c.toNat ∧ c.toNat ≤ 90 then c.toNat + 32 else c.toNat := by
  unfold Char.toLower
  split
  · next hupper =>
    have hrange : 65 ≤ c.toNat ∧ c.toNat ≤ 90 := hupper
    rw [if_pos hrange]
    show (c.val + ('a'.val - 'A'.val)).toNat = c.val.toNat + 32
    rw [UInt32.toNat_add]
    apply Nat.mod_eq_of_lt
    change c.toNat + 32 < _
    omega
  · next hother => exact (if_neg hother).symm

theorem toLower_eq_iff (first second : Char) :
    first.toLower = second.toLower ↔ SameLetter first second := by
  have hcodes : ∀ c d : Char, c = d ↔ c.toNat = d.toNat := fun c d => Char.toNat_inj.symm
  unfold SameLetter
  rw [hcodes first second, hcodes, toNat_toLower, toNat_toLower]
  split_ifs <;> omega

theorem map_toLower_eq_iff (first second : List Char) :
    first.map Char.toLower = second.map Char.toLower ↔ SameLetters first second := by
  unfold SameLetters
  rw [← List.forall₂_eq_eq_eq, List.forall₂_map_left_iff, List.forall₂_map_right_iff]
  simp only [toLower_eq_iff]

theorem standsIn_iff (name : String) (text : List Char) :
    StandsIn name text ↔ name.toList.map Char.toLower <:+: text.map Char.toLower := by
  constructor
  · rintro ⟨before, found, behind, rfl, hsame⟩
    rw [(map_toLower_eq_iff _ _).mpr hsame]
    simp only [List.map_append]
    exact List.infix_append _ _ _
  · rintro ⟨before, behind, hsplit⟩
    obtain ⟨front, back, rfl, hfront, rfl⟩ := List.map_eq_append_iff.mp hsplit.symm
    obtain ⟨left, found, rfl, rfl, hfound⟩ := List.map_eq_append_iff.mp hfront
    exact ⟨left, found, back, rfl, (map_toLower_eq_iff _ _).mp hfound.symm⟩

theorem StandsIn.congr {name : String} {text other : List Char} (h : SameLetters text other) :
    StandsIn name text ↔ StandsIn name other := by
  rw [standsIn_iff, standsIn_iff, (map_toLower_eq_iff _ _).mpr h]

/-! ## White space -/

/-- The codes of the characters with the Unicode property `White_Space`. -/
def whiteCodes : List Nat :=
  [0x0009, 0x000A, 0x000B, 0x000C, 0x000D, 0x0020, 0x0085, 0x00A0, 0x1680, 0x2000, 0x2001, 0x2002,
    0x2003, 0x2004, 0x2005, 0x2006, 0x2007, 0x2008, 0x2009, 0x200A, 0x2028, 0x2029, 0x202F, 0x205F,
    0x3000]

/-- The character is white space. -/
def IsWhite (c : Char) : Prop :=
  c.toNat ∈ whiteCodes

instance (c : Char) : Decidable (IsWhite c) :=
  inferInstanceAs (Decidable (_ ∈ _))

/-- The value is what is left of the text if all white space at both ends is taken away. -/
def IsTrimmed (text value : List Char) : Prop :=
  ∃ left right, text = left ++ value ++ right ∧
    (∀ c ∈ left, IsWhite c) ∧ (∀ c ∈ right, IsWhite c) ∧
    (∀ c ∈ value.head?, ¬ IsWhite c) ∧ ∀ c ∈ value.getLast?, ¬ IsWhite c

theorem isBlank_iff (c : Char) : isBlank c ↔ IsWhite c := by
  have hcodes : ∀ d : Char, c = d ↔ c.toNat = d.toNat := fun d => Char.toNat_inj.symm
  have hle : ∀ d e : Char, d ≤ e ↔ d.toNat ≤ e.toNat := fun _ _ => Iff.rfl
  simp only [isBlank, IsWhite, whiteCodes, Bool.or_eq_true, Bool.and_eq_true, beq_iff_eq,
    decide_eq_true_eq, List.mem_cons, List.not_mem_nil, or_false, hcodes, hle, Char.reduceToNat]
  omega

/-- White space around a text is taken off with the text's own. -/
theorem trim_pad {left right : List Char} (hleft : ∀ c ∈ left, IsWhite c)
    (hright : ∀ c ∈ right, IsWhite c) (text : List Char) :
    trim (left ++ text ++ right) = trim text := by
  simp only [← isBlank_iff] at hleft hright
  unfold trim
  rw [List.append_assoc, List.dropWhile_append_of_pos hleft, List.dropWhile_append]
  split
  · next hblank =>
    have hnone : right.dropWhile isBlank = [] := List.dropWhile_eq_nil_iff.mpr hright
    rw [hnone, List.isEmpty_iff.mp hblank]
  · have hreverse : ∀ c ∈ right.reverse, isBlank c := by simpa using hright
    rw [List.reverse_append, List.dropWhile_append_of_pos hreverse]

private theorem dropWhile_isBlank_of_head {text : List Char}
    (h : ∀ c ∈ text.head?, ¬ IsWhite c) : text.dropWhile isBlank = text := by
  cases text with
  | nil => rfl
  | cons c text =>
      have hc : ¬ IsWhite c := h c rfl
      rw [← isBlank_iff] at hc
      exact List.dropWhile_cons_of_neg hc

private theorem not_isWhite_of_head_dropWhile {text : List Char} {c : Char}
    (h : c ∈ (text.dropWhile isBlank).head?) : ¬ IsWhite c := by
  rw [← isBlank_iff]
  have hnot := List.head?_dropWhile_not isBlank text
  rw [h] at hnot
  simpa using hnot

theorem isTrimmed_trim (text : List Char) : IsTrimmed text (trim text) := by
  have hblank : ∀ (text : List Char), ∀ c ∈ text.takeWhile isBlank, IsWhite c := by
    intro text c hc
    exact (isBlank_iff c).mp (List.mem_takeWhile_imp hc)
  have hright : ((text.dropWhile isBlank).reverse.dropWhile isBlank).reverse ++
      ((text.dropWhile isBlank).reverse.takeWhile isBlank).reverse = text.dropWhile isBlank := by
    rw [← List.reverse_append, List.takeWhile_append_dropWhile, List.reverse_reverse]
  have htext : text = text.takeWhile isBlank ++ trim text ++
      ((text.dropWhile isBlank).reverse.takeWhile isBlank).reverse :=
    calc text = text.takeWhile isBlank ++ text.dropWhile isBlank :=
          List.takeWhile_append_dropWhile.symm
      _ = text.takeWhile isBlank ++ trim text ++
          ((text.dropWhile isBlank).reverse.takeWhile isBlank).reverse := by
        rw [List.append_assoc, trim, hright]
  refine ⟨_, _, htext, hblank text, ?_, ?_, ?_⟩
  · intro c hc
    apply hblank
    exact List.mem_reverse.mp hc
  · -- cutting off the end leaves the beginning, unless nothing is left at all
    intro c hc
    apply not_isWhite_of_head_dropWhile
    rw [← hright, List.head?_append]
    exact Option.or_eq_some_iff.mpr (.inl hc)
  · intro c hc
    rw [trim, List.getLast?_reverse] at hc
    exact not_isWhite_of_head_dropWhile hc

/-- Being trimmed is being what `trim` leaves. -/
theorem isTrimmed_iff {text value : List Char} : IsTrimmed text value ↔ value = trim text := by
  constructor
  · rintro ⟨left, right, rfl, hleft, hright, hhead, hlast⟩
    have hreverse : ∀ c ∈ value.reverse.head?, ¬ IsWhite c := by simpa using hlast
    rw [trim_pad hleft hright, trim, dropWhile_isBlank_of_head hhead,
      dropWhile_isBlank_of_head hreverse, List.reverse_reverse]
  · rintro rfl
    exact isTrimmed_trim text

theorem IsTrimmed.isInfix {text value : List Char} (h : IsTrimmed text value) :
    value <:+: text := by
  obtain ⟨left, right, rfl, -⟩ := h
  exact List.infix_append left value right

end SharedListener.Text
