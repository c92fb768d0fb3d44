import Mathlib.Data.Nat.Find
import SharedListener.Text.Search

/-!
# Where a pattern first stands

`Text.firstOccurrence?` finds the first place at which a pattern stands, if
there is one.  `FirstAt` says what that is without a search, by the ways in
which a text can be taken apart around the pattern.  A first place stays the
first when the text goes on.

A text that is cut at first places, one behind the other, falls into the same
pieces however they are found (`IsCut.unique`).
-/

namespace SharedListener.Text

variable {α : Type} {pattern text : List α}

/-- The pattern stands in the text behind `place` elements, and not earlier. -/
structure FirstAt (pattern text : List α) (place : Nat) : Prop where
  occurs : ∃ before behind, text = before ++ pattern ++ behind ∧ before.length = place
  first : ∀ before behind, text = before ++ pattern ++ behind → place ≤ before.length

theorem FirstAt.unique {place other : Nat} (h : FirstAt pattern text place)
    (hother : FirstAt pattern text other) : place = other := by
  obtain ⟨before₁, behind₁, htext₁, rfl⟩ := h.occurs
  obtain ⟨before₂, behind₂, htext₂, rfl⟩ := hother.occurs
  exact Nat.le_antisymm (h.first before₂ behind₂ htext₂) (hother.first before₁ behind₁ htext₁)

theorem FirstAt.add_length_le {place : Nat} (h : FirstAt pattern text place) :
    place + pattern.length ≤ text.length := by
  obtain ⟨before, behind, rfl, rfl⟩ := h.occurs
  simp only [List.length_append]
  omega

/-- A place that fits into the beginning of a text is a place in that beginning. -/
theorem exists_split_of_append {more before behind : List α}
    (h : text ++ more = before ++ pattern ++ behind)
    (hlength : (before ++ pattern).length ≤ text.length) :
    ∃ rest, text = before ++ pattern ++ rest := by
  obtain ⟨rest, hrest⟩ := List.prefix_of_prefix_length_le ⟨behind, h.symm⟩
    (List.prefix_append text more) hlength
  exact ⟨rest, hrest.symm⟩

/-- The first place stays the first when the text goes on. -/
theorem FirstAt.append {place : Nat} (h : FirstAt pattern text place) (more : List α) :
    FirstAt pattern (text ++ more) place := by
  have hfits := h.add_length_le
  obtain ⟨before, behind, rfl, rfl⟩ := h.occurs
  refine ⟨⟨before, behind ++ more, by simp, rfl⟩, ?_⟩
  intro earlier rest hsplit
  by_contra hlt
  obtain ⟨rest', hrest⟩ := exists_split_of_append hsplit (by
    simp only [List.length_append] at hfits ⊢
    omega)
  exact hlt (h.first earlier rest' hrest)

/-- The first place of a text is the first of every beginning that it fits into. -/
theorem FirstAt.of_append {place : Nat} {more : List α}
    (h : FirstAt pattern (text ++ more) place)
    (hlength : place + pattern.length ≤ text.length) : FirstAt pattern text place := by
  obtain ⟨before, behind, htext, rfl⟩ := h.occurs
  obtain ⟨rest, hrest⟩ := exists_split_of_append htext (by
    rw [List.length_append]
    exact hlength)
  refine ⟨⟨before, rest, hrest, rfl⟩, ?_⟩
  intro earlier other hsplit
  exact h.first earlier (other ++ more) (by rw [hsplit]; simp)

/-- A pattern that stands anywhere has a first place. -/
theorem exists_firstAt (h : pattern <:+: text) : ∃ place, FirstAt pattern text place := by
  classical
  have hex : ∃ place, ∃ before behind, text = before ++ pattern ++ behind ∧
      before.length = place := by
    obtain ⟨before, behind, hsplit⟩ := h
    exact ⟨before.length, before, behind, hsplit.symm, rfl⟩
  refine ⟨Nat.find hex, Nat.find_spec hex, ?_⟩
  intro before behind hsplit
  exact Nat.find_min' hex ⟨before, behind, hsplit, rfl⟩

theorem FirstAt.isInfix {place : Nat} (h : FirstAt pattern text place) : pattern <:+: text := by
  obtain ⟨before, behind, hsplit, _⟩ := h.occurs
  exact ⟨before, behind, hsplit.symm⟩

/-- What stands in front of the first place of a pattern does not contain it. -/
theorem FirstAt.not_infix_before {before behind : List α} (hpattern : pattern ≠ [])
    (h : FirstAt pattern (before ++ pattern ++ behind) before.length) :
    ¬ pattern <:+: before := by
  rintro ⟨earlier, rest, rfl⟩
  have hle := h.first earlier (rest ++ pattern ++ behind) (by simp)
  have hpos := List.length_pos_iff.mpr hpattern
  simp only [List.length_append] at hle
  omega

/-- Two different elements in a row cannot begin inside a text without them and end behind it. -/
theorem firstAt_pair {a b : α} (hne : a ≠ b) {before : List α} (h : ¬ [a, b] <:+: before)
    (behind : List α) : FirstAt [a, b] (before ++ [a, b] ++ behind) before.length := by
  refine ⟨⟨before, behind, rfl, rfl⟩, fun earlier rest hsplit => ?_⟩
  rw [List.append_assoc, List.append_assoc] at hsplit
  rcases List.append_eq_append_iff.mp hsplit with ⟨middle, rfl, -⟩ | ⟨middle, rfl, hmiddle⟩
  · simp
  · match middle, hmiddle with
    | [], _ => simp
    | [c], hmiddle =>
        obtain ⟨-, hsecond⟩ := List.cons.inj hmiddle
        exact absurd (List.cons.inj hsecond).1.symm hne
    | c :: d :: middle, hmiddle =>
        obtain ⟨rfl, hsecond⟩ := List.cons.inj hmiddle
        obtain ⟨rfl, -⟩ := List.cons.inj hsecond
        exact absurd ⟨earlier, middle, by simp⟩ h

/-! ## The pieces around a pattern -/

/-- The pieces of a text when it is cut at the first place of the separator, and what is behind it
is cut again. -/
inductive IsCut (separator : List α) : List α → List (List α) → Prop
  | last {piece : List α} (h : ¬ separator <:+: piece) : IsCut separator piece [piece]
  | more {piece rest : List α} {pieces : List (List α)}
      (hfirst : FirstAt separator (piece ++ separator ++ rest) piece.length)
      (hrest : IsCut separator rest pieces) :
      IsCut separator (piece ++ separator ++ rest) (piece :: pieces)

theorem IsCut.free_of_separator {separator : List α} (hseparator : separator ≠ [])
    {pieces : List (List α)} (h : IsCut separator text pieces) :
    ∀ piece ∈ pieces, ¬ separator <:+: piece := by
  induction h with
  | last hlast => simpa using hlast
  | more hfirst _ ih =>
      exact List.forall_mem_cons.mpr ⟨hfirst.not_infix_before hseparator, ih⟩

/-- There is one way to cut. -/
theorem IsCut.unique {separator : List α} {pieces others : List (List α)}
    (h : IsCut separator text pieces) (hother : IsCut separator text others) :
    pieces = others := by
  induction h generalizing others with
  | @last piece hlast =>
      cases hother with
      | last => rfl
      | more hfirst _ => exact absurd hfirst.isInfix hlast
  | @more piece rest pieces hfirst _ ih =>
      generalize htext : piece ++ separator ++ rest = text at hother hfirst
      cases hother with
      | last hlast => exact absurd hfirst.isInfix hlast
      | @more other rest' others hother hrest' =>
          have hlength : piece.length = other.length := hfirst.unique hother
          rw [List.append_assoc, List.append_assoc] at htext
          obtain ⟨rfl, hbehind⟩ := List.append_inj htext hlength
          obtain rfl := List.append_cancel_left hbehind
          rw [ih hrest']

/-- Pieces that are put together with the separator between them are found again. -/
theorem isCut_flatMap {a b : α} (hne : a ≠ b) {pieces : List (List α)} {last : List α}
    (hpieces : ∀ piece ∈ pieces, ¬ [a, b] <:+: piece) (hlast : ¬ [a, b] <:+: last) :
    IsCut [a, b] (pieces.flatMap (· ++ [a, b]) ++ last) (pieces ++ [last]) := by
  induction pieces with
  | nil => exact .last hlast
  | cons piece pieces ih =>
      obtain ⟨hpiece, hothers⟩ := List.forall_mem_cons.mp hpieces
      rw [List.flatMap_cons, List.append_assoc (piece ++ [a, b])]
      exact .more (firstAt_pair hne hpiece _) (ih hothers)

/-! ## The search -/

variable [BEq α] [LawfulBEq α]

private theorem firstOccurrenceFrom_sound {passed found : Nat}
    (h : firstOccurrenceFrom pattern passed text = some found) :
    ∃ place, found = passed + place ∧ FirstAt pattern text place := by
  induction text generalizing passed with
  | nil =>
      simp only [firstOccurrenceFrom, List.isEmpty_iff] at h
      split at h
      · next hpattern =>
        cases h
        subst hpattern
        exact ⟨0, rfl, ⟨[], [], rfl, rfl⟩, fun _ _ _ => Nat.zero_le _⟩
      · cases h
  | cons a text ih =>
      rw [firstOccurrenceFrom] at h
      split at h
      · next hpattern =>
        cases h
        rw [List.isPrefixOf_iff_prefix] at hpattern
        obtain ⟨behind, hbehind⟩ := hpattern
        exact ⟨0, rfl, ⟨[], behind, hbehind.symm, rfl⟩, fun _ _ _ => Nat.zero_le _⟩
      · next hpattern =>
        rw [List.isPrefixOf_iff_prefix] at hpattern
        obtain ⟨place, rfl, hplace⟩ := ih h
        obtain ⟨before, behind, htext, rfl⟩ := hplace.occurs
        refine ⟨before.length + 1, by omega, ⟨a :: before, behind, by simp [htext], rfl⟩, ?_⟩
        intro earlier rest hsplit
        cases earlier with
        | nil => exact absurd ⟨rest, hsplit.symm⟩ hpattern
        | cons b earlier =>
            rw [List.cons_append, List.cons_append, List.cons.injEq] at hsplit
            exact Nat.succ_le_succ (hplace.first earlier rest hsplit.2)

private theorem firstOccurrenceFrom_none {passed : Nat}
    (h : firstOccurrenceFrom pattern passed text = none) : ¬ pattern <:+: text := by
  induction text generalizing passed with
  | nil =>
      rintro hstands
      rw [List.infix_nil] at hstands
      simp [firstOccurrenceFrom, hstands] at h
  | cons a text ih =>
      rw [firstOccurrenceFrom] at h
      split at h
      · cases h
      · next hpattern =>
        rw [List.isPrefixOf_iff_prefix] at hpattern
        rw [List.infix_cons_iff]
        exact not_or.mpr ⟨hpattern, ih h⟩

theorem firstOccurrence?_eq_none_iff : firstOccurrence? pattern text = none ↔
    ¬ pattern <:+: text := by
  refine ⟨firstOccurrenceFrom_none, fun h => ?_⟩
  cases hfound : firstOccurrence? pattern text with
  | none => rfl
  | some found =>
      obtain ⟨place, _, hplace⟩ := firstOccurrenceFrom_sound hfound
      exact absurd hplace.isInfix h

/-- The search finds the first place. -/
theorem firstOccurrence?_eq_some_iff {place : Nat} :
    firstOccurrence? pattern text = some place ↔ FirstAt pattern text place := by
  constructor
  · intro h
    obtain ⟨found, hfound, hplace⟩ := firstOccurrenceFrom_sound h
    rw [Nat.zero_add] at hfound
    exact hfound ▸ hplace
  · intro hplace
    cases hfound : firstOccurrence? pattern text with
    | none => exact absurd hplace.isInfix (firstOccurrence?_eq_none_iff.mp hfound)
    | some found =>
        obtain ⟨other, hother, hplace'⟩ := firstOccurrenceFrom_sound hfound
        rw [hother, Nat.zero_add, hplace'.unique hplace]

/-! ## Up to the first occurrence of one element -/

theorem takeWhile_ne_append {a : α} {before : List α} (h : a ∉ before) (behind : List α) :
    (before ++ a :: behind).takeWhile (· != a) = before := by
  rw [List.takeWhile_append_of_pos fun b hb => by
    simpa using fun heq : b = a => h (heq ▸ hb)]
  simp

theorem dropWhile_ne_append {a : α} {before : List α} (h : a ∉ before) (behind : List α) :
    (before ++ a :: behind).dropWhile (· != a) = a :: behind := by
  rw [List.dropWhile_append_of_pos fun b hb => by
    simpa using fun heq : b = a => h (heq ▸ hb)]
  simp

/-! ## Cutting at one character -/

theorem cut_cons_of_ne {separator c : Char} (h : c ≠ separator) {text piece : List Char}
    {others : List (List Char)} (htext : cut separator text = piece :: others) :
    cut separator (c :: text) = (c :: piece) :: others := by
  unfold cut at htext ⊢
  rw [List.foldr_cons, if_neg h, htext]

theorem cut_append {separator : Char} {piece : List Char} (h : separator ∉ piece)
    (rest : List Char) :
    cut separator (piece ++ separator :: rest) = piece :: cut separator rest := by
  induction piece with
  | nil => exact if_pos rfl
  | cons c piece ih =>
      obtain ⟨hne, hpiece⟩ := List.ne_and_not_mem_of_not_mem_cons h
      exact cut_cons_of_ne (Ne.symm hne) (ih hpiece)

/-- Lines that each have the separator behind them are found again. -/
theorem cut_flatMap {separator : Char} {pieces : List (List Char)}
    (h : ∀ piece ∈ pieces, separator ∉ piece) :
    cut separator (pieces.flatMap (· ++ [separator])) = pieces ++ [[]] := by
  induction pieces with
  | nil => rfl
  | cons piece pieces ih =>
      obtain ⟨hpiece, hothers⟩ := List.forall_mem_cons.mp h
      rw [List.flatMap_cons, List.append_assoc, List.singleton_append, cut_append hpiece,
        ih hothers, List.cons_append]

end SharedListener.Text
