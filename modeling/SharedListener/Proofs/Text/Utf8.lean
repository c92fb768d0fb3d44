import Mathlib.Data.List.Induction
import Mathlib.Tactic.SplitIfs
import SharedListener.Text.Utf8

/-!
# Lossy reading and plain characters

Every sequence of octets is read as a text, with replacements where it is not
well formed.  An octet below 0x80 is never part of a longer character: it ends
the character in front of it, finished or not, and is read as itself.  So the
text can be cut at such an octet (`recover_append_plain`).

Conversely a plain character of the text was an octet of its own, since what is
read from longer forms is at least U+0080 or a replacement
(`exists_octet_of_plain`).
-/

namespace SharedListener.Text.Utf8

variable {octets before behind : Bytes} {octet : UInt8} {c : Char}

/-- The characters below U+0080, except the one that stands for numbers without a character. -/
def IsPlain (c : Char) : Prop :=
  0 < c.toNat ∧ c.toNat < 0x80

theorem not_isPlain_replacement : ¬ IsPlain replacement := by
  rw [IsPlain]
  decide

private theorem toNat_ofNat {value : Nat} (h : value.isValidChar) :
    (Char.ofNat value).toNat = value := by
  rw [Char.ofNat, dif_pos h]
  rfl

theorem not_isPlain_ofNat {value : Nat} (h : 0x80 ≤ value) : ¬ IsPlain (Char.ofNat value) := by
  rintro ⟨hpos, hlt⟩
  by_cases hvalid : value.isValidChar
  · rw [toNat_ofNat hvalid] at hlt
    omega
  · -- a number without a character is read as U+0000
    rw [Char.ofNat, dif_neg hvalid] at hpos
    exact absurd hpos (by decide)

/-! ## Unfinished characters -/

/-- Whatever completes the character, its number is at least 0x80. -/
private structure Partial.Long (begun : Partial) : Prop where
  low_le : 0x80 ≤ begun.low
  last : begun.missing = 1 → 2 ≤ begun.value
  next : ∀ octet, begun.low ≤ octet → octet ≤ begun.high → begun.missing ≠ 1 →
    2 ≤ begun.value * 64 + (octet &&& 0x3F).toNat

private theorem bits_of_range : ∀ octet : Fin 256,
    (¬ UInt8.ofNat octet < 0xC2 → UInt8.ofNat octet ≤ 0xDF →
      2 ≤ (UInt8.ofNat octet &&& 0x1F).toNat) ∧
    (¬ UInt8.ofNat octet ≤ 0xDF → UInt8.ofNat octet ≠ 0xE0 → UInt8.ofNat octet ≤ 0xEF →
      1 ≤ (UInt8.ofNat octet &&& 0x0F).toNat) ∧
    (¬ UInt8.ofNat octet ≤ 0xEF → UInt8.ofNat octet ≠ 0xF0 → UInt8.ofNat octet ≤ 0xF4 →
      1 ≤ (UInt8.ofNat octet &&& 0x07).toNat) ∧
    (0x90 ≤ UInt8.ofNat octet → UInt8.ofNat octet ≤ 0xBF →
      2 ≤ (UInt8.ofNat octet &&& 0x3F).toNat) := by
  decide +kernel

/-- A value above zero is at least 64 with the next octet. -/
private theorem long_of_value {value missing : Nat} {low high : UInt8} (hlow : 0x80 ≤ low)
    (hvalue : 1 ≤ value) (hmissing : missing ≠ 1) : Partial.Long ⟨value, missing, low, high⟩ where
  low_le := hlow
  last hlast := absurd hlast hmissing
  next octet _ _ _ := by
    dsimp only
    omega

/-- Behind E0 and F0 the range of the next octet keeps the value up. -/
private theorem long_of_range {value missing : Nat} {low high : UInt8} (hlow : 0x90 ≤ low)
    (hhigh : high ≤ 0xBF) (hmissing : missing ≠ 1) :
    Partial.Long ⟨value, missing, low, high⟩ where
  low_le := UInt8.le_trans (by decide) hlow
  last hlast := absurd hlast hmissing
  next octet hge hle _ := by
    have hbits := (bits_of_range ⟨octet.toNat, octet.toNat_lt⟩).2.2.2
    simp only [UInt8.ofNat_toNat] at hbits
    have := hbits (UInt8.le_trans hlow hge) (UInt8.le_trans hle hhigh)
    dsimp only
    omega

private theorem begin?_long {lead : UInt8} {begun : Partial} (h : begin? lead = some begun) :
    begun.Long := by
  have hbits := bits_of_range ⟨lead.toNat, lead.toNat_lt⟩
  simp only [UInt8.ofNat_toNat] at hbits
  obtain ⟨htwo, hthree, hfour, -⟩ := hbits
  have h80 : (0x80 : UInt8) ≤ 0x80 := UInt8.le_refl _
  unfold begin? at h
  simp only at h
  split_ifs at h with hC2 hDF hE0 hED hEF hF0 hF3 hF4 <;> cases h
  · exact ⟨h80, fun _ => htwo hC2 hDF, fun _ _ _ hmissing => absurd rfl hmissing⟩
  · exact long_of_range (by decide) (by decide) (by decide)
  · exact long_of_value h80 (hthree hDF hE0 (by rw [hED]; decide)) (by decide)
  · exact long_of_value h80 (hthree hDF hE0 hEF) (by decide)
  · exact long_of_range (by decide) (by decide) (by decide)
  · exact long_of_value h80 (hfour hEF hF0 (UInt8.le_trans hF3 (by decide))) (by decide)
  · exact long_of_value h80 (hfour hEF hF0 (by rw [hF4]; decide)) (by decide)

namespace Recovery

private def Sound (reading : Recovery) : Prop :=
  ∀ begun, reading.inside = some begun → begun.Long

private theorem start_sound (done : List Char) (octet : UInt8) : (start done octet).Sound := by
  intro begun hbegun
  unfold start at hbegun
  split_ifs at hbegun
  split at hbegun
  · next hfirst =>
      cases hbegun
      exact begin?_long hfirst
  · cases hbegun

private theorem Sound.step {reading : Recovery} (h : reading.Sound) (octet : UInt8) :
    (reading.step octet).Sound := by
  unfold Recovery.step
  split
  · exact start_sound _ _
  · next begun hbegun =>
      have hlong := h begun hbegun
      split_ifs with hrange hlast
      · exact nofun
      · intro longer hlonger
        cases hlonger
        have hvalue := hlong.next octet hrange.1 hrange.2 hlast
        exact ⟨UInt8.le_refl _, fun _ => hvalue, fun _ _ _ _ => by dsimp only; omega⟩
      · exact start_sound _ _

private theorem foldl_sound (octets : Bytes) : (octets.foldl step {}).Sound := by
  induction octets using List.reverseRecOn with
  | nil => exact nofun
  | append_singleton octets octet ih =>
      rw [List.foldl_append]
      exact ih.step octet

/-! ## One more octet -/

private theorem step_of_plain {reading : Recovery} (h : reading.Sound) (hplain : octet < 0x80) :
    reading.step octet = ⟨Char.ofNat octet.toNat :: reading.text.reverse, none⟩ := by
  unfold Recovery.step text
  cases hinside : reading.inside with
  | none =>
      simp only [start, if_pos hplain, List.reverse_reverse]
  | some begun =>
      have hlow := (h begun hinside).low_le
      have hrange : ¬ (begun.low ≤ octet ∧ octet ≤ begun.high) := by
        rintro ⟨hle, -⟩
        exact absurd hplain (UInt8.not_lt.mpr (UInt8.le_trans hlow hle))
      simp only [if_neg hrange, start, if_pos hplain, List.reverse_reverse]

private theorem text_start (done : List Char) (h : ¬ octet < 0x80) :
    (start done octet).text = done.reverse ++ [replacement] := by
  unfold start
  rw [if_neg h]
  cases begin? octet <;> simp [text]

/-- An octet that is not plain completes a character that is not plain, or it is replaced, perhaps
together with the one in front of it. -/
private theorem text_step_of_not_plain {reading : Recovery} (h : reading.Sound)
    (hother : ¬ octet < 0x80) :
    ∃ kept gone added : List Char, reading.text = kept ++ gone ∧
      (reading.step octet).text = kept ++ added ∧ added ≠ [] ∧
      ∀ c ∈ added, ¬ IsPlain c := by
  have hreplaced : ∀ c ∈ [replacement], ¬ IsPlain c := by
    simpa using not_isPlain_replacement
  refine ⟨reading.done.reverse, ?_⟩
  unfold Recovery.step
  cases hinside : reading.inside with
  | none =>
      refine ⟨[], [replacement], by simp [text, hinside], text_start _ hother, by simp, hreplaced⟩
  | some begun =>
      have hlong := h begun hinside
      refine ⟨[replacement], ?_⟩
      have htext : reading.text = reading.done.reverse ++ [replacement] := by
        simp [text, hinside]
      simp only
      split_ifs with hrange hlast
      · have hvalue : 0x80 ≤ begun.value * 64 + (octet &&& 0x3F).toNat := by
          have := hlong.last hlast
          omega
        refine ⟨[_], htext, by rw [text, List.reverse_cons], by simp, ?_⟩
        simpa using not_isPlain_ofNat hvalue
      · exact ⟨[replacement], htext, by simp [text], by simp, hreplaced⟩
      · refine ⟨[replacement, replacement], htext, ?_, by simp, ?_⟩
        · rw [text_start _ hother]
          simp
        · simpa using not_isPlain_replacement

/-! ## What has been read stays -/

private theorem step_behind (reading : Recovery) (done : List Char) (octet : UInt8) :
    Recovery.step ⟨reading.done ++ done, reading.inside⟩ octet =
      ⟨(reading.step octet).done ++ done, (reading.step octet).inside⟩ := by
  have hstart (earlier : List Char) : start (earlier ++ done) octet =
      ⟨(start earlier octet).done ++ done, (start earlier octet).inside⟩ := by
    unfold start
    split_ifs
    · rfl
    · cases begin? octet <;> rfl
  unfold Recovery.step
  cases reading.inside with
  | none => exact hstart reading.done
  | some begun =>
      simp only
      split_ifs
      · rfl
      · rfl
      · exact hstart (replacement :: reading.done)

private theorem text_foldl_behind (done : List Char) (octets : Bytes) :
    (octets.foldl step ⟨done, none⟩).text = done.reverse ++ recover octets := by
  have hbehind : octets.foldl step ⟨done, none⟩ =
      ⟨(octets.foldl step {}).done ++ done, (octets.foldl step {}).inside⟩ := by
    induction octets using List.reverseRecOn with
    | nil => rfl
    | append_singleton octets octet ih =>
        rw [List.foldl_append, List.foldl_append, ih]
        exact step_behind _ done octet
  rw [hbehind, recover]
  unfold text
  cases (octets.foldl step {}).inside <;> simp

end Recovery

open Recovery

/-! ## Cutting at plain octets -/

@[simp] theorem recover_nil : recover [] = [] := rfl

/-- The text can be cut at an octet below 0x80, which is read as itself. -/
theorem recover_append_plain (before behind : Bytes) (hplain : octet < 0x80) :
    recover (before ++ octet :: behind) =
      recover before ++ Char.ofNat octet.toNat :: recover behind := by
  rw [recover, List.foldl_append, List.foldl_cons, step_of_plain (foldl_sound before) hplain,
    text_foldl_behind]
  simp [recover]

theorem recover_cons_plain (behind : Bytes) (hplain : octet < 0x80) :
    recover (octet :: behind) = Char.ofNat octet.toNat :: recover behind :=
  recover_append_plain [] behind hplain

/-- Every octet adds something to the text, a plain one itself and no other one anything plain. -/
private theorem recover_concat (octets : Bytes) (octet : UInt8) :
    octet < 0x80 ∧ recover (octets ++ [octet]) = recover octets ++ [Char.ofNat octet.toNat] ∨
      ∃ kept gone added : List Char, recover octets = kept ++ gone ∧
        recover (octets ++ [octet]) = kept ++ added ∧ added ≠ [] ∧ ∀ c ∈ added, ¬ IsPlain c := by
  by_cases hplain : octet < 0x80
  · exact .inl ⟨hplain, recover_append_plain octets [] hplain⟩
  · right
    have hstep := text_step_of_not_plain (foldl_sound octets) hplain
    have hconcat : (octets ++ [octet]).foldl step {} = (octets.foldl step {}).step octet :=
      by
      rw [List.foldl_append, List.foldl_cons, List.foldl_nil]
    rwa [← hconcat] at hstep

theorem recover_eq_nil_iff : recover octets = [] ↔ octets = [] := by
  refine ⟨fun h => ?_, fun h => h ▸ recover_nil⟩
  rcases List.eq_nil_or_concat octets with rfl | ⟨before, octet, rfl⟩
  · rfl
  · rw [List.concat_eq_append] at h
    rcases recover_concat before octet with ⟨-, htext⟩ | ⟨kept, gone, added, -, htext, hne, -⟩
    · simp [htext] at h
    · exact absurd (List.append_eq_nil_iff.mp (htext.symm.trans h)).2 hne

/-- An element of two lists put together stands in the first or in the second. -/
private theorem split_or_split {α : Type} {first second before behind : List α} {a : α}
    (h : first ++ second = before ++ a :: behind) :
    (∃ rest, first = before ++ a :: rest) ∨
      ∃ middle, second = middle ++ a :: behind ∧ before = first ++ middle := by
  rcases List.append_eq_append_iff.mp h with ⟨middle, hbefore, hsecond⟩ | ⟨rest, hfirst, hrest⟩
  · exact .inr ⟨middle, hsecond, hbefore⟩
  · cases rest with
    | nil => exact .inr ⟨[], hrest.symm, by simp [hfirst]⟩
    | cons b rest =>
        obtain ⟨rfl, -⟩ := List.cons.inj hrest
        exact .inl ⟨rest, hfirst⟩

/-- A plain character was an octet, and the text in front of it was in front of the octet. -/
theorem exists_octet_of_plain (hplain : IsPlain c) {before behind : List Char}
    (h : recover octets = before ++ c :: behind) :
    ∃ front octet back, octets = front ++ octet :: back ∧ octet.toNat = c.toNat ∧
      recover front = before ∧ recover back = behind := by
  -- it is enough to find the octet, since the text can be cut there
  suffices hfound : ∃ front octet back, octets = front ++ octet :: back ∧
      octet.toNat = c.toNat ∧ recover front = before by
    obtain ⟨front, octet, back, rfl, hoctet, rfl⟩ := hfound
    have hlow : octet < 0x80 := UInt8.lt_iff_toNat_lt.mpr (hoctet ▸ hplain.2)
    rw [recover_append_plain front back hlow] at h
    exact ⟨front, octet, back, rfl, hoctet, rfl,
      (List.cons.inj (List.append_cancel_left h)).2⟩
  induction octets using List.reverseRecOn generalizing behind with
  | nil => simp at h
  | append_singleton octets octet ih =>
      -- the character stands in the text of the octets before, or it is the last octet
      have hcases : (∃ rest, recover octets = before ++ c :: rest) ∨
          recover octets = before ∧ Char.ofNat octet.toNat = c ∧ octet < 0x80 := by
        rcases recover_concat octets octet with
          ⟨hlow, htext⟩ | ⟨kept, gone, added, hbefore, htext, -, hadded⟩
        · rcases split_or_split (htext.symm.trans h) with ⟨rest, hrest⟩ | ⟨middle, hmiddle, rfl⟩
          · exact .inl ⟨rest, hrest⟩
          · cases middle with
            | nil => exact .inr ⟨by simp, (List.cons.inj hmiddle).1, hlow⟩
            | cons => simp at hmiddle
        · rcases split_or_split (htext.symm.trans h) with ⟨rest, hrest⟩ | ⟨middle, hmiddle, rfl⟩
          · exact .inl ⟨rest ++ gone, by rw [hbefore, hrest]; simp⟩
          · exact absurd hplain (hadded c (by simp [hmiddle]))
      rcases hcases with ⟨rest, hrest⟩ | ⟨rfl, rfl, hlow⟩
      · obtain ⟨front, found, back, rfl, hfound, hfront⟩ := ih hrest
        exact ⟨front, found, back ++ [octet], by simp, hfound, hfront⟩
      · refine ⟨octets, octet, [], rfl, ?_, rfl⟩
        have := octet.toNat_lt
        exact (toNat_ofNat (.inl (by omega))).symm

end SharedListener.Text.Utf8
