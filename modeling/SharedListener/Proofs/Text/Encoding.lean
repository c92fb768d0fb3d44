import Mathlib.Tactic.SplitIfs
import SharedListener.Text.Utf8

/-!
# Text that was written as UTF-8

The octets of a text are read back as the text (`recover_encode`).  The lead octet
of a character says how many others there are and what the first of them may be,
and the octets carry the number of the character in groups of six bits.
-/

namespace SharedListener.Text.Utf8

namespace Recovery

/-! ## Lead octets -/

private theorem start_of_begin {lead : UInt8} {begun : Partial}
    (h : begin? lead = some begun ∧ ¬ lead < 0x80) (done : List Char) :
    start done lead = ⟨done, some begun⟩ := by
  rw [start, if_neg h.2, h.1]

private theorem begin_two : ∀ bits : Fin 32, 2 ≤ bits.val →
    begin? (UInt8.ofNat (bits + 192)) = some ⟨bits, 1, 0x80, 0xBF⟩ ∧
      ¬ UInt8.ofNat (bits + 192) < 0x80 := by
  decide +kernel

private theorem begin_three : ∀ bits : Fin 16,
    begin? (UInt8.ofNat (bits + 224)) =
      some ⟨bits, 2, if bits.val = 0 then 0xA0 else 0x80, if bits.val = 13 then 0x9F else 0xBF⟩ ∧
      ¬ UInt8.ofNat (bits + 224) < 0x80 := by
  decide +kernel

private theorem begin_four : ∀ bits : Fin 5,
    begin? (UInt8.ofNat (bits + 240)) =
      some ⟨bits, 3, if bits.val = 0 then 0x90 else 0x80, if bits.val = 4 then 0x8F else 0xBF⟩ ∧
      ¬ UInt8.ofNat (bits + 240) < 0x80 := by
  decide +kernel

/-! ## Octets that continue a character -/

private theorem bits_of_continuation : ∀ bits : Fin 64,
    (UInt8.ofNat (bits + 128) &&& 0x3F).toNat = bits ∧
      (UInt8.ofNat (bits + 128)).toNat = bits + 128 := by
  decide +kernel

section Continuation

variable (done : List Char) {value bits : Nat} {low high : UInt8} (hbits : bits < 64)
  (hlow : low.toNat ≤ bits + 128) (hhigh : bits + 128 ≤ high.toNat)
include hbits hlow hhigh

/-- Six more bits of a character. -/
private theorem step_of_continuation (missing : Nat) :
    step ⟨done, some ⟨value, missing, low, high⟩⟩ (UInt8.ofNat (bits + 128)) =
      if missing = 1 then ⟨Char.ofNat (value * 64 + bits) :: done, none⟩
      else ⟨done, some ⟨value * 64 + bits, missing - 1, 0x80, 0xBF⟩⟩ := by
  obtain ⟨hvalue, hoctet⟩ := bits_of_continuation ⟨bits, hbits⟩
  dsimp only at hvalue hoctet
  have hrange : low ≤ UInt8.ofNat (bits + 128) ∧ UInt8.ofNat (bits + 128) ≤ high := by
    rw [UInt8.le_iff_toNat_le, UInt8.le_iff_toNat_le, hoctet]
    exact ⟨hlow, hhigh⟩
  unfold step
  simp only [if_pos hrange, hvalue]

private theorem step_last :
    step ⟨done, some ⟨value, 1, low, high⟩⟩ (UInt8.ofNat (bits + 128)) =
      ⟨Char.ofNat (value * 64 + bits) :: done, none⟩ :=
  step_of_continuation done hbits hlow hhigh 1

private theorem step_more (missing : Nat) :
    step ⟨done, some ⟨value, missing + 2, low, high⟩⟩ (UInt8.ofNat (bits + 128)) =
      ⟨done, some ⟨value * 64 + bits, missing + 1, 0x80, 0xBF⟩⟩ :=
  step_of_continuation done hbits hlow hhigh (missing + 2)

end Continuation

/-- What follows a first octet with six bits may be any octet that continues a character. -/
private theorem low_le (bits : Nat) : (0x80 : UInt8).toNat ≤ bits + 128 :=
  Nat.le_add_left 128 bits

private theorem le_high {bits : Nat} (h : bits < 64) : bits + 128 ≤ (0xBF : UInt8).toNat := by
  change bits + 128 ≤ 191
  omega

/-! ## Whole characters -/

section Character

variable (done : List Char) {number : Nat}

private theorem read_one (h : number ≤ 0x7F) :
    start done (UInt8.ofNat number) = ⟨Char.ofNat number :: done, none⟩ := by
  have hoctet : (UInt8.ofNat number).toNat = number := by
    rw [UInt8.toNat_ofNat']
    omega
  have hplain : UInt8.ofNat number < 0x80 := by
    rw [UInt8.lt_iff_toNat_lt, hoctet]
    exact Nat.lt_succ_of_le h
  rw [start, if_pos hplain, hoctet]

private theorem read_two (hlow : 0x7F < number) (hhigh : number ≤ 0x7FF) :
    step (start done (UInt8.ofNat (number / 64 % 32 + 192))) (UInt8.ofNat (number % 64 + 128)) =
      ⟨Char.ofNat number :: done, none⟩ := by
  have hlead := begin_two ⟨number / 64 % 32, by omega⟩ (by dsimp only; omega)
  have hall : number / 64 % 32 * 64 + number % 64 = number := by omega
  rw [start_of_begin hlead, step_last done (by omega) (low_le _) (le_high (by omega)), hall]

private theorem read_three (hlow : 0x7FF < number) (hhigh : number ≤ 0xFFFF)
    (hchar : number < 0xD800 ∨ 0xDFFF < number) :
    step (step (start done (UInt8.ofNat (number / 4096 % 16 + 224)))
        (UInt8.ofNat (number / 64 % 64 + 128))) (UInt8.ofNat (number % 64 + 128)) =
      ⟨Char.ofNat number :: done, none⟩ := by
  have hlead := begin_three ⟨number / 4096 % 16, by omega⟩
  have hall : (number / 4096 % 16 * 64 + number / 64 % 64) * 64 + number % 64 = number := by
    omega
  -- the second octet rules out what has a shorter form, and the surrogates
  have hfirst : (if number / 4096 % 16 = 0 then 0xA0 else 0x80 : UInt8).toNat ≤
      number / 64 % 64 + 128 := by
    split_ifs
    · change 160 ≤ _
      omega
    · exact low_le _
  have hlast : number / 64 % 64 + 128 ≤
      (if number / 4096 % 16 = 13 then 0x9F else 0xBF : UInt8).toNat := by
    split_ifs
    · change _ ≤ 159
      omega
    · exact le_high (by omega)
  rw [start_of_begin hlead, step_more done (by omega) hfirst hlast 0,
    step_last done (by omega) (low_le _) (le_high (by omega)), hall]

private theorem read_four (hlow : 0xFFFF < number) (hhigh : number < 0x110000) :
    step (step (step (start done (UInt8.ofNat (number / 262144 % 8 + 240)))
        (UInt8.ofNat (number / 4096 % 64 + 128))) (UInt8.ofNat (number / 64 % 64 + 128)))
        (UInt8.ofNat (number % 64 + 128)) =
      ⟨Char.ofNat number :: done, none⟩ := by
  have hlead := begin_four ⟨number / 262144 % 8, by omega⟩
  have hall : ((number / 262144 % 8 * 64 + number / 4096 % 64) * 64 + number / 64 % 64) * 64 +
      number % 64 = number := by
    omega
  -- the second octet rules out what has a shorter form, and what is above the last character
  have hfirst : (if number / 262144 % 8 = 0 then 0x90 else 0x80 : UInt8).toNat ≤
      number / 4096 % 64 + 128 := by
    split_ifs
    · change 144 ≤ _
      omega
    · exact low_le _
  have hlast : number / 4096 % 64 + 128 ≤
      (if number / 262144 % 8 = 4 then 0x8F else 0xBF : UInt8).toNat := by
    split_ifs
    · change _ ≤ 143
      omega
    · exact le_high (by omega)
  rw [start_of_begin hlead, step_more done (by omega) hfirst hlast 1,
    step_more done (by omega) (low_le _) (le_high (by omega)) 0,
    step_last done (by omega) (low_le _) (le_high (by omega)), hall]

/-- The octets of a character are read as the character. -/
private theorem foldl_step_encodeChar (c : Char) :
    (String.utf8EncodeChar c).foldl step ⟨done, none⟩ = ⟨c :: done, none⟩ := by
  have hvalid : c.val.toNat < 0xD800 ∨ 0xDFFF < c.val.toNat ∧ c.val.toNat < 0x110000 := c.valid
  have hnumber : Char.ofNat c.val.toNat = c := Char.ofNat_toNat c
  unfold String.utf8EncodeChar
  generalize c.val.toNat = number at hvalid hnumber
  subst hnumber
  dsimp only
  split_ifs with hone htwo hthree
  · exact read_one done hone
  · have hlow : 0x7F < number := Nat.lt_of_not_le hone
    exact read_two done hlow htwo
  · have hlow : 0x7FF < number := Nat.lt_of_not_le htwo
    exact read_three done hlow hthree (by omega)
  · have hlow : 0xFFFF < number := Nat.lt_of_not_le hthree
    exact read_four done hlow (by omega)

end Character

private theorem foldl_step_encode (done text : List Char) :
    (encode text).foldl step ⟨done, none⟩ = ⟨text.reverse ++ done, none⟩ := by
  induction text generalizing done with
  | nil => rfl
  | cons c text ih =>
      show (String.utf8EncodeChar c ++ encode text).foldl step ⟨done, none⟩ = _
      rw [List.foldl_append, foldl_step_encodeChar, ih]
      simp

end Recovery

/-- The octets of a text are read as the text. -/
theorem recover_encode (text : List Char) : recover (encode text) = text := by
  rw [recover, Recovery.foldl_step_encode]
  simp [Recovery.text]

end SharedListener.Text.Utf8
