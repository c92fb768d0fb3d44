import Mathlib.Algebra.GroupWithZero.Nat
import Mathlib.Data.List.Induction
import SharedListener.Bytes

/-!
# Numbers written as octets

`Bytes.ofNat` and `Bytes.toNat` undo each other in both directions: a number
that fits its octets is read back, and octets are written again as they were.
So a number field has exactly one written form of each width, which is what
makes a header that is read from the wire the header that was sent.
-/

namespace SharedListener.Bytes

theorem toNat_append_singleton (octets : Bytes) (octet : UInt8) :
    toNat (octets ++ [octet]) = toNat octets * 256 + octet.toNat := by
  simp [toNat]

theorem ofNat_eq (width number : Nat) :
    ofNat width number =
      (List.range width).reverse.map fun place => (number / 256 ^ place).toUInt8 := by
  unfold ofNat
  apply List.map_congr_left
  intro place _
  rw [Nat.shiftRight_eq_div_pow, Nat.pow_mul]

theorem ofNat_succ (width number : Nat) :
    ofNat (width + 1) number = ofNat width (number / 256) ++ [number.toUInt8] := by
  rw [ofNat_eq, ofNat_eq, List.range_succ_eq_map, List.reverse_cons, List.map_append,
    ← List.map_reverse, List.map_map]
  congr 1
  · apply List.map_congr_left
    intro place _
    simp [Nat.pow_succ, Nat.div_div_eq_div_mul, Nat.mul_comm]
  · simp

theorem toNat_lt (octets : Bytes) : toNat octets < 256 ^ octets.length := by
  induction octets using List.reverseRecOn with
  | nil => simp [toNat]
  | append_singleton octets octet ih =>
      have hoctet : octet.toNat < 256 := octet.toNat_lt
      rw [toNat_append_singleton, List.length_append, List.length_singleton, Nat.pow_succ]
      omega

/-- A number that fits the octets is read back. -/
theorem toNat_ofNat {width number : Nat} (h : number < 256 ^ width) :
    toNat (ofNat width number) = number := by
  induction width generalizing number with
  | zero =>
      have : number = 0 := by simpa using h
      simp [ofNat, toNat, this]
  | succ width ih =>
      have hquotient : number / 256 < 256 ^ width :=
        Nat.div_lt_of_lt_mul (by rwa [Nat.pow_succ, Nat.mul_comm] at h)
      rw [ofNat_succ, toNat_append_singleton, ih hquotient]
      simp
      omega

/-- Octets are the written form of the number that they write. -/
theorem ofNat_toNat (octets : Bytes) : ofNat octets.length (toNat octets) = octets := by
  induction octets using List.reverseRecOn with
  | nil => rfl
  | append_singleton octets octet ih =>
      have hoctet : octet.toNat < 256 := octet.toNat_lt
      have hquotient : (toNat octets * 256 + octet.toNat) / 256 = toNat octets := by omega
      rw [List.length_append, List.length_singleton, ofNat_succ, toNat_append_singleton,
        hquotient, ih]
      congr 2
      apply UInt8.toNat_inj.mp
      simp

end SharedListener.Bytes
