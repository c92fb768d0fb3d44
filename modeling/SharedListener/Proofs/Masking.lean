import Mathlib.Data.List.Rotate
import SharedListener.Masking

/-!
# The two forms of masking

`Masking.apply` states the rule by position, and `Masking.appendUnmasked` turns
the key by one place for each octet that it adds.  They agree: a key that has
been turned `i` times begins with its octet for position `i`.

For the same reason a payload may be masked in parts (`apply_append`): the part
behind the first `n` octets is masked with the key rotated by `n` places, and
four places are a full turn.  Positions count from the start of the payload,
whatever stands in front of it in the buffer (`apply_in_phase`).
-/

namespace SharedListener.Masking

namespace Key

theorem octet_zero (key : Key) : key.octet 0 = key.first := rfl

theorem octet_turn (key : Key) (i : Nat) : key.turn.octet i = key.octet (i + 1) := by
  unfold octet turn
  have : i % 4 = 0 ∨ i % 4 = 1 ∨ i % 4 = 2 ∨ i % 4 = 3 := by omega
  rcases this with h | h | h | h <;> simp [h, Nat.add_mod]

/-- The key repeats after four positions. -/
theorem octet_congr (key : Key) {i j : Nat} (h : i % 4 = j % 4) : key.octet i = key.octet j := by
  unfold octet
  rw [h]

/-- The key `places` positions further on: its octets move to the left, and those that leave at
the front come in again at the back. -/
def rotateLeft (key : Key) (places : Nat) : Key :=
  turn^[places] key

theorem rotateLeft_succ (key : Key) (places : Nat) :
    key.rotateLeft (places + 1) = key.turn.rotateLeft places := rfl

theorem wire_turn (key : Key) : key.turn.wire = key.wire.rotate 1 := rfl

theorem wire_rotateLeft (key : Key) (places : Nat) :
    (key.rotateLeft places).wire = key.wire.rotate places := by
  induction places generalizing key with
  | zero => exact (List.rotate_zero key.wire).symm
  | succ places ih =>
      rw [rotateLeft_succ, ih, wire_turn, List.rotate_rotate, Nat.add_comm 1 places]

theorem octet_rotateLeft (key : Key) (places i : Nat) :
    (key.rotateLeft places).octet i = key.octet (places + i) := by
  induction places generalizing key with
  | zero => rw [Nat.zero_add, rotateLeft, Function.iterate_zero_apply]
  | succ places ih =>
      rw [rotateLeft_succ, ih, octet_turn]
      apply octet_congr
      omega

end Key

theorem apply_nil (key : Key) : apply key [] = [] := rfl

theorem apply_cons (key : Key) (octet : UInt8) (data : Bytes) :
    apply key (octet :: data) = (octet ^^^ key.first) :: apply key.turn data := by
  simp only [apply, List.mapIdx_cons, Key.octet_zero, Key.octet_turn]

/-- What is unmasked is added behind what is there already. -/
theorem appendUnmasked_eq (out : Bytes) (key : Key) (masked : Bytes) :
    appendUnmasked out key masked = out ++ apply key masked := by
  have hfold : ∀ (masked : Bytes) (done : Array UInt8) (key : Key),
      (masked.foldl (fun state octet =>
          (state.1.push (octet ^^^ state.2.first), state.2.turn)) (done, key)).1.toList =
        done.toList ++ apply key masked := by
    intro masked
    induction masked with
    | nil => intro done key; simp [apply_nil]
    | cons octet masked ih => intro done key; simp [ih, apply_cons]
  exact hfold masked out.toArray key

/-! ## By position -/

theorem getElem?_apply (key : Key) (data : Bytes) (i : Nat) :
    (apply key data)[i]? = data[i]?.map (· ^^^ key.octet i) :=
  List.getElem?_mapIdx

/-- The second mask takes the first one off, octet by octet. -/
theorem apply_apply (key : Key) (data : Bytes) : apply key (apply key data) = data := by
  apply List.ext_getElem?
  intro i
  have hoctet : ∀ octet : UInt8, octet ^^^ key.octet i ^^^ key.octet i = octet := by
    intro octet
    rw [UInt8.xor_assoc, UInt8.xor_self, UInt8.xor_zero]
  rw [getElem?_apply, getElem?_apply, Option.map_map]
  cases data[i]? with
  | none => rfl
  | some octet => exact congrArg some (hoctet octet)

/-- The part behind `front` is masked with the key in its phase there. -/
theorem apply_append (key : Key) (front back : Bytes) :
    apply key (front ++ back) =
      apply key front ++ apply (key.rotateLeft (front.length % 4)) back := by
  have hphase : ∀ i,
      (key.rotateLeft (front.length % 4)).octet i = key.octet (i + front.length) := by
    intro i
    calc (key.rotateLeft (front.length % 4)).octet i
        = key.octet (front.length % 4 + i) := key.octet_rotateLeft _ i
      _ = key.octet (i + front.length) := key.octet_congr (by omega)
  simp only [apply, List.mapIdx_append, hphase]

/-- **The two forms of masking agree, undo themselves and keep their phase.**  Octet `i` of a
payload meets octet `i mod 4` of the key.  Unmasking into a buffer leaves what is there as it is and
adds exactly the masked payload behind it.  Masking twice with one key gives the payload back.  A
payload that is cut anywhere is masked in two parts, the second with the key rotated to the left by
the length of the first, modulo four. -/
theorem apply_in_phase (key : Key) :
    (∀ data (i : Nat), (apply key data)[i]? = data[i]?.map (· ^^^ key.octet i)) ∧
    (∀ out data, appendUnmasked out key data = out ++ apply key data) ∧
    (∀ data, apply key (apply key data) = data) ∧
    (∀ front back, apply key (front ++ back) =
      apply key front ++ apply (key.rotateLeft (front.length % 4)) back) ∧
    (∀ places, (key.rotateLeft places).wire = key.wire.rotate places) := by
  refine ⟨getElem?_apply key, ?_, apply_apply key, apply_append key, key.wire_rotateLeft⟩
  intro out data
  exact appendUnmasked_eq out key data

/-- The word "Hello" under a mask. -/
example : apply ⟨0x37, 0xFA, 0x21, 0x3D⟩ [0x48, 0x65, 0x6C, 0x6C, 0x6F] =
    [0x7F, 0x9F, 0x4D, 0x51, 0x58] := by
  decide

end SharedListener.Masking
