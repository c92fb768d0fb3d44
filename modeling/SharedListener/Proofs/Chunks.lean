import Mathlib.Data.List.Induction
import SharedListener.Bytes

/-!
# A stream cut into chunks

`Bytes.upTo chunks count` is what has been received after `count` chunks.  It
grows with the count to the whole stream.
-/

namespace SharedListener.Bytes

variable {chunks : List Bytes}

/-- What has been received after the first `count` chunks. -/
def upTo (chunks : List Bytes) (count : Nat) : Bytes :=
  (chunks.take count).flatten

theorem upTo_of_length_le {count : Nat} (h : chunks.length ≤ count) :
    upTo chunks count = chunks.flatten := by
  rw [upTo, List.take_of_length_le h]

theorem upTo_append_of_le {count : Nat} (h : count ≤ chunks.length) (more : List Bytes) :
    upTo (chunks ++ more) count = upTo chunks count := by
  rw [upTo, List.take_append_of_le_length h, upTo]

theorem upTo_take {few many : Nat} (h : few ≤ many) (chunks : List Bytes) :
    upTo (chunks.take many) few = upTo chunks few := by
  rw [upTo, List.take_take, Nat.min_eq_left h, upTo]

theorem upTo_prefix_upTo {few many : Nat} (h : few ≤ many) :
    upTo chunks few <+: upTo chunks many := by
  refine ⟨((chunks.take many).drop few).flatten, ?_⟩
  rw [upTo, upTo, ← List.flatten_append]
  congr 1
  have := List.take_append_drop few (chunks.take many)
  rwa [List.take_take, Nat.min_eq_left h] at this

theorem upTo_prefix_flatten (chunks : List Bytes) (count : Nat) :
    upTo chunks count <+: chunks.flatten := by
  refine ⟨(chunks.drop count).flatten, ?_⟩
  rw [upTo, ← List.flatten_append, List.take_append_drop]

theorem length_upTo_mono (chunks : List Bytes) {few many : Nat} (h : few ≤ many) :
    (upTo chunks few).length ≤ (upTo chunks many).length :=
  (upTo_prefix_upTo h).length_le

theorem upTo_succ {count : Nat} (h : count < chunks.length) :
    upTo chunks (count + 1) = upTo chunks count ++ chunks[count] := by
  rw [upTo, List.take_succ_eq_append_getElem h, List.flatten_append, upTo]
  simp

end SharedListener.Bytes
