import SharedListener.Bytes

/-!
# Base64

The standard alphabet of RFC 4648: three octets become four characters, and the
last group is filled up with `=`.
-/

namespace SharedListener.Digest.Base64

/-- The character for six bits. -/
def digit (bits : Nat) : Char :=
  if bits < 26 then Char.ofNat ('A'.toNat + bits)
  else if bits < 52 then Char.ofNat ('a'.toNat + (bits - 26))
  else if bits < 62 then Char.ofNat ('0'.toNat + (bits - 52))
  else if bits = 62 then '+'
  else '/'

/-- The six bits of `number` that stand `place` digits from its end. -/
def digitAt (number place : Nat) : Char :=
  digit ((number >>> (6 * place)) % 64)

/-- The characters for a sequence of octets. -/
def encode : Bytes → List Char
  | a :: b :: c :: rest =>
    let number := Bytes.toNat [a, b, c]
    digitAt number 3 :: digitAt number 2 :: digitAt number 1 :: digitAt number 0 :: encode rest
  | [a, b] =>
    let number := Bytes.toNat [a, b, 0]
    [digitAt number 3, digitAt number 2, digitAt number 1, '=']
  | [a] =>
    let number := Bytes.toNat [a, 0, 0]
    [digitAt number 3, digitAt number 2, '=', '=']
  | [] => []

/-- The characters that Base64 texts are made of, the one that fills them up in front. -/
def alphabet : List Char :=
  "=ABCDEFGHIJKLMNOPQRSTUVWXYZabcdefghijklmnopqrstuvwxyz0123456789+/".toList

private theorem digit_mem_alphabet : ∀ bits : Fin 64, digit bits ∈ alphabet := by
  decide +kernel

private theorem digitAt_mem_alphabet (number place : Nat) : digitAt number place ∈ alphabet :=
  digit_mem_alphabet ⟨(number >>> (6 * place)) % 64, Nat.mod_lt _ (by decide)⟩

private theorem filler_mem_alphabet : '=' ∈ alphabet := by
  decide

theorem mem_alphabet_of_mem_encode (octets : Bytes) : ∀ c ∈ encode octets, c ∈ alphabet := by
  fun_induction encode octets with
  | case1 a b c rest number ih => simpa [digitAt_mem_alphabet] using ih
  | case2 a b number => simp [digitAt_mem_alphabet, filler_mem_alphabet]
  | case3 a number => simp [digitAt_mem_alphabet, filler_mem_alphabet]
  | case4 => simp

/-- Every three octets, the last ones filled up, become four characters. -/
theorem length_encode (octets : Bytes) :
    (encode octets).length = 4 * ((octets.length + 2) / 3) := by
  fun_induction encode octets with
  | case1 a b c rest number ih =>
      simp only [List.length_cons, ih]
      omega
  | case2 a b number => simp
  | case3 a number => simp
  | case4 => simp

end SharedListener.Digest.Base64
