import SharedListener.Bytes

/-!
# Masking of payloads

A client may hide a payload behind a key of four octets: octet `i` of the masked
data is octet `i` of the data XOR octet `i mod 4` of the key.  Masking twice with
one key gives the data back, so one transform serves both directions.

`apply` states the rule by position.  `appendUnmasked` is the form a reader uses,
which adds to what is already there and turns the key by one place per octet.
-/

namespace SharedListener.Masking

/-- The four octets of a masking key, in the order of the wire. -/
structure Key where
  first : UInt8
  second : UInt8
  third : UInt8
  fourth : UInt8
deriving DecidableEq, Repr

namespace Key

/-- The octet that masks position `i` of a payload. -/
def octet (key : Key) (i : Nat) : UInt8 :=
  match i % 4 with
  | 0 => key.first
  | 1 => key.second
  | 2 => key.third
  | _ => key.fourth

/-- The key one position further on. -/
def turn (key : Key) : Key :=
  ⟨key.second, key.third, key.fourth, key.first⟩

/-- The octets of the key as they stand on the wire. -/
def wire (key : Key) : Bytes :=
  [key.first, key.second, key.third, key.fourth]

end Key

/-- Masks `data`, or takes the mask off again. -/
def apply (key : Key) (data : Bytes) : Bytes :=
  data.mapIdx fun i octet => octet ^^^ key.octet i

/-- Adds the unmasked form of `masked` behind `out`. -/
def appendUnmasked (out : Bytes) (key : Key) (masked : Bytes) : Bytes :=
  (masked.foldl (fun (done, turned) octet => (done.push (octet ^^^ turned.first), turned.turn))
    (out.toArray, key)).1.toList

end SharedListener.Masking
