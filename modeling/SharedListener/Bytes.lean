/-!
# Bytes on the wire

A socket carries octets.  They are kept as a list, so that a stream cut into
reads is put together again by `++`.  The two functions here are the big-endian
reading and writing of a number, which frame lengths and digests both use.
-/

namespace SharedListener

/-- What a socket carries: a finite sequence of octets. -/
abbrev Bytes := List UInt8

namespace Bytes

/-- The number that `octets` write, most significant octet first. -/
def toNat (octets : Bytes) : Nat :=
  octets.foldl (fun number octet => number * 256 + octet.toNat) 0

/-- The `width` low-order octets of `number`, most significant first. -/
def ofNat (width number : Nat) : Bytes :=
  (List.range width).reverse.map fun place => (number >>> (8 * place)).toUInt8

@[simp] theorem length_ofNat (width number : Nat) : (ofNat width number).length = width := by
  simp [ofNat]

end Bytes

end SharedListener
