import SharedListener.Bytes

/-!
# SHA-1

The hash of FIPS 180-4: the message is padded to blocks of 64 octets, each block
is spread to eighty words, and eighty rounds mix them into five chaining words.
The chaining words are a structure, so a digest has twenty octets by its making.
-/

namespace SharedListener.Digest.Sha1

/-- The five chaining words. -/
structure Chain where
  a : UInt32
  b : UInt32
  c : UInt32
  d : UInt32
  e : UInt32
deriving DecidableEq, Repr

/-- The chaining words before the first block. -/
def initial : Chain :=
  ⟨0x67452301, 0xEFCDAB89, 0x98BADCFE, 0x10325476, 0xC3D2E1F0⟩

/-- Turns a word left by `count` bits, for a count between 1 and 31. -/
def rotateLeft (word count : UInt32) : UInt32 :=
  (word <<< count) ||| (word >>> (32 - count))

/-- The message followed by a set bit, zeros, and its length in bits, in whole blocks. -/
def pad (message : Bytes) : Bytes :=
  let length := message.length
  message ++ 0x80 :: (List.replicate ((119 - length % 64) % 64) 0 ++ Bytes.ofNat 8 (length * 8))

/-- The pieces of `width` that a list begins with, `count` of them. -/
def pieces {α : Type} (width : Nat) : Nat → List α → List (List α)
  | 0, _ => []
  | count + 1, items => items.take width :: pieces width count (items.drop width)

/-- The eighty words of a block: its own sixteen, then each from four earlier ones. -/
def schedule (block : Bytes) : Array UInt32 :=
  let own := ((pieces 4 16 block).map fun octets => (Bytes.toNat octets).toUInt32).toArray
  (List.range 64).foldl
    (fun words i =>
      words.push (rotateLeft (words.getD (i + 13) 0 ^^^ words.getD (i + 8) 0 ^^^
        words.getD (i + 2) 0 ^^^ words.getD i 0) 1))
    own

/-- The function of the second, third and fourth word that round `i` uses. -/
def mix (i : Nat) (b c d : UInt32) : UInt32 :=
  if i < 20 then (b &&& c) ||| (~~~b &&& d)
  else if i < 40 then b ^^^ c ^^^ d
  else if i < 60 then (b &&& c) ||| (b &&& d) ||| (c &&& d)
  else b ^^^ c ^^^ d

/-- The constant that round `i` adds. -/
def constant (i : Nat) : UInt32 :=
  if i < 20 then 0x5A827999
  else if i < 40 then 0x6ED9EBA1
  else if i < 60 then 0x8F1BBCDC
  else 0xCA62C1D6

/-- One round. -/
def round (words : Array UInt32) (chain : Chain) (i : Nat) : Chain :=
  let fresh := rotateLeft chain.a 5 + mix i chain.b chain.c chain.d + chain.e + constant i +
    words.getD i 0
  ⟨fresh, chain.a, rotateLeft chain.b 30, chain.c, chain.d⟩

/-- Takes one block into the chaining words. -/
def compress (chain : Chain) (block : Bytes) : Chain :=
  let mixed := (List.range 80).foldl (round (schedule block)) chain
  ⟨chain.a + mixed.a, chain.b + mixed.b, chain.c + mixed.c, chain.d + mixed.d, chain.e + mixed.e⟩

/-- Takes `count` blocks from the head of a padded message into the chaining words. -/
def compressBlocks (chain : Chain) : Nat → Bytes → Chain
  | 0, _ => chain
  | count + 1, message =>
    compressBlocks (compress chain (message.take 64)) count (message.drop 64)

/-- The chaining words as octets. -/
def Chain.octets (chain : Chain) : Bytes :=
  [chain.a, chain.b, chain.c, chain.d, chain.e].flatMap fun word => Bytes.ofNat 4 word.toNat

/-- The digest of a message. -/
def digest (message : Bytes) : Bytes :=
  let padded := pad message
  (compressBlocks initial (padded.length / 64) padded).octets

theorem length_digest (message : Bytes) : (digest message).length = 20 := by
  simp [digest, Chain.octets]

end SharedListener.Digest.Sha1
