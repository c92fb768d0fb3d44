import SharedListener.Bytes

/-!
# UTF-8

Text goes to the wire as UTF-8.  Bytes from the wire may be anything, and
`recover` makes text of all of them: well-formed characters are read, and each
longest beginning of a character that does not go on, as well as each octet that
begins none, becomes one replacement character.

The reader is a fold over the octets.  Between two octets it knows only which
character it is in the middle of, if any.
-/

namespace SharedListener.Text.Utf8

/-- The octets of a text. -/
def encode (text : List Char) : Bytes :=
  text.flatMap String.utf8EncodeChar

/-- The octets of a text that is given as a string. -/
def encodeString (text : String) : Bytes :=
  encode text.toList

/-- A character of which some octets have been read and others are missing. -/
structure Partial where
  /-- The number that the octets read so far make up. -/
  value : Nat
  /-- How many octets follow. -/
  missing : Nat
  /-- The least value of the next octet. -/
  low : UInt8
  /-- The greatest value of the next octet. -/
  high : UInt8
deriving DecidableEq, Repr

/-- The characters of more than one octet that begin with `lead`.  The range of the second octet
leaves out overlong forms, surrogates and numbers above the last character. -/
def begin? (lead : UInt8) : Option Partial :=
  let bits (mask : UInt8) : Nat := (lead &&& mask).toNat
  if lead < 0xC2 then none
  else if lead ≤ 0xDF then some ⟨bits 0x1F, 1, 0x80, 0xBF⟩
  else if lead = 0xE0 then some ⟨bits 0x0F, 2, 0xA0, 0xBF⟩
  else if lead = 0xED then some ⟨bits 0x0F, 2, 0x80, 0x9F⟩
  else if lead ≤ 0xEF then some ⟨bits 0x0F, 2, 0x80, 0xBF⟩
  else if lead = 0xF0 then some ⟨bits 0x07, 3, 0x90, 0xBF⟩
  else if lead ≤ 0xF3 then some ⟨bits 0x07, 3, 0x80, 0xBF⟩
  else if lead = 0xF4 then some ⟨bits 0x07, 3, 0x80, 0x8F⟩
  else none

/-- Stands for bytes that are no character. -/
def replacement : Char := '\uFFFD'

/-- What has been read: the characters, last first, and the one that is unfinished. -/
structure Recovery where
  done : List Char := []
  inside : Option Partial := none
deriving DecidableEq, Repr

namespace Recovery

/-- Reads an octet that does not continue a character. -/
def start (done : List Char) (octet : UInt8) : Recovery :=
  if octet < 0x80 then
    ⟨Char.ofNat octet.toNat :: done, none⟩
  else
    match begin? octet with
    | some begun => ⟨done, some begun⟩
    | none => ⟨replacement :: done, none⟩

/-- Reads one octet. -/
def step (reading : Recovery) (octet : UInt8) : Recovery :=
  match reading.inside with
  | none => start reading.done octet
  | some begun =>
    if begun.low ≤ octet ∧ octet ≤ begun.high then
      let value := begun.value * 64 + (octet &&& 0x3F).toNat
      if begun.missing = 1 then
        ⟨Char.ofNat value :: reading.done, none⟩
      else
        ⟨reading.done, some ⟨value, begun.missing - 1, 0x80, 0xBF⟩⟩
    else
      start (replacement :: reading.done) octet

/-- The text read, where an unfinished character at the end is replaced too. -/
def text (reading : Recovery) : List Char :=
  match reading.inside with
  | none => reading.done.reverse
  | some _ => (replacement :: reading.done).reverse

end Recovery

/-- The text that `octets` stand for, with replacements for what is not well formed. -/
def recover (octets : Bytes) : List Char :=
  (octets.foldl Recovery.step {}).text

end SharedListener.Text.Utf8
