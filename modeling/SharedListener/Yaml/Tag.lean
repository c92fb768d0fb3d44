import SharedListener.Text.Utf8
import SharedListener.Yaml.Quoted
import SharedListener.Yaml.Token

/-!
# Anchors, tags and directives

The names that stand behind `&`, `*`, `!` and `%`.  A tag is a handle and a rest; a
directive at the head of a document can give a handle another meaning.

A tag is made of octets, because any octet can be written in it by its number.  They
need not be text, and a zero octet ends what they say.
-/

namespace SharedListener.Yaml

/-- Whether `c` may stand in the name of an anchor or a handle. -/
def isNameChar (c : Char) : Bool :=
  c.isAlphanum || c == '_' || c == '-'

/-- The name at the head of a text, and the text behind it. -/
def readName (text : List Place) : List Char × List Place :=
  ((text.takeWhile fun place => isNameChar place.char).map Place.char,
    text.dropWhile fun place => isNameChar place.char)

/-- Reads the name of an anchor or an alias. -/
def readAnchor (text : List Place) : Option (List Char × List Place) :=
  let (name, rest) := readName text
  let ends := atGap rest || "?:,]\x7d%@`".toList.any fun c => atChar c rest
  if !name.isEmpty && ends then some (name, rest) else none

/-- Whether `c` may stand in the rest of a tag; in some places brackets and commas may as well. -/
def isTagChar (withIndicators : Bool) (c : Char) : Bool :=
  isNameChar c || ";/?:@&=+$.!~*'()%".toList.contains c ||
    (withIndicators && (c == ',' || c == '[' || c == ']'))

/-- How many octets a UTF-8 character has that begins with `octet`. -/
def utf8Width? (octet : Nat) : Option Nat :=
  if octet < 0x80 then some 1
  else if octet < 0xC0 then none
  else if octet < 0xE0 then some 2
  else if octet < 0xF0 then some 3
  else if octet < 0xF8 then some 4
  else none

/-- How many octets have to follow `octet`, where `missing` were missing before it. -/
def missingAfter? (missing octet : Nat) : Option Nat :=
  if missing = 0 then (utf8Width? octet).map (· - 1)
  else if 0x80 ≤ octet ∧ octet < 0xC0 then some (missing - 1)
  else none

/-- Reads on in the rest of a tag of which `done` was read, last first.  An octet may be written as
a percent sign and two hexadecimal digits; `missing` such octets have to follow. -/
def readTagRest (withIndicators : Bool) (done : Bytes) (missing : Nat) :
    List Place → Option (Bytes × List Place)
  | [] => if missing = 0 then some (done.reverse, []) else none
  | place :: rest =>
    let c := place.char
    if c == '%' then
      match rest with
      | high :: low :: behind =>
        match hexValue? high.char, hexValue? low.char with
        | some high, some low =>
          let octet := high * 16 + low
          match missingAfter? missing octet with
          | some missing => readTagRest withIndicators (octet.toUInt8 :: done) missing behind
          | none => none
        | _, _ => none
      | _ => none
    else if missing ≠ 0 then none
    else if isTagChar withIndicators c then
      readTagRest withIndicators (c.toNat.toUInt8 :: done) 0 rest
    else some (done.reverse, place :: rest)

/-- What the octets of a tag say. -/
def upToZero (octets : Bytes) : Bytes :=
  octets.takeWhile (· != 0)

/-- Reads the rest of a tag, which may not be empty. -/
def readTagRest? (withIndicators : Bool) (text : List Place) : Option (Bytes × List Place) := do
  let (rest, behind) ← readTagRest withIndicators [] 0 text
  if rest.isEmpty then none else some (upToZero rest, behind)

/-- The tag that is an exclamation mark and nothing else. -/
def loneMark : Bytes := [0x21]

/-- Takes the character `c` off the head of a text. -/
def expect? (c : Char) (text : List Place) : Option (List Place) :=
  match text with
  | [] => none
  | place :: rest => if place.char == c then some rest else none

/-- Reads a tag from behind its exclamation mark.  Where nothing follows, the mark itself is the
tag. -/
def readTagToken (text : List Place) : Option (TagToken × List Place) :=
  if atChar '<' text then do
    let (rest, behind) ← readTagRest? true (text.drop 1)
    let behind ← expect? '>' behind
    return (⟨[], rest⟩, behind)
  else
    let (name, behind) := readName text
    if atChar '!' behind then do
      let (rest, behind) ← readTagRest? false (behind.drop 1)
      return (⟨'!' :: (name ++ ['!']), rest⟩, behind)
    else do
      let (octets, behind) ← readTagRest false (Text.Utf8.encode name).reverse 0 behind
      let rest := upToZero octets
      return (if rest.isEmpty then ⟨[], loneMark⟩ else ⟨['!'], rest⟩, behind)

/-- Reads a tag, behind which there has to be white space, or a comma in brackets. -/
def readTag (inFlow : Bool) (text : List Place) : Option (TagToken × List Place) := do
  let (tag, behind) ← readTagToken text
  if atGap behind || (inFlow && atChar ',' behind) then some (tag, behind) else none

/-! ### Directives -/

/-- Reads a number of at most nine digits. -/
def readVersionNumber (text : List Place) : Option (Nat × List Place) :=
  let digits := text.takeWhile fun place => place.char.isDigit
  if digits.isEmpty || 9 < digits.length then none
  else
    some (digits.foldl (fun number place => number * 10 + (place.char.toNat - '0'.toNat)) 0,
      text.dropWhile fun place => place.char.isDigit)

/-- Reads the version of a version directive. -/
def readVersion (text : List Place) : Option (Token × List Place) := do
  let (major, rest) ← readVersionNumber (skipBlanks text)
  let (minor, rest) ← readVersionNumber (← expect? '.' rest)
  return (.versionDirective major minor, rest)

/-- Reads a handle: two exclamation marks with a name between them, or one by itself. -/
def readHandle (text : List Place) : Option (List Char × List Place) := do
  let (name, rest) := readName (← expect? '!' text)
  match expect? '!' rest with
  | some rest => some ('!' :: (name ++ ['!']), rest)
  | none => if name.isEmpty then some (['!'], rest) else none

/-- Reads the handle of a tag directive and what it stands for. -/
def readTagMeaning (text : List Place) : Option (Token × List Place) := do
  let (handle, rest) ← readHandle (skipBlanks text)
  let blank := match rest with
    | [] => false
    | place :: _ => isBlank place.char
  if !blank then none else
    let (beginning, rest) ← readTagRest? true (skipBlanks rest)
    if atGap rest then some (.tagDirective handle beginning, rest) else none

/-- Reads a directive from behind its percent sign, with the line break behind it. -/
def readDirective (text : List Place) : Option (Token × List Place) := do
  let (name, rest) := readName text
  if !atGap rest then none else
    let (token, rest) ←
      if name = "YAML".toList then readVersion rest
      else if name = "TAG".toList then readTagMeaning rest
      else none
    return (token, ← skipLineRest? rest)

end SharedListener.Yaml
