import SharedListener.Yaml.Place

/-!
# Block scalars

A literal scalar keeps its line breaks; a folded scalar turns a single break between
two lines that begin with no blank into a space.  The indentation of the scalar is
given by a digit in its header or by its first lines.  The header also says what
becomes of the line breaks at the end: one is kept, or none, or all.
-/

namespace SharedListener.Yaml

/-- What becomes of the line breaks at the end of a block scalar. -/
inductive Chomping where
  /-- The first one is kept. -/
  | clip
  /-- None is kept. -/
  | strip
  /-- All are kept. -/
  | keep
deriving DecidableEq, Repr

/-- The header of a block scalar. -/
structure BlockHeader where
  chomping : Chomping := .clip
  /-- The indentation relative to the surroundings, where it is given. -/
  increment : Option Nat := none
deriving DecidableEq, Repr

namespace BlockHeader

/-- The chomping that a header character asks for. -/
def chomping? (c : Char) : Option Chomping :=
  if c == '+' then some .keep else if c == '-' then some .strip else none

/-- The increment that a header character gives; zero is not allowed. -/
def increment? (c : Char) : Option Nat :=
  if '1' ≤ c ∧ c ≤ '9' then some (c.toNat - '0'.toNat) else none

/-- Adds what the next character says, which may not say again what is known. -/
def add? (header : BlockHeader) (c : Char) : Option BlockHeader :=
  match chomping? c, increment? c with
  | some chomping, _ => if header.chomping = .clip then some { header with chomping } else none
  | none, some increment =>
    if header.increment.isNone then some { header with increment := some increment } else none
  | none, none => none

/-- Reads on in a header. -/
def readOn (header : BlockHeader) : List Place → BlockHeader × List Place
  | [] => (header, [])
  | place :: rest =>
    match header.add? place.char with
    | some more => readOn more rest
    | none => (header, place :: rest)

/-- Reads the header at the head of a text, with the line break behind it. -/
def read? (text : List Place) : Option (BlockHeader × List Place) :=
  let (header, rest) := readOn {} text
  (skipLineRest? rest).map fun rest => (header, rest)

end BlockHeader

/-- The part of a block scalar that was read. -/
structure BlockRead where
  /-- The text, last first. -/
  done : List Char := []
  /-- The break behind the last line that is not empty, if there is one. -/
  lineBreak : Option Char := none
  /-- The breaks of the empty lines behind it, last first. -/
  emptyLines : List Char := []
  /-- Whether the last line that is not empty begins with a blank. -/
  leadingBlank : Bool := false
  /-- The column of the text, once it is known. -/
  indent : Option Nat
  /-- The greatest column that an empty line or the first line reaches. -/
  reach : Nat := 0
  /-- Whether the reader stands inside a line. -/
  inLine : Bool := false
deriving DecidableEq, Repr

namespace BlockRead

/-- Begins a line with the character `c`. -/
def beginLine (folded : Bool) (read : BlockRead) (c : Char) : BlockRead :=
  let joins := folded && read.lineBreak == some '\n' && !read.leadingBlank && !isBlank c
  let between :=
    if joins then (if read.emptyLines.isEmpty then [' '] else read.emptyLines)
    else read.emptyLines ++ read.lineBreak.toList
  { read with
    done := c :: (between ++ read.done)
    lineBreak := none
    emptyLines := []
    leadingBlank := isBlank c
    inLine := true }

/-- The text of the scalar, whose header asks for `chomping`. -/
def text (chomping : Chomping) (read : BlockRead) : List Char :=
  let closing :=
    match chomping with
    | .strip => []
    | .clip => read.lineBreak.toList
    | .keep => read.emptyLines ++ read.lineBreak.toList
  (closing ++ read.done).reverse

end BlockRead

/-- Reads on in a block scalar, whose text is indented to `least` at least. -/
def readBlockLines (folded : Bool) (least : Nat) (read : BlockRead) :
    List Place → Option (BlockRead × List Place)
  | [] => some (read, [])
  | place :: rest =>
    let c := place.char
    if read.inLine then
      if isBreak c then
        readBlockLines folded least { read with lineBreak := some c, inLine := false } rest
      else
        readBlockLines folded least { read with done := c :: read.done } rest
    else
      let indents := match read.indent with
        | none => true
        | some indent => place.column < indent
      if indents && c == ' ' then
        readBlockLines folded least read rest
      else if indents && c == '\t' then
        none
      else
        let read := { read with reach := max read.reach place.column }
        if isBreak c then
          readBlockLines folded least { read with emptyLines := c :: read.emptyLines } rest
        else
          let indent := read.indent.getD (max read.reach least)
          if place.column = indent then
            readBlockLines folded least
              ({ read with indent := some indent }.beginLine folded c) rest
          else
            some ({ read with indent := some indent }, place :: rest)

/-- Reads a block scalar from behind its indicator, inside a collection at column `outer`, if it is
inside one. -/
def readBlock (folded : Bool) (outer : Option Nat) (text : List Place) :
    Option (List Char × List Place) := do
  let (header, rest) ← BlockHeader.read? text
  let indent := header.increment.map fun increment => outer.getD 0 + increment
  let least := match outer with
    | some column => column + 1
    | none => 1
  let (read, rest) ← readBlockLines folded least { indent } rest
  return (read.text header.chomping, rest)

end SharedListener.Yaml
