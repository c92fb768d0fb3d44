/-!
# Characters of a YAML text, with their places

Where a character stands decides what it means in YAML, so a text is read as a list
of characters that know their places.  Line breaks are made uniform on the way: a
carriage return, a line feed, both together and a next-line character all become one
line feed, while the line and paragraph separators stay what they are.
-/

namespace SharedListener.Yaml

/-- Whether a character may stand in a YAML text at all. -/
def isAllowed (c : Char) : Bool :=
  c == '\t' || c == '\n' || c == '\r' || c == '\u0085' || (' ' ≤ c && c ≤ '~') ||
    ('\u00A0' ≤ c && c ≤ '\uFFFD') || 0x10000 ≤ c.toNat

/-- A character and where it stands. -/
structure Place where
  char : Char
  /-- How many characters stand in front of it. -/
  index : Nat
  /-- How many lines stand above it. -/
  line : Nat
  /-- How many characters stand in front of it on its line. -/
  column : Nat
deriving DecidableEq, Repr

/-- Whether a character, in its uniform shape, ends a line. -/
def isBreak (c : Char) : Bool :=
  c == '\n' || c == '\u2028' || c == '\u2029'

/-- Whether a character is a space or a tab. -/
def isBlank (c : Char) : Bool :=
  c == ' ' || c == '\t'

/-- The text with uniform line breaks; `done` stands last first. -/
def uniformAfter (done : List Char) : List Char → List Char
  | [] => done.reverse
  | '\r' :: '\n' :: rest => uniformAfter ('\n' :: done) rest
  | '\r' :: rest => uniformAfter ('\n' :: done) rest
  | '\u0085' :: rest => uniformAfter ('\n' :: done) rest
  | c :: rest => uniformAfter (c :: done) rest

/-- Where the character behind `place` stands. -/
def Place.following (place : Place) (c : Char) : Place :=
  if isBreak place.char then ⟨c, place.index + 1, place.line + 1, 0⟩
  else ⟨c, place.index + 1, place.line, place.column + 1⟩

/-- The characters of a text with their places. -/
def places (text : List Char) : List Place :=
  match uniformAfter [] text with
  | [] => []
  | first :: others =>
    (others.foldl
      (fun done c =>
        match done with
        | [] => [⟨c, 0, 0, 0⟩]
        | last :: _ => last.following c :: done)
      [⟨first, 0, 0, 0⟩]).reverse

/-! ### What stands at the head of a list of places -/

/-- Whether a text goes on with white space or not at all. -/
def atGap : List Place → Bool
  | [] => true
  | place :: _ => isBlank place.char || isBreak place.char

/-- Whether a text goes on with the character `c`. -/
def atChar (c : Char) : List Place → Bool
  | [] => false
  | place :: _ => place.char == c

/-- The lines that begin and end documents. -/
inductive Marker where
  /-- Three hyphens. -/
  | start
  /-- Three dots. -/
  | finish
deriving DecidableEq, Repr

/-- The marker that a line begins with. -/
def marker? : List Place → Option Marker
  | a :: b :: c :: rest =>
    if a.column = 0 && atGap rest then
      if a.char == '-' && b.char == '-' && c.char == '-' then some .start
      else if a.char == '.' && b.char == '.' && c.char == '.' then some .finish
      else none
    else
      none
  | _ => none

/-- The text behind the blanks that it begins with. -/
def skipBlanks (places : List Place) : List Place :=
  places.dropWhile fun place => isBlank place.char

/-- The text behind a comment, if it begins with one. -/
def skipComment (places : List Place) : List Place :=
  if atChar '#' places then places.dropWhile fun place => !isBreak place.char else places

/-- The text behind blanks, a comment and the line break, if no more than that is on the line. -/
def skipLineRest? (places : List Place) : Option (List Place) :=
  match skipComment (skipBlanks places) with
  | [] => some []
  | place :: rest => if isBreak place.char then some rest else none

end SharedListener.Yaml
