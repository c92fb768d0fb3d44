/-!
# Searching and cutting

Where a pattern first stands in a sequence, and the pieces of a text between the
places where it breaks.
-/

namespace SharedListener.Text

variable {α : Type} [BEq α]

/-- The position of the first occurrence of `pattern` in `text`, counted from `passed`. -/
def firstOccurrenceFrom (pattern : List α) (passed : Nat) : List α → Option Nat
  | [] => if pattern.isEmpty then some passed else none
  | a :: rest =>
    if pattern.isPrefixOf (a :: rest) then some passed
    else firstOccurrenceFrom pattern (passed + 1) rest

/-- The position of the first occurrence of `pattern` in `text`. -/
def firstOccurrence? (pattern text : List α) : Option Nat :=
  firstOccurrenceFrom pattern 0 text

/-- Whether `pattern` stands somewhere in `text`. -/
def occursIn (pattern text : List α) : Bool :=
  (firstOccurrence? pattern text).isSome

/-- The pieces of a text between line breaks, a line break being a carriage return with a line
feed behind it.  The pieces `done` and the beginning `line` of the next one stand last first. -/
def linesAfter (done : List (List Char)) (line : List Char) : List Char → List (List Char)
  | [] => (line.reverse :: done).reverse
  | '\r' :: '\n' :: rest => linesAfter (line.reverse :: done) [] rest
  | c :: rest => linesAfter done (c :: line) rest

/-- The lines of a text, without the line breaks.  There is always one more line than breaks. -/
def lines (text : List Char) : List (List Char) :=
  linesAfter [] [] text

/-- The pieces of a text between the occurrences of one character. -/
def cut (separator : Char) (text : List Char) : List (List Char) :=
  text.foldr
    (fun c pieces =>
      if c = separator then [] :: pieces
      else
        match pieces with
        | [] => [[c]]
        | piece :: others => (c :: piece) :: others)
    [[]]

end SharedListener.Text
