import SharedListener.Yaml.Gap

/-!
# Plain scalars

A plain scalar has no quotes around it, so it ends where the text could go on in
another way: at a colon with white space behind it, at a comment, at an indicator if
it stands in brackets, at a line with too little indentation, or at a document marker.
-/

namespace SharedListener.Yaml

/-- Where a scalar stands: whether it is in brackets, and the least column of its further lines. -/
structure Surroundings where
  inFlow : Bool
  indent : Nat
deriving DecidableEq, Repr

/-- What was read of a text: the characters of a scalar, the text behind it, and whether white
space with a line break was read at the end. -/
structure PlainRead where
  text : List Char
  rest : List Place
  broken : Bool

/-- Whether `c` separates or encloses entries in brackets. -/
def isFlowIndicator (c : Char) : Bool :=
  c == ',' || c == '[' || c == ']' || c == '\x7b' || c == '\x7d'

/-- Whether a plain scalar ends in front of a word that follows a gap. -/
def endsPlainAfterGap (around : Surroundings) (places : List Place) : Bool :=
  match places with
  | [] => true
  | place :: _ =>
    (marker? places).isSome || place.char == '#' ||
      (!around.inFlow && place.column < around.indent)

/-- Whether a plain scalar ends in front of a character, with `rest` behind the character. -/
def endsPlain (around : Surroundings) (c : Char) (rest : List Place) : Bool :=
  (c == ':' && atGap rest) || (around.inFlow && isFlowIndicator c)

/-- Whether a colon stands in brackets in front of an indicator, which is an error there. -/
def isMisplacedColon (around : Surroundings) (c : Char) (rest : List Place) : Bool :=
  around.inFlow && c == ':' &&
    match rest with
    | [] => false
    | next :: _ => isFlowIndicator next.char || next.char == '?'

/-- Reads on in a plain scalar of which `done` was read, last first, and then `gap`. -/
def readPlain (around : Surroundings) (done : List Char) (gap : Gap) :
    List Place → Option PlainRead
  | [] => some ⟨done.reverse, [], gap.broken⟩
  | place :: rest =>
    let c := place.char
    if isBlank c then
      if gap.broken && c == '\t' && place.column < around.indent then none
      else readPlain around done (gap.addBlank c) rest
    else if isBreak c then
      readPlain around done (gap.addBreak c) rest
    else if !gap.isEmpty && endsPlainAfterGap around (place :: rest) then
      some ⟨done.reverse, place :: rest, gap.broken⟩
    else if isMisplacedColon around c rest then
      none
    else if endsPlain around c rest then
      some ⟨done.reverse, place :: rest, gap.broken⟩
    else
      readPlain around (c :: (gap.text ++ done)) {} rest

end SharedListener.Yaml
