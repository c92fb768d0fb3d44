import SharedListener.Yaml.Gap

/-!
# Quoted scalars

Between single quotes a quote is written twice and nothing else is special.  Between
double quotes a backslash begins an escape: a character with a short name, a character
by its number in 2, 4 or 8 hexadecimal digits, or a line break that is left out.  Both
kinds are folded, and neither goes on over a document marker.
-/

namespace SharedListener.Yaml

/-- The character that an escape of one letter stands for. -/
def shortEscape? (c : Char) : Option Char :=
  match c with
  | '0' => some '\x00'
  | 'a' => some '\x07'
  | 'b' => some '\x08'
  | 't' | '\t' => some '\t'
  | 'n' => some '\n'
  | 'v' => some '\x0B'
  | 'f' => some '\x0C'
  | 'r' => some '\r'
  | 'e' => some '\x1B'
  | ' ' => some ' '
  | '"' => some '"'
  | '/' => some '/'
  | '\\' => some '\\'
  | 'N' => some '\u0085'
  | '_' => some '\u00A0'
  | 'L' => some '\u2028'
  | 'P' => some '\u2029'
  | _ => none

/-- How many digits follow the letter of a numeric escape. -/
def numericEscape? (c : Char) : Option Nat :=
  match c with
  | 'x' => some 2
  | 'u' => some 4
  | 'U' => some 8
  | _ => none

/-- The value of a hexadecimal digit. -/
def hexValue? (c : Char) : Option Nat :=
  if '0' ≤ c ∧ c ≤ '9' then some (c.toNat - '0'.toNat)
  else if 'a' ≤ c ∧ c ≤ 'f' then some (c.toNat - 'a'.toNat + 10)
  else if 'A' ≤ c ∧ c ≤ 'F' then some (c.toNat - 'A'.toNat + 10)
  else none

/-- The character with a number, if there is one. -/
def charOfNumber? (number : Nat) : Option Char :=
  if number.isValidChar then some (Char.ofNat number) else none

/-- Reads on in a scalar between single quotes, of which `done` was read, last first, and then
`gap`. -/
def readSingleQuoted (done : List Char) (gap : Gap) :
    List Place → Option (List Char × List Place)
  | [] => none
  | place :: rest =>
    let c := place.char
    if isBlank c then
      readSingleQuoted done (gap.addBlank c) rest
    else if isBreak c then
      readSingleQuoted done (gap.addBreak c) rest
    else if (marker? (place :: rest)).isSome then
      none
    else
      let done := gap.text ++ done
      if c == '\'' then
        match rest with
        | [] => some (done.reverse, [])
        | next :: behind =>
          if next.char == '\'' then readSingleQuoted ('\'' :: done) {} behind
          else some (done.reverse, next :: behind)
      else
        readSingleQuoted (c :: done) {} rest

/-- Where a reader between double quotes stands. -/
inductive EscapeState where
  /-- Outside of escapes. -/
  | outside
  /-- Behind a backslash. -/
  | begun
  /-- Inside a numeric escape: the digits to come, and the number so far. -/
  | digits (left number : Nat)
deriving DecidableEq, Repr

/-- Reads on in a scalar between double quotes, of which `done` was read, last first, and then
`gap`. -/
def readDoubleQuoted (done : List Char) (gap : Gap) (escape : EscapeState) :
    List Place → Option (List Char × List Place)
  | [] => none
  | place :: rest =>
    let c := place.char
    match escape with
    | .digits left number =>
      match hexValue? c with
      | none => none
      | some digit =>
        let number := number * 16 + digit
        if left ≤ 1 then
          match charOfNumber? number with
          | none => none
          | some named => readDoubleQuoted (named :: done) {} .outside rest
        else
          readDoubleQuoted done {} (.digits (left - 1) number) rest
    | .begun =>
      if isBreak c then
        readDoubleQuoted done Gap.escaped .outside rest
      else
        match shortEscape? c, numericEscape? c with
        | some named, _ => readDoubleQuoted (named :: done) {} .outside rest
        | none, some count => readDoubleQuoted done {} (.digits count 0) rest
        | none, none => none
    | .outside =>
      if isBlank c then
        readDoubleQuoted done (gap.addBlank c) .outside rest
      else if isBreak c then
        readDoubleQuoted done (gap.addBreak c) .outside rest
      else if (marker? (place :: rest)).isSome then
        none
      else
        let done := gap.text ++ done
        if c == '"' then some (done.reverse, rest)
        else if c == '\\' then readDoubleQuoted done {} .begun rest
        else readDoubleQuoted (c :: done) {} .outside rest

end SharedListener.Yaml
