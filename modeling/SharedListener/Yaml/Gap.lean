import SharedListener.Yaml.Place

/-!
# Line folding

White space inside a plain or quoted scalar is a gap.  A gap on one line stands for
itself.  A gap with line breaks stands for a space if there is one break, and for one
line feed less than there are breaks otherwise; blanks beside the breaks do not count.
-/

namespace SharedListener.Yaml

/-- White space between two words of a scalar. -/
structure Gap where
  /-- The blanks in front of the first line break, last first. -/
  blanks : List Char := []
  /-- Whether there is a line break. -/
  broken : Bool := false
  /-- The first line break, unless it is escaped. -/
  first : Option Char := none
  /-- The other line breaks, last first. -/
  others : List Char := []
deriving DecidableEq, Repr

namespace Gap

/-- Whether there is no gap. -/
def isEmpty (gap : Gap) : Bool :=
  gap.blanks.isEmpty && !gap.broken

/-- The gap with one blank more. -/
def addBlank (gap : Gap) (c : Char) : Gap :=
  if gap.broken then gap else { gap with blanks := c :: gap.blanks }

/-- The gap with one line break more. -/
def addBreak (gap : Gap) (c : Char) : Gap :=
  if gap.broken then { gap with others := c :: gap.others }
  else { gap with blanks := [], broken := true, first := some c }

/-- The gap that an escaped line break begins. -/
def escaped : Gap := { broken := true }

/-- What the gap stands for, last first. -/
def text (gap : Gap) : List Char :=
  if gap.broken then
    match gap.first with
    | some '\n' => if gap.others.isEmpty then [' '] else gap.others
    | some c => gap.others ++ [c]
    | none => gap.others
  else
    gap.blanks

end Gap

end SharedListener.Yaml
