import SharedListener.Bytes

/-!
# Tokens of a YAML text

The indentation of a text is made explicit in its tokens: block collections have a
beginning and an end like those in brackets, and every key is announced.
-/

namespace SharedListener.Yaml

/-- How a scalar is written. -/
inductive Style where
  | plain
  | quoted
  | literal
  | folded
deriving DecidableEq, Repr

/-- A tag as written: a handle that stands for the beginning of the tag, and the rest.  A tag that
is written out in full has an empty handle. -/
structure TagToken where
  handle : List Char
  rest : Bytes
deriving DecidableEq, Repr

/-- A piece of a YAML text. -/
inductive Token where
  | versionDirective (major minor : Nat)
  | tagDirective (handle : List Char) (beginning : Bytes)
  | documentStart
  | documentEnd
  | blockSequenceStart
  | blockMappingStart
  /-- The end of a block collection. -/
  | blockEnd
  | flowSequenceStart
  | flowSequenceEnd
  | flowMappingStart
  | flowMappingEnd
  /-- The hyphen in front of an entry of a block sequence. -/
  | blockEntry
  /-- The comma between entries in brackets. -/
  | flowEntry
  | key
  | value
  | alias (name : List Char)
  | anchor (name : List Char)
  | tag (tag : TagToken)
  | scalar (style : Style) (text : List Char)
deriving DecidableEq, Repr

end SharedListener.Yaml
