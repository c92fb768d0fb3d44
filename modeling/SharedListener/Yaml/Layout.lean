import SharedListener.Yaml.Block
import SharedListener.Yaml.Plain
import SharedListener.Yaml.Tag

/-!
# From text to tokens

The tokens of a text follow from its characters and its layout.  Two things have to be
kept track of.

* **Indentation.**  Outside brackets a token that stands further right than its
  surroundings can begin a block collection, and one that stands further left ends the
  collections that it leaves.
* **Keys without a mark.**  Whether a scalar or a collection in brackets is a key shows
  only at the colon behind it.  The place where the key would have to be announced is
  remembered until the line is over or 1024 characters have passed.

A text that breaks a rule has no tokens.
-/

namespace SharedListener.Yaml

/-- What may turn out to be a key. -/
structure PossibleKey where
  /-- Where it begins. -/
  place : Place
  /-- How many tokens stand in front of it. -/
  position : Nat
  /-- Whether nothing but a key may stand there. -/
  required : Bool
deriving DecidableEq, Repr

/-- Whether a key could still be announced for what begins at a place, seen from `now`. -/
def PossibleKey.isFresh (key : PossibleKey) (now : Place) : Bool :=
  key.place.line = now.line && now.index ≤ key.place.index + 1024

/-- The state of a reader between two tokens. -/
structure Layout where
  /-- The text to come. -/
  rest : List Place
  /-- The column of the innermost block collection, if there is one. -/
  indent : Option Nat := none
  /-- The columns of the collections around it, the innermost first. -/
  outer : List (Option Nat) := []
  /-- Whether a key without a mark may begin here. -/
  keyAllowed : Bool := true
  /-- What may turn out to be a key, inside the innermost brackets. -/
  key : Option PossibleKey := none
  /-- The same inside the brackets around them, the innermost first. -/
  outerKeys : List (Option PossibleKey) := []
  /-- The tokens so far. -/
  tokens : Array Token := #[]

/-- A step of the reader, which fails on a text that breaks a rule. -/
abbrev LayoutM := StateT Layout Option

namespace Layout

/-- Whether the reader is inside brackets. -/
def inFlow (layout : Layout) : Bool :=
  !layout.outerKeys.isEmpty

/-- Adds a token. -/
def emit (token : Token) : LayoutM Unit :=
  modify fun layout => { layout with tokens := layout.tokens.push token }

/-- Adds a token in front of the one at `position`. -/
def insert (position : Nat) (token : Token) : LayoutM Unit :=
  modify fun layout =>
    { layout with tokens := layout.tokens.insertIdxIfInBounds position token }

/-- Passes over `count` characters. -/
def pass (count : Nat) : LayoutM Unit :=
  modify fun layout => { layout with rest := layout.rest.drop count }

/-- Says whether a key may begin next. -/
def allowKey (allowed : Bool) : LayoutM Unit :=
  modify fun layout => { layout with keyAllowed := allowed }

/-- Passes over white space and comments.  A line break outside brackets allows a key again; a tab
is white space only where no key may begin. -/
def skipToToken (inFlow keyAllowed inComment : Bool) : List Place → List Place × Bool
  | [] => ([], keyAllowed)
  | place :: rest =>
    let c := place.char
    if isBreak c then skipToToken inFlow (keyAllowed || !inFlow) false rest
    else if inComment then skipToToken inFlow keyAllowed true rest
    else if c == ' ' || (c == '\t' && (inFlow || !keyAllowed)) then
      skipToToken inFlow keyAllowed false rest
    else if c == '\uFEFF' && place.column = 0 then skipToToken inFlow keyAllowed false rest
    else if c == '#' then skipToToken inFlow keyAllowed true rest
    else (place :: rest, keyAllowed)

/-! ### Keys -/

/-- Gives up a key that could no longer be announced, which fails if it was required.  The keys
outside the innermost brackets come up when the brackets are closed. -/
def refreshKey (now : Place) : LayoutM Unit := do
  let layout ← get
  if layout.key.any fun key => !key.isFresh now then
    if layout.key.any (·.required) then failure
    set { layout with key := none }

/-- Gives up the possible key, which fails if it was required. -/
def dropKey : LayoutM Unit := do
  let layout ← get
  if layout.key.any (·.required) then failure
  set { layout with key := none }

/-- Notes that what begins at `place` may turn out to be a key. -/
def noteKey (place : Place) : LayoutM Unit := do
  if (← get).keyAllowed then
    dropKey
    modify fun layout =>
      { layout with
        key := some
          { place
            position := layout.tokens.size
            required := !layout.inFlow && layout.indent == some place.column } }

/-! ### Indentation -/

/-- Whether `column` is further right than the innermost block collection. -/
def isDeeper (layout : Layout) (column : Nat) : Bool :=
  !layout.inFlow && layout.indent.all (· < column)

/-- Begins a block collection at `column` if it is further right, announced at `position`. -/
def indentTo (column position : Nat) (token : Token) : LayoutM Unit := do
  if (← get).isDeeper column then
    modify fun layout =>
      { layout with indent := some column, outer := layout.indent :: layout.outer }
    insert position token

/-- How many collections end at `column`, and the columns of those that go on. -/
def leave (column : Nat) (ended : Nat) (indent : Option Nat) :
    List (Option Nat) → Nat × Option Nat × List (Option Nat)
  | [] => (ended, indent, [])
  | next :: outer =>
    if indent.any (column < ·) then leave column (ended + 1) next outer
    else (ended, indent, next :: outer)

/-- Ends the block collections that are further right than `column`. -/
def unindentTo (column : Nat) : LayoutM Unit :=
  modify fun layout =>
    if layout.inFlow then layout
    else
      let (ended, indent, outer) := leave column 0 layout.indent layout.outer
      { layout with
        indent, outer
        tokens := layout.tokens ++ Array.replicate ended Token.blockEnd }

/-- Ends all block collections. -/
def unindentAll : LayoutM Unit :=
  modify fun layout =>
    if layout.inFlow then layout
    else
      { layout with
        indent := none
        outer := []
        tokens := layout.tokens ++ Array.replicate layout.outer.length Token.blockEnd }

/-! ### Tokens by their first character -/

/-- Begins a collection in brackets. -/
def openFlow (place : Place) (token : Token) : LayoutM Unit := do
  noteKey place
  modify fun layout =>
    { layout with outerKeys := layout.key :: layout.outerKeys, key := none, keyAllowed := true }
  pass 1
  emit token

/-- Ends a collection in brackets. -/
def closeFlow (token : Token) : LayoutM Unit := do
  dropKey
  modify fun layout =>
    match layout.outerKeys with
    | [] => layout
    | key :: outerKeys => { layout with key, outerKeys }
  allowKey false
  pass 1
  emit token

/-- Reads the comma between entries in brackets. -/
def separateFlow : LayoutM Unit := do
  dropKey
  allowKey true
  pass 1
  emit .flowEntry

/-- Begins a block collection at a hyphen or a question mark, where one may begin. -/
def beginBlock (place : Place) (token : Token) : LayoutM Unit := do
  let layout ← get
  if !layout.inFlow then
    if !layout.keyAllowed then failure
    indentTo place.column layout.tokens.size token

/-- Reads the hyphen in front of an entry. -/
def enterBlock (place : Place) : LayoutM Unit := do
  beginBlock place .blockSequenceStart
  dropKey
  allowKey true
  pass 1
  emit .blockEntry

/-- Reads the question mark in front of a key. -/
def markKey (place : Place) : LayoutM Unit := do
  beginBlock place .blockMappingStart
  dropKey
  allowKey (!(← get).inFlow)
  pass 1
  emit .key

/-- Reads the colon in front of a value.  What stands in front of it may turn out to be a key. -/
def markValue (place : Place) : LayoutM Unit := do
  match (← get).key with
  | some key =>
    insert key.position .key
    indentTo key.place.column key.position .blockMappingStart
    modify fun layout => { layout with key := none, keyAllowed := false }
  | none =>
    beginBlock place .blockMappingStart
    allowKey (!(← get).inFlow)
  pass 1
  emit .value

/-- Goes on behind a token that was read. -/
def goOn (token : Token) (rest : List Place) : LayoutM Unit := do
  emit token
  modify fun layout => { layout with rest }

/-- Reads a token that may turn out to be a key, with a reader for what follows its first
character. -/
def readNoted {found : Type} (place : Place) (read : List Place → Option (found × List Place))
    (token : found → Token) : LayoutM Unit := do
  noteKey place
  allowKey false
  let (value, rest) ← read ((← get).rest.drop 1)
  goOn (token value) rest

/-- Reads a scalar without quotes. -/
def readPlainScalar (place : Place) : LayoutM Unit := do
  noteKey place
  allowKey false
  let layout ← get
  let indent := match layout.indent with
    | some column => column + 1
    | none => 0
  let read ← readPlain ⟨layout.inFlow, indent⟩ [] {} layout.rest
  goOn (.scalar .plain read.text) read.rest
  if read.broken then allowKey true

/-- Reads a block scalar. -/
def readBlockScalar (style : Style) : LayoutM Unit := do
  dropKey
  allowKey true
  let layout ← get
  let (text, rest) ← readBlock (style = .folded) layout.indent (layout.rest.drop 1)
  goOn (.scalar style text) rest

/-- Ends all collections in front of a line that begins or ends a document or gives a directive. -/
def leaveDocument : LayoutM Unit := do
  unindentAll
  dropKey
  allowKey false

/-- Whether a plain scalar may begin with `c`, with `rest` behind it. -/
def beginsPlain (inFlow : Bool) (c : Char) (rest : List Place) : Bool :=
  if c == '-' then !(match rest with
    | [] => false
    | next :: _ => isBlank next.char)
  else if c == '?' || c == ':' then !inFlow && !atGap rest
  else !isBlank c && !(",[]\x7b\x7d#&*!|>'\"%@`".toList.contains c)

/-- Reads the token that begins at `place` and is no document marker, with `rest` behind its first
character. -/
def readToken (place : Place) (rest : List Place) : LayoutM Unit := do
  let inFlow := (← get).inFlow
  let c := place.char
  if c == '%' && place.column = 0 then
    leaveDocument
    let (token, behind) ← readDirective rest
    goOn token behind
  else if c == '[' then openFlow place .flowSequenceStart
  else if c == '\x7b' then openFlow place .flowMappingStart
  else if c == ']' then closeFlow .flowSequenceEnd
  else if c == '\x7d' then closeFlow .flowMappingEnd
  else if c == ',' then separateFlow
  else if c == '-' && atGap rest then enterBlock place
  else if c == '?' && (inFlow || atGap rest) then markKey place
  else if c == ':' && (inFlow || atGap rest) then markValue place
  else if c == '*' then readNoted place readAnchor .alias
  else if c == '&' then readNoted place readAnchor .anchor
  else if c == '!' then readNoted place (readTag inFlow) .tag
  else if c == '|' && !inFlow then readBlockScalar .literal
  else if c == '>' && !inFlow then readBlockScalar .folded
  else if c == '\'' then readNoted place (readSingleQuoted [] {}) (.scalar .quoted)
  else if c == '"' then readNoted place (readDoubleQuoted [] {} .outside) (.scalar .quoted)
  else if beginsPlain inFlow c rest then readPlainScalar place
  else failure

/-- Reads a document marker. -/
def readMarker (token : Token) : LayoutM Unit := do
  leaveDocument
  pass 3
  emit token

/-- Reads the next token, at the head of the text `place :: rest`. -/
def readNext (place : Place) (rest : List Place) : LayoutM Unit := do
  refreshKey place
  unindentTo place.column
  match marker? (place :: rest) with
  | some .start => readMarker .documentStart
  | some .finish => readMarker .documentEnd
  | none => readToken place rest

/-- Reads tokens up to the end of the text; each takes at least one character, and `fuel` is the
number of characters. -/
def readTokens : Nat → LayoutM Unit
  | 0 => leaveDocument
  | fuel + 1 => do
    modify fun layout =>
      let (rest, keyAllowed) := skipToToken layout.inFlow layout.keyAllowed false layout.rest
      { layout with rest, keyAllowed }
    match (← get).rest with
    | [] => leaveDocument
    | place :: rest =>
      readNext place rest
      readTokens fuel

end Layout

/-- The tokens of a text. -/
def Token.ofText? (text : String) : Option (List Token) :=
  if text.toList.all isAllowed then
    let places := places text.toList
    ((Layout.readTokens places.length).run { rest := places }).map fun result =>
      result.2.tokens.toList
  else
    none

end SharedListener.Yaml
