import SharedListener.Yaml.Layout

/-!
# From tokens to nodes

The tokens of a document make up a tree of scalars, sequences and mappings.  What is
left out where a node could stand is an empty plain scalar.

A node may carry an anchor, and an alias stands for the node that carries the anchor
of its name.  Anchors go by numbers: an anchor gets the number of names that are known
when it is set, so setting a name again can give two names one number.  A number means
the last node that got it.
-/

namespace SharedListener.Yaml

/-- A part of a document. -/
inductive Node where
  | scalar (tag : Option Bytes) (style : Style) (text : List Char)
  | sequence (items : List Node)
  | mapping (entries : List (Node × Node))
  /-- Stands for the node with an anchor of this number. -/
  | alias (number : Nat)

namespace Node

/-- What stands where nothing is written. -/
def empty : Node := .scalar none .plain []

/-- The anchors of a document. -/
structure Anchors where
  /-- The names that are known, with their numbers. -/
  names : List (List Char × Nat) := []
  /-- The numbers of the anchored nodes, the last node first. -/
  numbers : List Nat := []
  /-- The anchored nodes by how many of them begin further ahead. -/
  nodes : List (Nat × Node) := []

namespace Anchors

/-- Notes that a node with this anchor begins. -/
def set (anchors : Anchors) (name : List Char) : Anchors :=
  let number := anchors.names.length
  { anchors with
    names := (name, number) :: anchors.names.filter (·.1 != name)
    numbers := number :: anchors.numbers }

/-- The number that a name has now. -/
def number? (anchors : Anchors) (name : List Char) : Option Nat :=
  anchors.names.lookup name

/-- The last node that got a number. -/
def node? (anchors : Anchors) (number : Nat) : Option Node := do
  let back ← anchors.numbers.findIdx? (· == number)
  anchors.nodes.lookup (anchors.numbers.length - 1 - back)

end Anchors

/-- The tokens to come, with what the tokens so far have set. -/
structure Source where
  tokens : List Token
  /-- What the handles of tags stand for. -/
  handles : List (List Char × Bytes)
  anchors : Anchors := {}

/-- A step of the reader, which fails where the tokens make up no document. -/
abbrev NodeM := StateT Source Option

/-- The next token, which is left where it is. -/
def peek : NodeM (Option Token) := do
  return (← get).tokens.head?

/-- Passes over the next token. -/
def pass : NodeM Unit :=
  modify fun source => { source with tokens := source.tokens.drop 1 }

/-- Passes over the next token if it is this one. -/
def passIf (token : Token) : NodeM Bool := do
  if (← peek) == some token then
    pass
    return true
  else
    return false

/-- What may stand in front of a node. -/
structure Properties where
  anchor : Option (List Char) := none
  tag : Option TagToken := none

/-- Reads a tag and an anchor, in either order, if they are there. -/
def readProperties : NodeM Properties := do
  match (← get).tokens with
  | .anchor name :: .tag tag :: _ | .tag tag :: .anchor name :: _ =>
    pass
    pass
    return { anchor := some name, tag := some tag }
  | .anchor name :: _ =>
    pass
    return { anchor := some name }
  | .tag tag :: _ =>
    pass
    return { tag := some tag }
  | _ => return {}

/-- The octets of a tag, whose handle has to have a meaning. -/
def fullTag (tag : TagToken) : NodeM Bytes := do
  if tag.handle.isEmpty then
    return tag.rest
  else
    let beginning ← (← get).handles.lookup tag.handle
    return beginning ++ tag.rest

/-- Whether the next token is one of these. -/
def isAt (tokens : List Token) : NodeM Bool := do
  return (← peek).any tokens.contains

/-- Passes the comma between two entries in brackets. -/
def passSeparator : NodeM Unit := do
  if ← passIf .flowEntry then return else failure

mutual

/-- Reads a node.  Outside brackets it may be a block collection, and as the value of a key it may
be a sequence whose hyphens are not further right than the key. -/
def read (fuel : Nat) (inBlock mayAlign : Bool) : NodeM Node := do
  match fuel with
  | 0 => failure
  | fuel + 1 =>
    match ← peek with
    | some (.alias name) =>
      pass
      return .alias (← (← get).anchors.number? name)
    | _ =>
      let properties ← readProperties
      let tag ← properties.tag.mapM fullTag
      match properties.anchor with
      | none => readContent fuel inBlock mayAlign tag tag.isSome
      | some name =>
        let order := (← get).anchors.numbers.length
        modify fun source => { source with anchors := source.anchors.set name }
        let node ← readContent fuel inBlock mayAlign tag true
        modify fun source =>
          { source with
            anchors := { source.anchors with nodes := (order, node) :: source.anchors.nodes } }
        return node

/-- Reads a node behind its properties.  With properties, it may be left out. -/
def readContent (fuel : Nat) (inBlock mayAlign : Bool) (tag : Option Bytes)
    (mayOmit : Bool) : NodeM Node := do
  match fuel with
  | 0 => failure
  | fuel + 1 =>
    match ← peek with
    | some (.scalar style text) =>
      pass
      return .scalar tag style text
    | some .flowSequenceStart =>
      pass
      readFlowSequence fuel true []
    | some .flowMappingStart =>
      pass
      readFlowMapping fuel true []
    | token =>
      if token == some .blockEntry && mayAlign then
        readAligned fuel []
      else if token == some .blockSequenceStart && inBlock then
        pass
        readBlockSequence fuel []
      else if token == some .blockMappingStart && inBlock then
        pass
        readBlockMapping fuel []
      else if mayOmit then
        return .scalar tag .plain []
      else
        failure

/-- Reads the entries of a block sequence; those `done` stand last first. -/
def readBlockSequence (fuel : Nat) (done : List Node) : NodeM Node := do
  match fuel with
  | 0 => failure
  | fuel + 1 =>
    if ← passIf .blockEntry then
      let item ← if ← isAt [.blockEntry, .blockEnd] then pure empty else read fuel true false
      readBlockSequence fuel (item :: done)
    else if ← passIf .blockEnd then
      return .sequence done.reverse
    else
      failure

/-- Reads the entries of a sequence whose hyphens stand below a key. -/
def readAligned (fuel : Nat) (done : List Node) : NodeM Node := do
  match fuel with
  | 0 => failure
  | fuel + 1 =>
    if ← passIf .blockEntry then
      let item ← if ← isAt [.blockEntry, .key, .value, .blockEnd] then pure empty
        else read fuel true false
      readAligned fuel (item :: done)
    else
      return .sequence done.reverse

/-- Reads the entries of a block mapping. -/
def readBlockMapping (fuel : Nat) (done : List (Node × Node)) : NodeM Node := do
  match fuel with
  | 0 => failure
  | fuel + 1 =>
    if ← passIf .blockEnd then
      return .mapping done.reverse
    else if ← passIf .key then
      let key ← readPart fuel
      let value ← if ← passIf .value then readPart fuel else pure empty
      readBlockMapping fuel ((key, value) :: done)
    else
      failure

/-- Reads a key or a value of a block mapping, which may be left out. -/
def readPart (fuel : Nat) : NodeM Node := do
  match fuel with
  | 0 => failure
  | fuel + 1 =>
    if ← isAt [.key, .value, .blockEnd] then return empty else read fuel true true

/-- Reads the entries of a sequence in brackets.  An entry with a key is a mapping of one entry. -/
def readFlowSequence (fuel : Nat) (first : Bool) (done : List Node) : NodeM Node := do
  match fuel with
  | 0 => failure
  | fuel + 1 =>
    if ← passIf .flowSequenceEnd then
      return .sequence done.reverse
    else
      unless first do passSeparator
      if ← passIf .flowSequenceEnd then
        return .sequence done.reverse
      else if ← passIf .key then
        let key ← if ← isAt [.value, .flowEntry, .flowSequenceEnd] then failure
          else read fuel false false
        let value ← readFlowValue fuel [.flowEntry, .flowSequenceEnd]
        readFlowSequence fuel false (.mapping [(key, value)] :: done)
      else
        let item ← read fuel false false
        readFlowSequence fuel false (item :: done)

/-- Reads the value of a key in brackets, in front of one of the tokens `ends`. -/
def readFlowValue (fuel : Nat) (ends : List Token) : NodeM Node := do
  match fuel with
  | 0 => failure
  | fuel + 1 =>
    if ← passIf .value then
      if ← isAt ends then return empty else read fuel false false
    else
      return empty

/-- Reads the entries of a mapping in brackets. -/
def readFlowMapping (fuel : Nat) (first : Bool) (done : List (Node × Node)) : NodeM Node := do
  match fuel with
  | 0 => failure
  | fuel + 1 =>
    if ← passIf .flowMappingEnd then
      return .mapping done.reverse
    else
      unless first do passSeparator
      if ← passIf .flowMappingEnd then
        return .mapping done.reverse
      else if ← passIf .key then
        let key ← if ← isAt [.value, .flowEntry, .flowMappingEnd] then pure empty
          else read fuel false false
        let value ← readFlowValue fuel [.flowEntry, .flowMappingEnd]
        readFlowMapping fuel false ((key, value) :: done)
      else
        let key ← read fuel false false
        readFlowMapping fuel false ((key, empty) :: done)

end

end Node

end SharedListener.Yaml
