import SharedListener.Yaml.Node

/-!
# Documents, and what their nodes say

A text is one document: perhaps with directives in front of it and marked at its
beginning and its end, but never two and never none.

A node says a text, a number, a truth value, a list or a set of fields, depending on
what is asked for.  Only plain scalars are numbers and truth values, and any scalar is
a text.
-/

namespace SharedListener.Yaml

/-- The tag of a standard kind of scalar; without a kind, what all such tags begin with. -/
def standardTag (kind : String) : Bytes :=
  Text.Utf8.encodeString ("tag:yaml.org,2002:" ++ kind)

/-- The handles that have a meaning without a directive. -/
def commonHandles : List (List Char × Bytes) :=
  [(['!'], loneMark), (['!', '!'], standardTag "")]

/-- A document: its outermost node, and its anchors. -/
structure Document where
  root : Node
  anchors : Node.Anchors

namespace Document

/-- What directives have set. -/
structure Directives where
  hasVersion : Bool := false
  handles : List (List Char × Bytes) := []

/-- Reads directives up to the marker that begins the document. -/
def readDirectives (seen : Directives) : List Token → Option (Directives × List Token)
  | .versionDirective major minor :: rest =>
    if seen.hasVersion || major ≠ 1 || !(minor = 1 || minor = 2) then none
    else readDirectives { seen with hasVersion := true } rest
  | .tagDirective handle beginning :: rest =>
    if (seen.handles.lookup handle).isSome then none
    else readDirectives { seen with handles := (handle, beginning) :: seen.handles } rest
  | .documentStart :: rest => some (seen, rest)
  | _ => none

/-- Whether a marked document has nothing in it. -/
def isBare : List Token → Bool
  | [] | .versionDirective .. :: _ | .tagDirective .. :: _ => true
  | .documentStart :: _ | .documentEnd :: _ => true
  | _ => false

/-- Reads the outermost node of a document, which has to be all there is. -/
def readRoot (handles : List (List Char × Bytes)) (tokens : List Token) : Option Document := do
  let (root, source) ← (Node.read (2 * tokens.length + 2) true false).run { tokens, handles }
  let rest := source.tokens.dropWhile (· == .documentEnd)
  if rest.isEmpty then some ⟨root, source.anchors⟩ else none

/-- The document with these tokens. -/
def ofTokens? (tokens : List Token) : Option Document :=
  match tokens with
  | [] => none
  | .versionDirective .. :: _ | .tagDirective .. :: _ | .documentStart :: _ => do
    let (seen, rest) ← readDirectives {} tokens
    if isBare rest then
      if (rest.dropWhile (· == .documentEnd)).isEmpty then some ⟨Node.empty, {}⟩ else none
    else
      readRoot (seen.handles ++ commonHandles) rest
  | _ => readRoot commonHandles tokens

/-- The document that a text is. -/
def ofText? (text : String) : Option Document :=
  Token.ofText? text >>= ofTokens?

/-! ### Reading nodes -/

/-- The node that is meant, which for an alias is the anchored one. -/
def resolve? (document : Document) : Node → Option Node
  | .alias number => document.anchors.node? number
  | node => some node

/-- The text of a scalar. -/
def text? (document : Document) (node : Node) : Option String :=
  match document.resolve? node with
  | some (.scalar _ _ text) => some (String.ofList text)
  | _ => none

/-- The text of a scalar that may be more than a text: it is plain, or it is a literal whose tag
says what it is. -/
def bareText? (document : Document) (kind : String) (node : Node) : Option (List Char) :=
  match document.resolve? node with
  | some (.scalar _ .plain text) => some text
  | some (.scalar (some tag) .literal text) =>
    if tag = standardTag kind then some text else none
  | _ => none

/-- The value of a digit, if it is less than `base`. -/
def digit? (base : Nat) (c : Char) : Option Nat :=
  (hexValue? c).filter (· < base)

/-- The number that digits write, of which there has to be at least one. -/
def ofDigits? (base : Nat) (digits : List Char) : Option Nat :=
  if digits.isEmpty then none
  else digits.foldlM (fun number c => (digit? base c).map (number * base + ·)) 0

/-- The number that a text writes: decimal without leading zeros, or in base 16, 8 or 2 behind a
mark, and with a plus sign in front or without. -/
def numberOf? (text : List Char) : Option Nat :=
  let unsigned := if text.head? = some '+' then text.drop 1 else text
  match unsigned with
  | '0' :: 'x' :: digits => ofDigits? 16 digits
  | '0' :: 'o' :: digits => ofDigits? 8 digits
  | '0' :: 'b' :: digits => ofDigits? 2 digits
  | '0' :: _ :: _ => none
  | digits => ofDigits? 10 digits

/-- The number that a node says, which has to be less than `bound`. -/
def number? (document : Document) (bound : Nat) (node : Node) : Option Nat :=
  (document.bareText? "int" node >>= numberOf?).filter (· < bound)

/-- The truth value that a node says. -/
def truth? (document : Document) (node : Node) : Option Bool := do
  let text ← document.bareText? "bool" node
  if ["true", "True", "TRUE"].contains (String.ofList text) then some true
  else if ["false", "False", "FALSE"].contains (String.ofList text) then some false
  else none

/-- The items of a list, of which an empty scalar has none. -/
def items? (document : Document) (node : Node) : Option (List Node) :=
  match document.resolve? node with
  | some (.sequence items) => some items
  | some (.scalar _ .plain []) => some []
  | _ => none

/-- The entries of a mapping by their keys.  An empty scalar has none. -/
def entries? (document : Document) (node : Node) : Option (List (String × Node)) :=
  match document.resolve? node with
  | some (.mapping entries) => entries.mapM fun (key, value) => (document.text? key).map (·, value)
  | some (.scalar _ .plain []) => some []
  | _ => none

/-- The entries of a mapping, none of which has a name that is not `known` or comes twice. -/
def fields? (document : Document) (known : List String) (node : Node) :
    Option (List (String × Node)) := do
  let entries ← document.entries? node
  let names := entries.map Prod.fst
  if names.all known.contains && names.eraseDups.length = names.length then some entries else none

/-- Whether a text says that there is nothing. -/
def isNull (text : List Char) : Bool :=
  ["null", "Null", "NULL", "~"].contains (String.ofList text)

/-- The node itself, unless it says that there is nothing.  A scalar that is tagged as nothing has
to say so. -/
def present? (document : Document) (node : Node) : Option (Option Node) :=
  match document.resolve? node with
  | none => none
  | some (.scalar tag .plain text) =>
    match tag with
    | none => if text.isEmpty || isNull text then some none else some (some node)
    | some tag =>
      if tag = standardTag "null" then
        if isNull text then some none else none
      else
        some (some node)
  | some _ => some (some node)

/-- The name in a local tag: what follows its exclamation mark, if that is text. -/
def localName? (tag : Bytes) : Option String :=
  match tag with
  | 0x21 :: name => String.fromUTF8? ⟨name.toArray⟩
  | _ => none

/-- The name of a choice without content: the one in a local tag, where the scalar has to say that
there is nothing, and otherwise the text of the scalar. -/
def choice? (document : Document) (node : Node) : Option String :=
  match document.resolve? node with
  | some (.scalar tag style text) =>
    match tag.bind localName? with
    | some name => if style = .plain && (text.isEmpty || isNull text) then some name else none
    | none => some (String.ofList text)
  | _ => none

end Document

end SharedListener.Yaml
