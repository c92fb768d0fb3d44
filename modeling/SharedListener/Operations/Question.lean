/-!
# What is asked of a gateway

A question is a method and a target, as they stand in the first line of an HTTP request.
A target is a path, a star, an absolute address, or the mere name of a host; its path is
all that an answer depends on.  What is none of these is turned down, and `Flaw` says why.
-/

namespace SharedListener.Operations

/-- Why a method or a target is not taken. -/
inductive Flaw where
  /-- The method is not a word. -/
  | method
  | empty
  | tooLong
  | schemeTooLong
  /-- A character stands where it may not stand. -/
  | character
  /-- The name of a host is malformed. -/
  | authority
  /-- The target is none of the forms that there are. -/
  | form
deriving DecidableEq, Repr

/-- A flaw in words. -/
def Flaw.text : Flaw → String
  | method => "invalid HTTP method"
  | empty => "empty string"
  | tooLong => "uri too long"
  | schemeTooLong => "scheme too long"
  | character => "invalid uri character"
  | authority => "invalid authority"
  | form => "invalid format"

/-- What a request is directed at. -/
inductive Target where
  /-- The gateway as a whole. -/
  | star
  | path (path : List Char)
  /-- An address with a scheme and a host; its path may be empty. -/
  | absolute (path : List Char)
  /-- The name of a host. -/
  | host
deriving DecidableEq, Repr

namespace Target

/-- How many octets a target may have. -/
def maxBytes : Nat := 65534

/-- How many characters a scheme may have. -/
def maxSchemeLength : Nat := 64

/-- How many colons may stand in the address of a host. -/
def maxColons : Nat := 8

/-- Whether `c` may stand in the scheme of an absolute target. -/
def isSchemeChar (c : Char) : Bool :=
  c.isAlphanum || "+-.~".toList.contains c

/-- Whether `c` may stand in the name of a host. -/
def isHostChar (c : Char) : Bool :=
  c.isAlphanum || "!$&'()*+,-.;=_~".toList.contains c

/-- Whether `c` may stand in a path. -/
def isPathChar (c : Char) : Bool :=
  '!' ≤ c && !"<>`".toList.contains c

/-- Whether `c` may stand in a query. -/
def isQueryChar (c : Char) : Bool :=
  '!' ≤ c && !"\"<>".toList.contains c

/-- Whether `c` ends the name of a host. -/
def endsHost (c : Char) : Bool :=
  c == '/' || c == '?' || c == '#'

/-- What was seen of the name of a host.  What stands in front of an at sign is a user, so that
colons and escapes are no matter there, and in brackets stands a numeric address. -/
structure HostSeen where
  colons : Nat := 0
  isOpened : Bool := false
  isClosed : Bool := false
  isEscaped : Bool := false
  /-- Whether the last character was an at sign. -/
  endsUser : Bool := false
deriving DecidableEq, Repr

/-- The next character of the name of a host. -/
def HostSeen.next (seen : HostSeen) (c : Char) : Except Flaw HostSeen :=
  let seen := { seen with endsUser := false }
  match c with
  | ':' =>
    if maxColons ≤ seen.colons then throw .authority
    else return { seen with colons := seen.colons + 1 }
  | '[' =>
    if seen.isEscaped || seen.isOpened then throw .authority
    else return { seen with isOpened := true }
  | ']' =>
    if !seen.isOpened || seen.isClosed then throw .authority
    else return { seen with isClosed := true, colons := 0, isEscaped := false }
  | '@' => return { seen with endsUser := true, colons := 0, isEscaped := false }
  | '%' => return { seen with isEscaped := true }
  | c => if isHostChar c then return seen else throw .character

/-- Checks the name of a host. -/
def checkHost (name : List Char) : Except Flaw Unit := do
  let seen ← name.foldlM HostSeen.next {}
  if seen.isOpened != seen.isClosed || 1 < seen.colons || seen.endsUser || seen.isEscaped then
    throw .authority

/-- Checks what stands behind a path.  A number sign ends a query, and what follows it is not
looked at. -/
def checkQuery : List Char → Except Flaw Unit
  | '?' :: query =>
    if (query.takeWhile (· != '#')).all isQueryChar then return else throw .character
  | _ => return

/-- The path at the head of a text, which a query or a number sign may follow. -/
def readPath (text : List Char) : Except Flaw (List Char) := do
  let path := text.takeWhile fun c => c != '?' && c != '#'
  if !path.all isPathChar then throw .character
  checkQuery (text.drop path.length)
  return path

/-- What follows the scheme of an absolute target and the two slashes behind it. -/
def behindScheme? (text : List Char) : Except Flaw (Option (List Char)) :=
  let scheme := text.takeWhile isSchemeChar
  match text.drop scheme.length with
  | ':' :: '/' :: '/' :: rest =>
    if maxSchemeLength < scheme.length then throw .schemeTooLong else return some rest
  | _ => return none

/-- Reads a target behind its scheme. -/
def readAbsolute (text : List Char) : Except Flaw Target := do
  let host := text.takeWhile (!endsHost ·)
  checkHost host
  if host.isEmpty then throw .form
  return .absolute (← readPath (text.drop host.length))

/-- Reads a target that is the name of a host. -/
def readHost (text : List Char) : Except Flaw Target := do
  checkHost (text.takeWhile (!endsHost ·))
  if text.any endsHost then throw (if text.length = 1 then .character else .form)
  return .host

/-- The target that a text is. -/
def ofText (text : String) : Except Flaw Target := do
  if maxBytes < text.utf8ByteSize then throw .tooLong
  match text.toList with
  | [] => throw .empty
  | ['*'] => return .star
  | '/' :: rest => return .path (← readPath ('/' :: rest))
  | text =>
    match ← behindScheme? text with
    | some rest => readAbsolute rest
    | none => readHost text

/-- The path of a target.  No path in an address means the outermost one, and a mere host has
none. -/
def pathText : Target → String
  | star => "*"
  | path text => String.ofList text
  | absolute text => if text.isEmpty then "/" else String.ofList text
  | host => ""

end Target

/-- What a request asks for. -/
structure Question where
  method : String
  target : Target
deriving DecidableEq, Repr

namespace Question

/-- Whether `c` may stand in a method. -/
def isMethodChar (c : Char) : Bool :=
  c.isAlphanum || "!#$%&'*+-.^_`|~".toList.contains c

/-- The question with this method and this target. -/
def ofParts (method target : String) : Except Flaw Question := do
  if method.isEmpty || !method.toList.all isMethodChar then throw .method
  return ⟨method, ← Target.ofText target⟩

end Question

end SharedListener.Operations
