import SharedListener.Fault
import SharedListener.Handshake.Header
import SharedListener.Text.Utf8

/-!
# Negotiating an upgrade

`negotiate` reads a request and asks a gate whether its scope is live.  The gate is
asked before any header is looked at, so a request for a disabled application is
rejected whatever else it says.
-/

namespace SharedListener.Handshake

/-- An upgrade request that may be granted. -/
structure Request where
  /-- The path and the known headers. -/
  metadata : Metadata
  /-- The client key, which is not empty. -/
  key : String

/-- The value of a known header, by its name. -/
def Request.header? (request : Request) (name : String) : Option String :=
  request.metadata.headers[name]?

/-- The protocol version that the client asks for. -/
def Request.version? (request : Request) : Option String :=
  request.header? Header.version.name

/-- Why bytes are no upgrade request. -/
inductive Flaw where
  | notGet
  | noPath
  | noProtocol
  | noKey
deriving DecidableEq, Repr

/-- The wording of a flaw. -/
def Flaw.text : Flaw → String
  | notGet => "request line is not a GET"
  | noPath => "request line has no path"
  | noProtocol => "request line has no protocol"
  | noKey => "missing Sec-WebSocket-Key"

/-- Why an upgrade is not granted. -/
inductive Refusal where
  /-- The bytes are no upgrade request. -/
  | flawed (flaw : Flaw)
  /-- The scope at `path` is not live. -/
  | rejected (path : String)
deriving DecidableEq, Repr

/-- A refusal as a fault. -/
def Refusal.fault : Refusal → Fault
  | flawed flaw => .notAHandshake flaw.text
  | rejected path => .scopeRejected path

/-- The path of a request line: from its first slash to the next space. -/
def requestPath (line : List Char) : Except Flaw (List Char) :=
  let fromSlash := line.dropWhile (· != '/')
  if fromSlash.isEmpty then .error .noPath
  else if !fromSlash.contains ' ' then .error .noProtocol
  else .ok (fromSlash.takeWhile (· != ' '))

/-- The path of a request, read off its first line. -/
def pathOf (requestLine : List Char) : Except Flaw (List Char) :=
  if "GET ".toList.isPrefixOf requestLine then requestPath requestLine else .error .notGet

/-- What the header lines of a request say about the connection at `path`. -/
def metadataOf (path : List Char) (headerLines : List (List Char)) : Metadata :=
  (headerLines.takeWhile (!·.isEmpty)).foldl withLine { path := String.ofList path }

/-- Grants an upgrade if there is a key. -/
def grant (metadata : Metadata) : Except Refusal Request :=
  match metadata.headers[Header.key.name]? with
  | some key => if key.isEmpty then .error (.flawed .noKey) else .ok ⟨metadata, key⟩
  | none => .error (.flawed .noKey)

/-- Reads the lines of a request, of which `requestLine` is the first. -/
def negotiateLines (isEnabled : String → Bool) (requestLine : List Char)
    (headerLines : List (List Char)) : Except Refusal Request :=
  match pathOf requestLine with
  | .error flaw => .error (.flawed flaw)
  | .ok path =>
    if path.length ≤ 1 || !isEnabled (String.ofList path) then
      .error (.rejected (String.ofList path))
    else
      grant (metadataOf path headerLines)

/-- Reads an upgrade request, where `isEnabled` is the gate that knows which paths are live. -/
def negotiate (isEnabled : String → Bool) (received : Bytes) : Except Refusal Request :=
  match Text.lines (Text.Utf8.recover received) with
  | [] => .error (.flawed .notGet)
  | requestLine :: headerLines => negotiateLines isEnabled requestLine headerLines

end SharedListener.Handshake
