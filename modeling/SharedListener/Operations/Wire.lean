import SharedListener.Operations
import SharedListener.Text.Json

/-!
# Questions and answers on the wire

A question comes as an HTTP request, of which only the first line matters.  The answer
goes out as an HTTP response, with which the connection ends.
-/

namespace SharedListener.Operations

/-- The question at the head of a request. -/
def Question.ofRequest? (request : Bytes) : Option Question :=
  match (Text.lines (Text.Utf8.recover request)).map (Text.cut ' ') with
  | [method, target, version] :: _ =>
    if "HTTP/1.".toList.isPrefixOf version then
      (ofParts (String.ofList method) (String.ofList target)).toOption
    else
      none
  | _ => none

/-- The status of an application as JSON. -/
def ScopeStatus.json (status : ScopeStatus) : String :=
  "\x7b\"app\":" ++ Text.jsonString status.app ++ ",\"enabled\":" ++ toString status.enabled ++
    ",\"connections\":" ++ toString status.connections ++ "\x7d"

/-- The text of a content. -/
def Body.content : Body → String
  | .nothing => ""
  | .text content => content
  | .listing scopes => "[" ++ ",".intercalate (scopes.map ScopeStatus.json) ++ "]"

/-- What a status says in words. -/
def reason (status : Nat) : String :=
  match status with
  | 200 => "OK"
  | 400 => "Bad Request"
  | 404 => "Not Found"
  | 405 => "Method Not Allowed"
  | 503 => "Service Unavailable"
  | _ => "Unknown"

/-- The head of a response, line by line. -/
def Reply.head (reply : Reply) (content : Bytes) : List String :=
  ["HTTP/1.1 " ++ toString reply.status ++ " " ++ reason reply.status] ++
    (reply.mediaType.map fun mediaType => "content-type: " ++ mediaType).toList ++
    (if reply.status = 405 then ["allow: GET,HEAD"] else []) ++
    ["content-length: " ++ toString content.length, "connection: close"]

/-- The octets of a response. -/
def Reply.wire (reply : Reply) : Bytes :=
  let content := Text.Utf8.encodeString reply.body.content
  Text.Utf8.encodeString (String.join ((reply.head content).map (· ++ "\r\n")) ++ "\r\n") ++ content

/-- The answer to a request, which may be none that is understood. -/
def answerRequest (gateway : Gateway) (request : Bytes) : Reply :=
  match Question.ofRequest? request with
  | some question => respond gateway question
  | none => ⟨400, none, .nothing⟩

end SharedListener.Operations
