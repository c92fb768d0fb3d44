import SharedListener.Gateway
import SharedListener.Operations.Question

/-!
# Answers about a gateway

Four paths answer questions about the state of a gateway: whether it lives, whether it
takes connections, what it has counted, and which applications it knows.
-/

namespace SharedListener.Operations

/-- What is known of an application. -/
structure ScopeStatus where
  app : String
  enabled : Bool
  /-- How many upgraded connections it has. -/
  connections : Nat
deriving DecidableEq, Repr

/-- What an answer contains. -/
inductive Body where
  | nothing
  | text (content : String)
  | listing (scopes : List ScopeStatus)
deriving DecidableEq, Repr

/-- An answer to a question. -/
structure Reply where
  status : Nat
  /-- The media type of the content, if there is one. -/
  mediaType : Option String := none
  body : Body := .nothing
deriving DecidableEq, Repr

/-- A text that is meant for people. -/
def plainText (status : Nat) (content : String) : Reply :=
  ⟨status, some "text/plain; charset=utf-8", .text content⟩

/-- All applications by name, with the numbers of their connections. -/
def listing (scopes : Scope.Registry) : List ScopeStatus :=
  scopes.switches.map fun (app, enabled) => ⟨app, enabled, (scopes.connectionsIn app).length⟩

/-- The answer that a path stands for, if it stands for one. -/
def answer? (gateway : Gateway) (path : String) : Option Reply :=
  match path with
  | "/healthz" => some (plainText 200 "ok")
  | "/readyz" =>
    some (if gateway.isDraining then plainText 503 "draining" else plainText 200 "ready")
  | "/metrics" =>
    some ⟨200, some "text/plain; version=0.0.4; charset=utf-8", .text gateway.metricsText⟩
  | "/scopes" => some ⟨200, some "application/json", .listing (listing gateway.router.scopes)⟩
  | _ => none

/-- The answer to a question.  Only reading is allowed, and a question for the head of an answer
gets no content. -/
def respond (gateway : Gateway) (question : Question) : Reply :=
  match answer? gateway question.target.pathText with
  | none => ⟨404, none, .nothing⟩
  | some reply =>
    if question.method = "GET" then reply
    else if question.method = "HEAD" then { reply with body := .nothing }
    else ⟨405, none, .nothing⟩

end SharedListener.Operations
