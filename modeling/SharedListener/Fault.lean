import SharedListener.Text.Quoted

/-!
# Faults

Everything that can go wrong at a shared listener, by cause.  A fault has a stable
code, which labels metrics, and a message for people.
-/

namespace SharedListener

/-- What went wrong. -/
inductive Fault where
  /-- The first bytes of a connection are no upgrade request. -/
  | notAHandshake (reason : String)
  /-- The requested scope is missing, or its application is disabled. -/
  | scopeRejected (path : String)
  /-- A frame declares more than is accepted. -/
  | oversizedFrame (length : Nat)
  /-- The accept hash does not give its documented value. -/
  | missingAlgorithm
  /-- The configuration is unusable. -/
  | badConfig (reason : String)
  /-- The configuration has a version that is not known here. -/
  | unsupportedVersion
  /-- A socket or file operation failed. -/
  | io (text : String)
  /-- A part of the gateway is gone. -/
  | internal (text : String)
deriving DecidableEq, Repr

namespace Fault

/-- The stable code of a fault. -/
def code : Fault → String
  | notAHandshake _ => "NOT_A_HANDSHAKE"
  | scopeRejected _ => "SCOPE_REJECTED"
  | oversizedFrame _ => "OVERSIZED_FRAME"
  | missingAlgorithm => "MISSING_ALGORITHM"
  | badConfig _ => "BAD_CONFIG"
  | unsupportedVersion => "UNSUPPORTED_VERSION"
  | io _ => "IO"
  | internal _ => "INTERNAL"

/-- The message of a fault. -/
def message : Fault → String
  | notAHandshake reason => "not a websocket handshake: " ++ reason
  | scopeRejected path => "scope rejected: " ++ path
  | oversizedFrame length =>
    "frame too large for this implementation (length " ++ toString length ++ ")"
  | missingAlgorithm => "accept hash algorithm is missing"
  | badConfig reason => "bad config: " ++ reason
  | unsupportedVersion => "unsupported config version"
  | io text => "io: " ++ text
  | internal text => "internal: " ++ text

/-- What a program that ends with a fault says: the cause, with its text between quotes. -/
def report : Fault → String
  | notAHandshake reason => "NotAHandshake(" ++ Text.quoted reason ++ ")"
  | scopeRejected path => "ScopeRejected(" ++ Text.quoted path ++ ")"
  | oversizedFrame length => "OversizedFrame(" ++ toString length ++ ")"
  | missingAlgorithm => "MissingAlgorithm"
  | badConfig reason => "BadConfig(" ++ Text.quoted reason ++ ")"
  | unsupportedVersion => "UnsupportedVersion"
  | io text => "Io(" ++ Text.quoted text ++ ")"
  | internal text => "Internal(" ++ Text.quoted text ++ ")"

end Fault

end SharedListener
