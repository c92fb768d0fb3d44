import SharedListener.Connection
import SharedListener.SocketAddress
import SharedListener.Text.Quoted

/-!
# Configurations

What a gateway is told before it starts: where to listen, how much to buffer, which
frames to take, where to answer questions about its own state, and which applications
take connections.

A configuration can be written that makes no sense.  `Config.validate` finds the first
flaw, in a fixed order: version, applications, listener, operations.
-/

namespace SharedListener

namespace Config

/-- How connections are to be taken. -/
structure Listener where
  /-- The address to listen on. -/
  listen : String := "0.0.0.0:5080"
  /-- How much is read from a connection at once. -/
  readBufferBytes : Nat := 2048
  /-- The longest payload of one frame. -/
  maxFrameBytes : Nat := 16777216
  /-- How many bytes may wait for the end of the headers. -/
  maxHandshakeBytes : Nat := Handshake.defaultMaxBytes
  /-- What becomes of ping and pong payloads. -/
  control : ControlPolicy := .fold
deriving DecidableEq, Repr

/-- Where questions about the state of the gateway are answered. -/
structure Operations where
  listen : String
deriving DecidableEq, Repr

/-- An application that may take connections. -/
structure Scope where
  app : String
  enabled : Bool := true
deriving DecidableEq, Repr

end Config

/-- A configuration as it was written. -/
structure Config where
  version : Nat
  listener : Config.Listener := {}
  operations : Option Config.Operations := none
  scopes : List Config.Scope := []
deriving DecidableEq, Repr

namespace Config

/-- What is wrong with a configuration. -/
inductive Flaw where
  /-- It could not be read from `path`. -/
  | unreadable (path reason : String)
  /-- It is no text in the expected form. -/
  | malformed
  | version
  | noScopes
  | app (name : String)
  | listen (text : String)
  | readBufferBytes
  | maxFrameBytes
  | maxHandshakeBytes
  | operationsListen (text : String)
deriving DecidableEq, Repr

/-- A flaw as a fault. -/
def Flaw.fault : Flaw → Fault
  | unreadable path reason => .badConfig ("cannot read " ++ path ++ ": " ++ reason)
  | malformed => .badConfig "invalid yaml"
  | version => .unsupportedVersion
  | noScopes => .badConfig "scopes must not be empty"
  | app name =>
    .badConfig ("scope app must be a single non-empty path segment: " ++ Text.quoted name)
  | listen text => .badConfig ("gateway.listen is not a socket address: " ++ text)
  | readBufferBytes => .badConfig "gateway.read_buffer_bytes must be between 512 and 65536"
  | maxFrameBytes => .badConfig "gateway.max_frame_bytes must be between 1 and 2147483646"
  | maxHandshakeBytes => .badConfig "gateway.max_handshake_bytes must be between 256 and 65536"
  | operationsListen text => .badConfig ("ops.listen is not a socket address: " ++ text)

/-- Fails with `flaw` unless `condition` holds. -/
def require (condition : Bool) (flaw : Flaw) : Except Flaw Unit :=
  if condition then .ok () else .error flaw

/-- Whether a name is one segment of a path and not empty. -/
def isSegment (name : String) : Bool :=
  !name.isEmpty && !name.toList.contains '/'

/-- Finds the first flaw of a listener. -/
def Listener.validate (listener : Listener) : Except Flaw Unit := do
  require (SocketAddress.ofText? listener.listen).isSome (.listen listener.listen)
  require (512 ≤ listener.readBufferBytes && listener.readBufferBytes ≤ 65536) .readBufferBytes
  require (1 ≤ listener.maxFrameBytes && listener.maxFrameBytes < Frame.lengthCeiling)
    .maxFrameBytes
  require (256 ≤ listener.maxHandshakeBytes && listener.maxHandshakeBytes ≤ 65536)
    .maxHandshakeBytes

/-- Finds the flaw of an operations section. -/
def Operations.validate (operations : Operations) : Except Flaw Unit :=
  require (SocketAddress.ofText? operations.listen).isSome (.operationsListen operations.listen)

/-- Finds the flaw of an application. -/
def Scope.validate (scope : Scope) : Except Flaw Unit :=
  require (isSegment scope.app) (.app scope.app)

/-- Finds the first flaw of a configuration. -/
def validate (config : Config) : Except Flaw Unit := do
  require (config.version = 1) .version
  require (!config.scopes.isEmpty) .noScopes
  config.scopes.forM Scope.validate
  config.listener.validate
  config.operations.forM Operations.validate

/-- The address that connections are taken at. -/
def listenAddress? (config : Config) : Option SocketAddress :=
  SocketAddress.ofText? config.listener.listen

/-- The address for questions about the state of the gateway. -/
def operationsAddress? (config : Config) : Option SocketAddress := do
  SocketAddress.ofText? (← config.operations).listen

/-- What frames a listener takes. -/
def Listener.limits (listener : Listener) : Frame.Limits :=
  { maxFrameBytes := listener.maxFrameBytes, control := listener.control }

/-- What a listener allows its connections. -/
def Listener.settings (listener : Listener) : Connection.Settings :=
  { maxHandshakeBytes := listener.maxHandshakeBytes, limits := listener.limits }

/-- The switches of all applications, in the order in which they are set. -/
def switches (config : Config) : List (String × Bool) :=
  config.scopes.map fun scope => (scope.app, scope.enabled)

end Config

end SharedListener
