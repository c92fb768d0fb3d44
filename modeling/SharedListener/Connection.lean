import SharedListener.Frame.Decoder
import SharedListener.Handshake.Prologue
import SharedListener.Handshake.Request
import SharedListener.Handshake.Response

/-!
# One connection

A connection begins unclassified.  Its first bytes decide once and for all whether
it speaks the native protocol, whose bytes are copied through, or WebSocket, whose
frames are taken apart.

`Connection.receive` is the whole life of a connection as one step: it takes a
chunk of bytes to an action for the transport, the connection afterwards, and the
events that concern others.
-/

namespace SharedListener

/-- Which protocol a connection speaks. -/
inductive Protocol where
  | unclassified
  | native
  | websocket
deriving DecidableEq, Repr

/-- The name of a protocol in metrics. -/
def Protocol.label : Protocol → String
  | unclassified => "unclassified"
  | native => "native"
  | websocket => "websocket"

/-- How far a connection has come. -/
inductive Lifecycle where
  /-- Nothing has been received. -/
  | fresh
  /-- The protocol is not known. -/
  | handshaking
  /-- The protocol is known, and bytes flow. -/
  | established
  /-- The connection is to end. -/
  | closed
deriving DecidableEq, Repr

namespace Connection

/-- What a listener allows its connections. -/
structure Settings where
  /-- How many bytes may wait for the end of the headers. -/
  maxHandshakeBytes : Nat := Handshake.defaultMaxBytes
  /-- What frames are taken. -/
  limits : Frame.Limits := {}
deriving DecidableEq, Repr

/-- What a connection keeps for its protocol.  Only a WebSocket connection has a decoder. -/
inductive State where
  /-- The bytes received while the protocol is not known. -/
  | unclassified (received : Bytes)
  | native
  | websocket (decoder : Frame.Decoder)
deriving DecidableEq, Repr

/-- What the outcome of decoding calls for. -/
inductive Reaction where
  /-- These bytes are to be handed on; there is at least one. -/
  | forward (payload : Bytes)
  /-- There is nothing to do yet. -/
  | await
  /-- The connection is to end. -/
  | close
deriving DecidableEq, Repr

/-- What the transport is to do after a chunk. -/
inductive Action where
  /-- Hand these bytes on. -/
  | forward (payload : Bytes)
  /-- Send the response, and then do what the bytes behind the request call for, if they call for
  anything. -/
  | upgrade (response : Bytes) (behind : Option Reaction)
  /-- Wait for more. -/
  | await
  /-- Send the farewell, if there is one, and end the connection. -/
  | close (farewell : Option Bytes)
deriving DecidableEq, Repr

/-- A reaction as an action of its own. -/
def Reaction.action : Reaction → Action
  | forward payload => .forward payload
  | await => .await
  | close => .close none

/-- What a chunk brings about outside the connection. -/
inductive Event where
  /-- The connection turned out to speak the native protocol. -/
  | becameNative
  /-- The connection was upgraded. -/
  | upgraded (metadata : Metadata)
  /-- The scope of an upgrade request was not live. -/
  | rejected
  /-- Bytes were handed on. -/
  | forwarded (protocol : Protocol) (count : Nat)
  /-- A close frame ended the connection. -/
  | closeFrame
  /-- Undecodable frames ended the connection. -/
  | decodeError (fault : Fault)

end Connection

/-- One connection. -/
structure Connection where
  lifecycle : Lifecycle := .fresh
  state : Connection.State := .unclassified []
  /-- What the upgrade request said; empty as long as there was none. -/
  metadata : Metadata := {}

namespace Connection

/-- Which protocol the connection speaks. -/
def protocol (connection : Connection) : Protocol :=
  match connection.state with
  | .unclassified _ => .unclassified
  | .native => .native
  | .websocket _ => .websocket

/-- The effect of a chunk. -/
structure Step where
  action : Action
  connection : Connection
  events : List Event := []

/-- Hands all bytes `received` on, and from now on those that follow. -/
def becomeNative (connection : Connection) (received : Bytes) : Step where
  action := .forward received
  connection := { connection with state := .native, lifecycle := .established }
  events := [.becameNative, .forwarded .native received.length]

/-- The reaction to decoded frames, with the lifecycle afterwards and the events.  A payload of no
bytes is not handed on. -/
def react (lifecycle : Lifecycle) :
    Except Fault Frame.Outcome → Reaction × Lifecycle × List Event
  | .ok (.complete payload _ _) =>
    if payload.isEmpty then (.await, lifecycle, [])
    else (.forward payload, lifecycle, [.forwarded .websocket payload.length])
  | .ok .needMore => (.await, lifecycle, [])
  | .ok .close => (.close, .closed, [.closeFrame])
  | .error fault => (.close, .closed, [.decodeError fault])

/-- Decodes the bytes `behind` a granted request.  If there are none, then there is no reaction. -/
def decodeBehind (limits : Frame.Limits) (behind : Bytes) :
    (Option Reaction × Lifecycle × List Event) × Frame.Decoder :=
  if behind.isEmpty then
    ((none, .established, []), {})
  else
    let (outcome, decoder) := Frame.Decoder.feed limits {} behind
    let (reaction, lifecycle, events) := react .established outcome
    ((some reaction, lifecycle, events), decoder)

/-- Answers a granted request with the bytes `behind` it.  To wait for more of them is nothing to be
done behind the response. -/
def upgrade (limits : Frame.Limits) (request : Handshake.Request) (behind : Bytes) : Step :=
  let metadata := request.metadata
  let ((reaction, lifecycle, events), decoder) := decodeBehind limits behind
  { action :=
      .upgrade (Handshake.response metadata.origin metadata.host request.key)
        (reaction.filter (· ≠ .await))
    connection := ⟨lifecycle, .websocket decoder, metadata⟩
    events := .upgraded metadata :: events }

/-- Turns a request for `path` down. -/
def reject (connection : Connection) (path : String) : Step where
  action := .close (some Handshake.rejection)
  connection :=
    { lifecycle := .closed
      state := .unclassified []
      metadata := { connection.metadata with path } }
  events := [.rejected]

/-- Handles a request whose headers are complete. -/
def receiveRequest (settings : Settings) (isEnabled : String → Bool) (connection : Connection)
    (received : Bytes) : Step :=
  let headLength := (Handshake.headLength? received).getD received.length
  match Handshake.negotiate isEnabled (received.take headLength) with
  | .ok request => upgrade settings.limits request (received.drop headLength)
  | .error (.rejected path) => reject connection path
  | .error (.flawed _) => becomeNative connection received

/-- Handles the bytes `received` so far on a connection whose protocol is not known. -/
def receiveUnclassified (settings : Settings) (isEnabled : String → Bool)
    (connection : Connection) (received : Bytes) : Step :=
  match Handshake.Prologue.detect settings.maxHandshakeBytes received with
  | .needMore =>
    { action := .await, connection := { connection with state := .unclassified received } }
  | .native => becomeNative connection received
  | .request => receiveRequest settings isEnabled connection received

/-- Handles a chunk of frames. -/
def receiveFrames (limits : Frame.Limits) (connection : Connection) (decoder : Frame.Decoder)
    (chunk : Bytes) : Step :=
  let (outcome, decoder) := decoder.feed limits chunk
  let (reaction, lifecycle, events) := react connection.lifecycle outcome
  { action := reaction.action
    connection := { connection with lifecycle, state := .websocket decoder }
    events }

/-- The connection once it has received something. -/
def awake (connection : Connection) : Connection :=
  if connection.lifecycle = .fresh then { connection with lifecycle := .handshaking }
  else connection

/-- Handles a chunk on a connection that is not closed. -/
def receiveOpen (settings : Settings) (isEnabled : String → Bool) (connection : Connection)
    (chunk : Bytes) : Step :=
  match connection.state with
  | .unclassified received =>
    receiveUnclassified settings isEnabled connection (received ++ chunk)
  | .native =>
    { action := .forward chunk, connection, events := [.forwarded .native chunk.length] }
  | .websocket decoder => receiveFrames settings.limits connection decoder chunk

/-- Handles a chunk of bytes, where `isEnabled` is the gate that knows which paths are live. -/
def receive (settings : Settings) (isEnabled : String → Bool) (connection : Connection)
    (chunk : Bytes) : Step :=
  if connection.lifecycle = .closed then
    { action := .close none, connection }
  else
    receiveOpen settings isEnabled connection.awake chunk

end Connection

end SharedListener
