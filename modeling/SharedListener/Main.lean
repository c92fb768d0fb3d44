import SharedListener.Config.File
import SharedListener.Operations.Wire
import SharedListener.Server
import Std.Async.Signal
import Std.Async.TCP

/-!
# The program

`main` takes the path of a configuration, listens where the configuration says, and
passes what arrives to a server until it is interrupted.

All connections share one server.  Whatever happens to one of them is a turn of the
server (`Server.turn`): what the turn has for the client is written to its socket, and
what it has for the consumer is dropped, since the program does nothing with payloads.
Whatever waits for a socket is a step that is repeated, so no connection holds up
another.
-/

namespace SharedListener.Program

open Std.Async

/-- The socket of one connection. -/
abbrev Peer := TCP.Socket.Client

/-- A socket that listens. -/
abbrev Entrance := TCP.Socket.Server

/-- The server as all connections share it. -/
abbrev Shared := IO.Ref Server

/-! ### Reading the configuration -/

/-- The configuration that is read if no path is given. -/
def defaultPath : String := "wsmux.yaml"

/-- What the system says about a file that cannot be read. -/
def readError : IO.Error → Config.ReadError
  | .noFileOrDirectory .. => .notFound
  | .inappropriateType .. => .isDirectory
  | .invalidArgument _ _ "name too long" => .nameTooLong
  | error => .other (toString error)

/-- The text of a file. -/
def readText (path : String) : IO (Except Config.ReadError String) := do
  if path.toList.contains '\x00' then
    return .error .zeroInName
  match ← (IO.FS.readBinFile path).toBaseIO with
  | .ok octets => return Config.textOf octets
  | .error error => return .error (readError error)

/-- The gateway that the configuration at `path` describes. -/
def load (path : String) : IO (Except Fault Gateway) := do
  match Config.ofFile path (← readText path) with
  | .ok config => return Gateway.start config
  | .error flaw => return .error flaw.fault

/-! ### Sockets -/

/-- An address as the system takes it, which has no place for a zone. -/
def systemAddress : SocketAddress → Std.Net.SocketAddress
  | .v4 octets service => .v4 ⟨⟨octets⟩, service⟩
  | .v6 groups _ service => .v6 ⟨⟨groups⟩, service⟩

/-- Begins to listen at an address. -/
def listenAt (address : SocketAddress) : IO Entrance := do
  let entrance ← TCP.Socket.Server.mk
  entrance.bind (systemAddress address)
  entrance.listen 128
  return entrance

/-- Repeats a step as long as it says so, and then does what is left to do.  A step that fails is
the last one. -/
partial def repeatWhile (step : Async Bool) (after : IO Unit) : IO Unit := do
  let result : Task (Except IO.Error Bool) ← step.toIO
  IO.chainTask result fun
    | .ok true => repeatWhile step after
    | _ => after

/-- Writes to a client, if there is anything to write. -/
def send (peer : Peer) (octets : Bytes) : Async Unit := do
  unless octets.isEmpty do
    peer.send ⟨octets.toArray⟩

/-- Takes connections at an address and begins to attend to each of them. -/
def serveAt (attend : Peer → IO Unit) (address : SocketAddress) : IO Unit := do
  let entrance ← listenAt address
  repeatWhile (do
    try
      attend (← entrance.accept)
    catch _ => pure ()
    return true) (pure ())

/-! ### Connections -/

/-- Takes one turn with the server, writes what comes of it to the client, and says whether the
connection goes on. -/
def turn (shared : Shared) (id : ConnectionId) (peer : Peer) (input : Server.Input) :
    Async Bool := do
  let outbox ← shared.modifyGet (·.turn input)
  send peer outbox.reply
  return (← shared.get).isLive id

/-- Reads once from a connection, and says whether it goes on. -/
def read (shared : Shared) (id : ConnectionId) (peer : Peer) : Async Bool := do
  let width := (← shared.get).gateway.config.listener.readBufferBytes
  match ← peer.recv? width.toUInt64 with
  | none => turn shared id peer (.finish id)
  | some chunk =>
    if ← turn shared id peer (.send id chunk.toList) then
      return true
    else
      peer.shutdown
      return false

/-- Attends to a connection.  One that a failure cuts short is broken off, which does nothing to one
that has ended. -/
def attend (shared : Shared) (peer : Peer) : IO Unit := do
  let id? ← shared.modifyGet fun server =>
    (if server.isAccepting then some server.nextId else none, (server.turn .connect).2)
  id?.forM fun id =>
    repeatWhile (read shared id peer)
      (shared.modify fun server => (server.turn (.reset id)).2)

/-! ### Questions about the gateway -/

/-- Reads a part of a request, and says whether its head is still unfinished. -/
def readRequest (request : IO.Ref Bytes) (peer : Peer) : Async Bool := do
  match ← peer.recv? 2048 with
  | none => return false
  | some chunk =>
    request.modify (· ++ chunk.toList)
    let request ← request.get
    return (Handshake.headLength? request).isNone && request.length < Handshake.defaultMaxBytes

/-- Answers one question. -/
def answer (shared : Shared) (request : IO.Ref Bytes) (peer : Peer) : Async Bool := do
  send peer (Operations.answerRequest (← shared.get).gateway (← request.get)).wire
  peer.shutdown
  return false

/-- Attends to someone with a question. -/
def attendQuestion (shared : Shared) (peer : Peer) : IO Unit := do
  let request ← IO.mkRef []
  repeatWhile (readRequest request peer) (repeatWhile (answer shared request peer) (pure ()))

/-! ### All together -/

/-- Runs a gateway until the program is interrupted. -/
def run (gateway : Gateway) : IO Unit := do
  let shared ← IO.mkRef (Server.ofGateway gateway)
  gateway.config.operationsAddress?.forM (serveAt (attendQuestion shared))
  gateway.config.listenAddress?.forM (serveAt (attend shared))
  let interrupt ← Signal.Waiter.mk .sigint false
  discard (← interrupt.wait).block
  shared.modify fun server => { server with gateway := server.gateway.drain }
  shared.modify fun server => (server.turn (.shutdown true false)).2

/-- Says what ended the program. -/
def fail (fault : Fault) : IO UInt32 := do
  IO.eprintln ("Error: " ++ fault.report)
  return 1

end SharedListener.Program

open SharedListener in
/-- Runs the gateway whose configuration the first argument names. -/
def main (arguments : List String) : IO UInt32 := do
  match ← Program.load (arguments.headD Program.defaultPath) with
  | .error fault => Program.fail fault
  | .ok gateway =>
    match ← (Program.run gateway).toBaseIO with
    | .ok () => return 0
    | .error error => Program.fail (.io (toString error))
