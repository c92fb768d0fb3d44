import SharedListener.Delivery
import SharedListener.Gateway

/-!
# Serving connections

The server takes connections from a listener and reads from each of them until it ends.
Every read goes through the router, and the action that comes back is carried out:
bytes are handed to the consumer, responses are written to the client, and the
connection is ended where the action says so or where the consumer is gone.

However a connection ends, its entry is dropped, the consumer is told and the number of
active connections goes down.

A `Server` is the state between two inputs, and `Server.step` carries one input through
until there is nothing left to do.  Writing to a client and shutting its connection down
always succeed here: what is written is noted, and a client that does not take it any
more is one that breaks the connection off, with the next input.

The notes of what was written and delivered grow with every input.  `Server.turn` hands
them over instead of keeping them, and is what a program repeats.
-/

namespace SharedListener

/-- What a server knows of a client. -/
structure Client where
  /-- What was written to the client, as far as it was not handed over. -/
  written : Bytes := []
  /-- Whether the connection has ended. -/
  ended : Bool := false
deriving DecidableEq, Repr

/-- A gateway with its clients and its consumer. -/
structure Server where
  gateway : Gateway
  /-- How many connections were taken. -/
  taken : Nat := 0
  /-- The clients by the numbers of their connections, which go up from 1. -/
  clients : Std.ExtTreeMap ConnectionId Client := ∅
  /-- What the consumer got, in order, as far as it was not handed over. -/
  delivered : List Delivery := []
  /-- Whether there is a consumer. -/
  hasConsumer : Bool := true
  /-- Whether new connections are taken. -/
  isAccepting : Bool := true

namespace Server

/-- The server of a gateway before any connection. -/
def ofGateway (gateway : Gateway) : Server := { gateway }

/-- The number of the next connection. -/
def nextId (server : Server) : ConnectionId :=
  server.taken + 1

/-- Takes a connection. -/
def connect (server : Server) : Server :=
  { server with
    gateway := server.gateway.accept
    taken := server.taken + 1
    clients := server.clients.insert server.nextId {} }

/-- Whether a connection is there and has not ended. -/
def isLive (server : Server) (id : ConnectionId) : Bool :=
  server.clients[id]?.any fun client => !client.ended

/-- What was written to the client of a connection. -/
def writtenTo (server : Server) (id : ConnectionId) : Bytes :=
  (server.clients[id]?.map Client.written).getD []

/-- Hands a delivery to the consumer, if there is one. -/
def deliver (server : Server) (delivery : Delivery) : Server :=
  if server.hasConsumer then { server with delivered := server.delivered ++ [delivery] }
  else server

/-- Writes to a client. -/
def write (server : Server) (id : ConnectionId) (octets : Bytes) : Server :=
  { server with
    clients := server.clients.modify id fun client =>
      { client with written := client.written ++ octets } }

/-- Ends a connection. -/
def finish (server : Server) (id : ConnectionId) : Server :=
  { server.deliver (.closed id) with
    gateway := server.gateway.release id
    clients := server.clients.modify id fun client => { client with ended := true } }

/-- Hands bytes of a connection on.  Without a consumer that ends the connection. -/
def forward (server : Server) (id : ConnectionId) (octets : Bytes) : Server :=
  let protocol := (server.gateway.router.protocol? id).getD .native
  if server.hasConsumer then server.deliver (.payload id protocol octets) else server.finish id

/-- Does what decoded bytes call for. -/
def react (server : Server) (id : ConnectionId) : Connection.Reaction → Server
  | .forward octets => server.forward id octets
  | .await => server
  | .close => server.finish id

/-- Carries an action out. -/
def perform (server : Server) (id : ConnectionId) : Connection.Action → Server
  | .forward octets => server.forward id octets
  | .upgrade response none => server.write id response
  | .upgrade response (some behind) => (server.write id response).react id behind
  | .await => server
  | .close farewell => (server.write id (farewell.getD [])).finish id

/-- Reads a chunk from a connection that has not ended. -/
def read (server : Server) (id : ConnectionId) (chunk : Bytes) : Server :=
  if server.isLive id then
    let (action, gateway) := server.gateway.receive id chunk
    { server with gateway }.perform id action
  else
    server

/-- The pieces of `width` octets that a sequence is read in, the last of which may be shorter. -/
def pieces (width : Nat) (octets : Bytes) : List Bytes :=
  let count := (octets.length + width - 1) / width
  (List.range count).map fun i => (octets.drop (i * width)).take width

/-- Reads what a client sent, as much at once as the configuration says. -/
def receive (server : Server) (id : ConnectionId) (octets : Bytes) : Server :=
  (pieces server.gateway.config.listener.readBufferBytes octets).foldl
    (fun server chunk => server.read id chunk) server

/-- What can happen to a server. -/
inductive Input where
  /-- A client connects. -/
  | connect
  /-- A client sends something. -/
  | send (id : ConnectionId) (octets : Bytes)
  /-- A client has nothing more to send. -/
  | finish (id : ConnectionId)
  /-- A client breaks the connection off. -/
  | reset (id : ConnectionId)
  /-- The consumer goes away. -/
  | dropConsumer
  /-- An application is switched on or off. -/
  | setEnabled (app : String) (enabled : Bool)
  /-- The server is told whether to stop taking connections, and perhaps left to itself. -/
  | shutdown (stop abandon : Bool)
deriving DecidableEq, Repr

/-- Carries one input through. -/
def step (server : Server) : Input → Server
  | .connect => if server.isAccepting then server.connect else server
  | .send id octets => server.receive id octets
  | .finish id | .reset id => if server.isLive id then server.finish id else server
  | .dropConsumer => { server with hasConsumer := false }
  | .setEnabled app enabled => { server with gateway := server.gateway.setEnabled app enabled }
  | .shutdown stop abandon =>
    { server with isAccepting := server.isAccepting && !(stop || abandon) }

/-- Carries inputs through in order. -/
def run (server : Server) (inputs : List Input) : Server :=
  inputs.foldl step server

/-! ### Handing over -/

/-- The connection that an input comes from. -/
def Input.client? : Input → Option ConnectionId
  | .send id _ | .finish id | .reset id => some id
  | .connect | .dropConsumer | .setEnabled _ _ | .shutdown _ _ => none

/-- What an input calls for outside the server. -/
structure Outbox where
  /-- The connection whose client gets the reply, if there is one. -/
  client? : Option ConnectionId
  /-- What is to be written to the client. -/
  reply : Bytes
  /-- What the consumer is to get. -/
  deliveries : List Delivery
deriving DecidableEq, Repr

/-- What the server has for the client of a connection and for the consumer. -/
def outbox (server : Server) (client? : Option ConnectionId) : Outbox where
  client?
  reply := (client?.map server.writtenTo).getD []
  deliveries := server.delivered

/-- The server without what it had for the client of a connection and for the consumer.  Of a
connection that has ended nothing is left. -/
def handOver (server : Server) (client? : Option ConnectionId) : Server :=
  let server := { server with delivered := [] }
  match client? with
  | none => server
  | some id =>
    { server with
      clients := server.clients.alter id fun client =>
        client.bind fun client => if client.ended then none else some {} }

/-- Carries one input through, and hands over what comes of it. -/
def turn (server : Server) (input : Input) : Outbox × Server :=
  let after := server.step input
  (after.outbox input.client?, after.handOver input.client?)

end Server

end SharedListener
