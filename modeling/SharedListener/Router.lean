import SharedListener.Connection
import SharedListener.Metrics.Basic
import SharedListener.Scope.Registry

/-!
# The router

The router keeps one entry for every live connection, by its number, and passes
each chunk to the connection it came from.  What a chunk brings about outside its
connection is written to the scope registry and to the metrics.
-/

namespace SharedListener

/-- A copy of what can be seen of a connection. -/
structure Snapshot where
  id : ConnectionId
  protocol : Protocol
  lifecycle : Lifecycle
  metadata : Metadata

/-- All connections of a gateway, with the registry and the metrics that they share. -/
structure Router where
  settings : Connection.Settings := {}
  scopes : Scope.Registry := {}
  metrics : Metrics := {}
  connections : Std.ExtTreeMap ConnectionId Connection := ∅

namespace Router

/-- Counts an event. -/
def count (metrics : Metrics) : Connection.Event → Metrics
  | .becameNative =>
    { metrics with
      classifications := metrics.classifications.increment [("kind", Protocol.native.label)] }
  | .upgraded _ =>
    { metrics with
      classifications := metrics.classifications.increment [("kind", Protocol.websocket.label)] }
  | .rejected => { metrics with rejections := metrics.rejections.increment [("reason", "scope")] }
  | .forwarded protocol count =>
    { metrics with
      forwarded := metrics.forwarded.add [("kind", protocol.label)] count.toUInt64 }
  | .closeFrame => { metrics with closeFrames := metrics.closeFrames.increment [] }
  | .decodeError fault =>
    { metrics with decodeErrors := metrics.decodeErrors.increment [("code", fault.code)] }

/-- Registers a connection that was upgraded. -/
def enroll (scopes : Scope.Registry) (id : ConnectionId) : Connection.Event → Scope.Registry
  | .upgraded metadata => scopes.register id metadata
  | _ => scopes

/-- Writes an event of a connection to the registry and to the metrics. -/
def note (id : ConnectionId) (router : Router) (event : Connection.Event) : Router :=
  { router with
    scopes := enroll router.scopes id event
    metrics := count router.metrics event }

/-- Handles a chunk from a connection, which gets an entry with its first chunk. -/
def receive (router : Router) (id : ConnectionId) (chunk : Bytes) :
    Connection.Action × Router :=
  let connection := router.connections[id]?.getD {}
  let step := connection.receive router.settings router.scopes.isEnabled chunk
  (step.action,
    step.events.foldl (note id)
      { router with connections := router.connections.insert id step.connection })

/-- What can be seen of a connection. -/
def snapshot? (router : Router) (id : ConnectionId) : Option Snapshot :=
  router.connections[id]?.map fun connection =>
    ⟨id, connection.protocol, connection.lifecycle, connection.metadata⟩

/-- Drops the entry of a connection that has ended.  An upgraded one is unregistered. -/
def close (router : Router) (id : ConnectionId) : Option Snapshot × Router :=
  match router.connections[id]? with
  | none => (none, router)
  | some connection =>
    (some ⟨id, connection.protocol, .closed, connection.metadata⟩,
      { router with
        scopes :=
          if connection.protocol = .websocket then router.scopes.unregister id else router.scopes
        connections := router.connections.erase id })

/-- Which protocol a connection speaks. -/
def protocol? (router : Router) (id : ConnectionId) : Option Protocol :=
  router.connections[id]?.map Connection.protocol

/-- Switches an application on or off. -/
def setEnabled (router : Router) (app : String) (enabled : Bool) : Router :=
  { router with scopes := router.scopes.setEnabled app enabled }

/-- How many connections have an entry. -/
def size (router : Router) : Nat :=
  router.connections.size

end Router

end SharedListener
