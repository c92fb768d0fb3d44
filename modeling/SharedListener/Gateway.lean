import SharedListener.Config.Basic
import SharedListener.Router

/-!
# Gateways

A gateway is a configuration and a router that was set up by it.  Setting one up checks
the accept hash first, so a broken hash is found before any connection is taken.

A connection is taken, passes its bytes through the router, and is let go when it has
ended.
-/

namespace SharedListener

/-- A configured gateway. -/
structure Gateway where
  config : Config
  router : Router

namespace Gateway

/-- The gateway that a configuration describes, before any connection. -/
def start (config : Config) : Except Fault Gateway := do
  Handshake.verifyAccept
  return {
    config
    router :=
      { settings := config.listener.settings
        scopes := Scope.Registry.ofApps config.switches } }

/-- Counts a change of the number of active connections. -/
def countActive (router : Router) (amount : Int64) : Router :=
  { router with
    metrics := { router.metrics with active := router.metrics.active.add [] amount } }

/-- Counts a connection that was taken. -/
def countAccepted (router : Router) : Router :=
  { router with
    metrics := { router.metrics with accepted := router.metrics.accepted.increment [] } }

/-- Takes a connection. -/
def accept (gateway : Gateway) : Gateway :=
  { gateway with router := countActive (countAccepted gateway.router) 1 }

/-- Passes a chunk from a connection through the router. -/
def receive (gateway : Gateway) (id : ConnectionId) (chunk : Bytes) :
    Connection.Action × Gateway :=
  let (action, router) := gateway.router.receive id chunk
  (action, { gateway with router })

/-- Lets a connection go that has ended. -/
def release (gateway : Gateway) (id : ConnectionId) : Gateway :=
  { gateway with router := countActive (gateway.router.close id).2 (-1) }

/-- Switches an application on or off. -/
def setEnabled (gateway : Gateway) (app : String) (enabled : Bool) : Gateway :=
  { gateway with router := gateway.router.setEnabled app enabled }

/-- Notes that the gateway is about to stop. -/
def drain (gateway : Gateway) : Gateway :=
  { gateway with
    router := { gateway.router with metrics := gateway.router.metrics.drain } }

/-- Numbers that are read off the state of the gateway when they are asked for. -/
def currentNumbers (gateway : Gateway) : List (String × Nat) :=
  [("wsmux_connections_tracked", gateway.router.size),
    ("wsmux_scope_connections_registered", gateway.router.scopes.size)]

/-- The text of all metrics of the gateway. -/
def metricsText (gateway : Gateway) : String :=
  gateway.router.metrics.render .byLabels gateway.currentNumbers

/-- Whether the gateway is about to stop. -/
def isDraining (gateway : Gateway) : Bool :=
  gateway.router.metrics.draining

end Gateway

end SharedListener
