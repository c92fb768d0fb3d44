import Std.Data.ExtTreeSet
import SharedListener.Scope.Path

/-!
# The scope registry

The registry knows which applications are live and which connections were
upgraded, with an index from each application to its connections.  Only the
application decides about an upgrade: rooms and deeper levels are never checked.

The registry does not look at who calls it.  A connection that is registered again
gets the new metadata, and the index entry of its earlier application stays.
-/

namespace SharedListener.Scope

/-- Applications with their switches, upgraded connections, and the index between them. -/
structure Registry where
  /-- Whether an application takes connections; one that is not listed takes none. -/
  apps : Std.ExtTreeMap String Bool := ∅
  /-- The metadata of each upgraded connection. -/
  connections : Std.ExtTreeMap ConnectionId Metadata := ∅
  /-- The connections of each application that has any. -/
  index : Std.ExtTreeMap String (Std.ExtTreeSet ConnectionId) := ∅

namespace Registry

/-- Switches an application on or off.  Connections that it has stay. -/
def setEnabled (registry : Registry) (app : String) (enabled : Bool) : Registry :=
  { registry with apps := registry.apps.insert app enabled }

/-- The registry with these switches, set in order. -/
def ofApps (apps : List (String × Bool)) : Registry :=
  apps.foldl (fun registry app => registry.setEnabled app.1 app.2) {}

/-- Whether an application takes connections. -/
def isAppEnabled (registry : Registry) (app : String) : Bool :=
  registry.apps[app]?.getD false

/-- Whether the application that a path belongs to takes connections. -/
def isEnabled (registry : Registry) (path : String) : Bool :=
  match applicationOf path with
  | some app => registry.isAppEnabled app
  | none => false

/-- Notes an upgraded connection. -/
def register (registry : Registry) (id : ConnectionId) (metadata : Metadata) : Registry :=
  { registry with
    connections := registry.connections.insert id metadata
    index :=
      match applicationOf metadata.path with
      | some app => registry.index.insert app ((registry.index[app]?.getD ∅).insert id)
      | none => registry.index }

/-- Takes a connection out of the list of an application, and the list away with its last one. -/
def withoutMember (index : Std.ExtTreeMap String (Std.ExtTreeSet ConnectionId)) (app : String)
    (id : ConnectionId) : Std.ExtTreeMap String (Std.ExtTreeSet ConnectionId) :=
  match index[app]? with
  | some members =>
    let members := members.erase id
    if members.isEmpty then index.erase app else index.insert app members
  | none => index

/-- Forgets a connection. -/
def unregister (registry : Registry) (id : ConnectionId) : Registry :=
  match registry.connections[id]? with
  | none => registry
  | some metadata =>
    { registry with
      connections := registry.connections.erase id
      index :=
        match applicationOf metadata.path with
        | some app => withoutMember registry.index app id
        | none => registry.index }

/-- The metadata of an upgraded connection. -/
def metadata? (registry : Registry) (id : ConnectionId) : Option Metadata :=
  registry.connections[id]?

/-- The connections of an application, in increasing order. -/
def connectionsIn (registry : Registry) (app : String) : List ConnectionId :=
  (registry.index[app]?.getD ∅).toList

/-- All applications with their switches, by name. -/
def switches (registry : Registry) : List (String × Bool) :=
  registry.apps.toList

/-- How many connections are registered. -/
def size (registry : Registry) : Nat :=
  registry.connections.size

end Registry

end SharedListener.Scope
