import Std.Data.ExtTreeMap

/-!
# Scope paths

A WebSocket client asks for a scope by its path, such as `/live/room1`.  The first
segment that is not empty names the application; everything behind it is a matter
for the application alone.
-/

namespace SharedListener

/-- The number that the transport gives to a connection. -/
abbrev ConnectionId := Nat

/-- Header values by header name. -/
abbrev Headers := Std.ExtTreeMap String String

/-- What an upgrade request says about its connection. -/
structure Metadata where
  /-- The path, with its leading slash. -/
  path : String := ""
  /-- The value of the `Host` header. -/
  host : String := ""
  /-- The value of the `Origin` header. -/
  origin : String := ""
  /-- The known headers of the request. -/
  headers : Headers := ∅

namespace Scope

/-- The characters of the first non-empty segment of a path. -/
def firstSegment (path : List Char) : List Char :=
  (path.dropWhile (· == '/')).takeWhile (· != '/')

/-- The application that a path belongs to.  A path of slashes alone belongs to none. -/
def applicationOf (path : String) : Option String :=
  match firstSegment path.toList with
  | [] => none
  | segment => some (String.ofList segment)

end Scope

end SharedListener
