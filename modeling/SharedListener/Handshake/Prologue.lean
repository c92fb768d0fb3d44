import SharedListener.Bytes
import SharedListener.Text.Search

/-!
# The beginning of a connection

The first bytes of a connection tell an upgrade request from the native protocol.
A native client is known as soon as its bytes differ from `GET `, so it never waits
for a blank line that will not come.  A request whose headers do not end in time is
taken for the native protocol as well.
-/

namespace SharedListener.Handshake

/-- The octets `GET ` that every upgrade request begins with. -/
def requestStart : Bytes := [0x47, 0x45, 0x54, 0x20]

/-- The blank line that ends the headers: two line breaks in a row. -/
def blankLine : Bytes := [0x0D, 0x0A, 0x0D, 0x0A]

/-- How many bytes may be held while the end of the headers is awaited, unless told otherwise. -/
def defaultMaxBytes : Nat := 8192

/-- What the bytes received so far look like. -/
inductive Prologue where
  /-- They may yet become a request. -/
  | needMore
  /-- They are a request with all its headers. -/
  | request
  /-- They are the native protocol. -/
  | native
deriving DecidableEq, Repr

/-- The length of a request up to and including its first blank line. -/
def headLength? (received : Bytes) : Option Nat :=
  (Text.firstOccurrence? blankLine received).map (· + blankLine.length)

/-- Whether two byte sequences agree as far as both of them go. -/
def agree (left right : Bytes) : Bool :=
  (left.zip right).all fun octets => octets.1 == octets.2

/-- Decides what the bytes received so far look like, if at most `maxBytes` of them may wait. -/
def Prologue.detect (maxBytes : Nat) (received : Bytes) : Prologue :=
  if !agree received requestStart then .native
  else if received.length < requestStart.length then .needMore
  else if (headLength? received).isSome then .request
  else if maxBytes < received.length then .native
  else .needMore

end SharedListener.Handshake
