import SharedListener.Scope.Path
import SharedListener.Text.Blank
import SharedListener.Text.Search

/-!
# Headers of an upgrade request

Six headers matter.  A header line is matched by the text in front of its first
colon, which has to contain one of the six names in any mixture of upper and lower
case; the first name in the order of `Header.all` wins.  The value is what follows
the colon, without blanks around it.
-/

namespace SharedListener.Handshake

/-- A header that an upgrade request may carry and that matters here. -/
inductive Header where
  | key
  | version
  | extensions
  | host
  | origin
  | userAgent
deriving DecidableEq, Repr

namespace Header

/-- The known headers, in the order in which they are tried. -/
def all : List Header := [key, version, extensions, host, origin, userAgent]

/-- The name of a header as it is reported. -/
def name : Header → String
  | key => "Sec-WebSocket-Key"
  | version => "Sec-WebSocket-Version"
  | extensions => "Sec-WebSocket-Extensions"
  | host => "Host"
  | origin => "Origin"
  | userAgent => "User-Agent"

/-- A text with the letters `A` to `Z` in lower case. -/
def lowered (text : List Char) : List Char :=
  text.map Char.toLower

/-- The first known header whose name stands in `text`. -/
def matching? (text : List Char) : Option Header :=
  all.find? fun header => Text.occursIn (lowered header.name.toList) (lowered text)

/-- The known header that a line sets, and the value. -/
def ofLine? (line : List Char) : Option (Header × String) :=
  match line.dropWhile (· != ':') with
  | [] => none
  | _ :: value =>
    (matching? (line.takeWhile (· != ':'))).map fun header =>
      (header, String.ofList (Text.trim value))

end Header

/-- Notes the value of a header.  A later value takes the place of an earlier one. -/
def withHeader (metadata : Metadata) (header : Header) (value : String) : Metadata :=
  { metadata with
    host := if header = .host then value else metadata.host
    origin := if header = .origin then value else metadata.origin
    headers := metadata.headers.insert header.name value }

/-- Notes what a header line sets, if it sets a known header. -/
def withLine (metadata : Metadata) (line : List Char) : Metadata :=
  match Header.ofLine? line with
  | some (header, value) => withHeader metadata header value
  | none => metadata

end SharedListener.Handshake
