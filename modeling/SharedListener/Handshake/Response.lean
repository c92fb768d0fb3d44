import SharedListener.Digest.Base64
import SharedListener.Digest.Sha1
import SharedListener.Fault
import SharedListener.Text.Utf8

/-!
# Answering an upgrade

The accept value proves that the server has read the client key: it is the Base64
text of the SHA-1 digest of the key and a fixed identifier (RFC 6455, section
4.2.2).  The response is a status line, five header lines, a blank line, and the
accept value once more, which peers of this listener read behind the headers.

Of the digest and of its text a response needs no more than their lengths and the
characters that texts are made of; `Stamp` is what it needs, and `Stamp.standard` has
the two algorithms of the RFC.
-/

namespace SharedListener.Handshake

/-- The identifier that is put behind every client key. -/
def identifier : String := "258EAFA5-E914-47DA-95CA-C5AB0DC85B11"

/-- What a client gets whose scope is not live, before the connection ends. -/
def rejection : Bytes := [0xFF, 0x00]

/-- A digest of 20 octets and a text for it, of 28 characters of the Base64 alphabet. -/
structure Stamp where
  /-- The digest of a message. -/
  digest : Bytes → Bytes
  /-- The text for the octets of a digest. -/
  text : Bytes → List Char
  length_digest (message : Bytes) : (digest message).length = 20
  length_text (octets : Bytes) : octets.length = 20 → (text octets).length = 28
  mem_alphabet (octets : Bytes) : octets.length = 20 → ∀ c ∈ text octets, c ∈ Digest.Base64.alphabet

namespace Stamp

/-- SHA-1 and Base64. -/
def standard : Stamp where
  digest := Digest.Sha1.digest
  text := Digest.Base64.encode
  length_digest := Digest.Sha1.length_digest
  length_text octets h := by rw [Digest.Base64.length_encode, h]
  mem_alphabet octets _ := Digest.Base64.mem_alphabet_of_mem_encode octets

/-- The accept value for a client key. -/
def acceptValue (stamp : Stamp) (key : String) : List Char :=
  stamp.text (stamp.digest (Text.Utf8.encodeString key ++ Text.Utf8.encodeString identifier))

end Stamp

/-- The accept value for a client key, by the algorithms of the RFC. -/
def acceptValue (key : String) : List Char :=
  Stamp.standard.acceptValue key

/-- The lines of a response in front of the blank line. -/
def responseLines (origin host : String) (accept : List Char) : List (List Char) :=
  ["HTTP/1.1 101 Switching Protocols".toList,
    "Upgrade: websocket".toList,
    "Connection: Upgrade".toList,
    "Sec-WebSocket-Origin: ".toList ++ origin.toList,
    "Sec-WebSocket-Location: ".toList ++ host.toList,
    "Sec-WebSocket-Accept: ".toList ++ accept]

/-- The text of a response. -/
def responseText (origin host : String) (accept : List Char) : List Char :=
  (responseLines origin host accept).flatMap (· ++ ['\r', '\n']) ++ '\r' :: '\n' :: accept

/-- The bytes that grant an upgrade. -/
def Stamp.response (stamp : Stamp) (origin host key : String) : Bytes :=
  Text.Utf8.encode (responseText origin host (stamp.acceptValue key))

/-- The bytes that grant an upgrade, by the algorithms of the RFC. -/
def response (origin host key : String) : Bytes :=
  Stamp.standard.response origin host key

/-- Checks the accept value against the worked example of RFC 6455, section 1.3. -/
def verifyAccept : Except Fault Unit :=
  if acceptValue "dGhlIHNhbXBsZSBub25jZQ==" = "s3pPLMBiTxaQ9kYGzzhZRbK+xOo=".toList then .ok ()
  else .error .missingAlgorithm

end SharedListener.Handshake
