import SharedListener.Masking

/-!
# Frames

A WebSocket frame (RFC 6455, section 5.2) is a lead octet with four flag bits
and an opcode, the payload length in one of three forms, a masking key if the
payload is masked, and the payload.

`Frame` keeps all of that as it stands on the wire, and `Frame.wire` writes it
out.  Which frames a listener takes is a matter of its `Limits`: `Frame.Legal`
says so without reference to any reader.
-/

namespace SharedListener

/-- What a frame is for: the low four bits of its lead octet. -/
inductive Opcode where
  | continuation
  | text
  | binary
  | close
  | ping
  | pong
  /-- The codes 3 to 7 and 11 to 15, which have no meaning yet. -/
  | reserved (code : UInt8)
deriving DecidableEq, Repr

namespace Opcode

/-- The opcode in the low four bits of `octet`. -/
def ofOctet (octet : UInt8) : Opcode :=
  match (octet &&& 0x0F).toNat with
  | 0x0 => .continuation
  | 0x1 => .text
  | 0x2 => .binary
  | 0x8 => .close
  | 0x9 => .ping
  | 0xA => .pong
  | _ => .reserved (octet &&& 0x0F)

/-- The code of an opcode on the wire. -/
def code : Opcode → UInt8
  | .continuation => 0x0
  | .text => 0x1
  | .binary => 0x2
  | .close => 0x8
  | .ping => 0x9
  | .pong => 0xA
  | .reserved code => code

/-- Close, ping and pong steer the connection; the others carry data. -/
def isControl : Opcode → Bool
  | .close | .ping | .pong => true
  | _ => false

end Opcode

/-- What becomes of the payload of a ping or a pong. -/
inductive ControlPolicy where
  /-- It joins the data like any other payload. -/
  | fold
  /-- It is read and left out. -/
  | drop
deriving DecidableEq, Repr

namespace Frame

/-- The longest frame header: a lead octet, a length of nine octets and a key of four. -/
def maxHeaderLength : Nat := 14

/-- A length in the 64-bit form is refused from here on, whatever the limits. -/
def lengthCeiling : Nat := 2147483647

/-- What a listener accepts from its clients. -/
structure Limits where
  /-- The longest payload of one frame. -/
  maxFrameBytes : Nat := lengthCeiling - 1
  /-- What becomes of ping and pong payloads. -/
  control : ControlPolicy := .fold
deriving DecidableEq, Repr

/-- The longest unfinished frame that a connection may hold: the longest payload and the longest
header, as far as a 64-bit count goes.  Complete frames held in front of it do not count. -/
def Limits.maxPartialBytes (limits : Limits) : Nat :=
  min (limits.maxFrameBytes + maxHeaderLength) (UInt64.size - 1)

/-- The three ways to write a payload length. -/
inductive LengthForm where
  /-- Seven bits of the second octet. -/
  | short
  /-- The seven bits say 126 and two octets follow. -/
  | medium
  /-- The seven bits say 127 and eight octets follow. -/
  | long
deriving DecidableEq, Repr

namespace LengthForm

/-- The lengths that a form can express and that are accepted in it. -/
def Fits (length : Nat) : LengthForm → Prop
  | .short => length < 126
  | .medium => length < 65536
  | .long => length < lengthCeiling

instance (length : Nat) (form : LengthForm) : Decidable (form.Fits length) := by
  cases form <;> unfold Fits <;> infer_instance

/-- The octets that write `length` in this form, with the mask bit in the first of them. -/
def wire (form : LengthForm) (masked : Bool) (length : Nat) : Bytes :=
  let maskBit : UInt8 := if masked then 0x80 else 0x00
  match form with
  | .short => [maskBit ||| length.toUInt8]
  | .medium => (maskBit ||| 126) :: Bytes.ofNat 2 length
  | .long => (maskBit ||| 127) :: Bytes.ofNat 8 length

end LengthForm

end Frame

/-- One frame as it stands on the wire. -/
structure Frame where
  /-- The final bit, three reserved bits and the opcode. -/
  lead : UInt8
  /-- How the payload length is written. -/
  form : Frame.LengthForm
  /-- The masking key, if the payload is masked. -/
  key : Option Masking.Key
  /-- The payload as sent, masked if there is a key. -/
  body : Bytes
deriving DecidableEq, Repr

namespace Frame

/-- What the frame is for. -/
def opcode (frame : Frame) : Opcode :=
  Opcode.ofOctet frame.lead

/-- The payload with the mask taken off. -/
def payload (frame : Frame) : Bytes :=
  match frame.key with
  | some key => Masking.appendUnmasked [] key frame.body
  | none => frame.body

/-- The octets of the frame. -/
def wire (frame : Frame) : Bytes :=
  frame.lead ::
    (frame.form.wire frame.key.isSome frame.body.length ++
      ((frame.key.map Masking.Key.wire).getD [] ++ frame.body))

/-- A frame that a listener with these limits takes: it is no close frame, which has 8 in the low
four bits of its lead octet, and its length is one that the form can say and the limits allow. -/
def Legal (limits : Limits) (frame : Frame) : Prop :=
  frame.lead &&& 0x0F ≠ 8 ∧ frame.form.Fits frame.body.length ∧
    frame.body.length ≤ limits.maxFrameBytes

/-- Whether the payload of the frame is delivered under `policy`. -/
def isDelivered (policy : ControlPolicy) (frame : Frame) : Bool :=
  policy = .fold || !frame.opcode.isControl

/-- The data that a run of frames delivers. -/
def delivery (policy : ControlPolicy) (frames : List Frame) : Bytes :=
  (frames.filter (isDelivered policy)).flatMap payload

end Frame

end SharedListener
