import SharedListener.Frame.Decoder

/-!
# Decoding with a cursor

A reader such as `Frame.read` asks for octets and is told if they are not there.
A cursor over memory does not tell: an octet taken past the end, a sum that
leaves its 64 bits and a position below zero are missteps, and a length that is
made an index loses the bits that the index has no room for.  So a test has to
stand in front of each step, and for the steps of one frame the tests stand on
different branches.

This file has the decoder in such steps.  A misstep ends it without an outcome.
-/

namespace SharedListener.Frame

/-- A step that cannot be carried out. -/
inductive Misstep where
  /-- More octets are taken than are left. -/
  | pastEnd
  /-- A sum of lengths has no room in 64 bits. -/
  | overflow
  /-- A position is below zero. -/
  | underflow
  /-- More frames are counted than there are turns for. -/
  | outOfTurns
deriving DecidableEq, Repr

/-- How wide the indices into memory are. -/
inductive IndexWidth where
  | bits32
  | bits64
deriving DecidableEq, Repr

/-- How many indices there are. -/
def IndexWidth.size : IndexWidth → Nat
  | .bits32 => UInt32.size
  | .bits64 => UInt64.size

/-- Adds the data that a frame delivers to `out`. -/
def appendDelivery (policy : ControlPolicy) (out : Bytes) (frame : Frame) : Bytes :=
  if frame.opcode.isControl ∧ policy = .drop then out
  else
    match frame.key with
    | some key => Masking.appendUnmasked out key frame.body
    | none => out ++ frame.body

namespace Cursor

/-! ### Steps -/

/-- Takes the next octet. -/
def octet : Bytes → Except Misstep (UInt8 × Bytes)
  | [] => .error .pastEnd
  | octet :: rest => .ok (octet, rest)

/-- Takes the next `count` octets. -/
def octets (count : Nat) (left : Bytes) : Except Misstep (Bytes × Bytes) :=
  if left.length < count then .error .pastEnd else .ok (left.take count, left.drop count)

/-- Takes the four octets of a masking key, if there is one. -/
def key (masked : Bool) (left : Bytes) : Except Misstep (Option Masking.Key × Bytes) :=
  if masked then do
    let first ← octet left
    let second ← octet first.2
    let third ← octet second.2
    let fourth ← octet third.2
    return (some ⟨first.1, second.1, third.1, fourth.1⟩, fourth.2)
  else
    .ok (none, left)

/-- The sum of two lengths. -/
def sum (first second : Nat) : Except Misstep Nat :=
  if first + second < UInt64.size then .ok (first + second) else .error .overflow

/-- How far one position is behind another. -/
def difference (position other : Nat) : Except Misstep Nat :=
  if position < other then .error .underflow else .ok (position - other)

/-- A length as an index. -/
def narrow (width : IndexWidth) (length : Nat) : Nat :=
  length % width.size

/-! ### One frame -/

/-- Reads the second octet of a frame and the length octets that it announces. -/
def readLength (limits : Limits) (left : Bytes) :
    Except Misstep (Except Stop (LengthField × Bytes)) :=
  if left.isEmpty then
    .ok (.error .incomplete)
  else do
    let second ← octet left
    let masked : Bool := 0x80 ≤ second.1
    match (second.1 &&& 0x7F).toNat with
    | 126 =>
      if second.2.length < 2 then
        return .error .incomplete
      else
        let taken ← octets 2 second.2
        return LengthField.checked limits ⟨.medium, masked, Bytes.toNat taken.1⟩ taken.2
    | 127 =>
      if second.2.length < 8 then
        return .error .incomplete
      else
        let taken ← octets 8 second.2
        return LengthField.checkedLong limits ⟨.long, masked, Bytes.toNat taken.1⟩ taken.2
    | length => return LengthField.checked limits ⟨.short, masked, length⟩ second.2

/-- How many octets a masking key has. -/
def keyLength (masked : Bool) : Nat :=
  if masked then 4 else 0

/-- Reads the key and the body of a frame, if both are there. -/
def readBody (width : IndexWidth) (lead : UInt8) (field : LengthField) (left : Bytes) :
    Except Misstep (Except Stop (Frame × Bytes)) := do
  let needed ← sum field.length (keyLength field.masked)
  if left.length < needed then
    return .error .incomplete
  else
    let length := narrow width field.length
    let key ← key field.masked left
    let body ← octets length key.2
    return .ok (⟨lead, field.form, key.1, body.1⟩, body.2)

/-- Reads the frame at the cursor. -/
def readFrame (width : IndexWidth) (limits : Limits) (left : Bytes) :
    Except Misstep (Except Stop (Frame × Bytes)) := do
  let lead ← octet left
  if Opcode.ofOctet lead.1 = .close then
    return .error .close
  else
    match ← readLength limits lead.2 with
    | .error stop => return .error stop
    | .ok field => readBody width lead.1 field.1 field.2

/-! ### All frames -/

/-- Reads on, with `count` frames counted and turns for `turns` more.  There were `whole` octets at
first, and `out` has been delivered.  The outcome comes with the position of the unfinished frame,
or of the end if there is none. -/
def decodeFrom (width : IndexWidth) (limits : Limits) (whole : Nat) (turns : Nat) (out : Bytes)
    (count : Nat) (left : Bytes) : Except Misstep (Except Fault (Outcome × Nat)) :=
  if left.isEmpty then
    if count = 0 then .ok (.ok (.needMore, 0))
    else .ok (.ok (.complete out whole count, whole))
  else do
    let start ← difference whole left.length
    match ← readFrame width limits left with
    | .error .incomplete => return .ok (.needMore, start)
    | .error .close => return .ok (.close, whole)
    | .error (.oversized length) => return .error (.oversizedFrame length)
    | .ok taken =>
      match turns with
      | 0 => .error .outOfTurns
      | turns + 1 =>
        decodeFrom width limits whole turns (appendDelivery limits.control out taken.1)
          (count + 1) taken.2

/-- Decodes all frames of `input`, with turns for half as many frames as there are octets. -/
def attempt (width : IndexWidth) (limits : Limits) (input : Bytes) :
    Except Misstep (Except Fault (Outcome × Nat)) :=
  decodeFrom width limits input.length (input.length / 2) [] 0 input

/-- Decodes all frames of `input`, without the position. -/
def decode (width : IndexWidth) (limits : Limits) (input : Bytes) :
    Except Misstep (Except Fault Outcome) := do
  return (← attempt width limits input).map Prod.fst

/-- Decodes what is kept together with `chunk`. -/
def feed (width : IndexWidth) (limits : Limits) (decoder : Decoder) (chunk : Bytes) :
    Except Misstep (Except Fault Outcome × Decoder) := do
  let pending := decoder.pending ++ chunk
  match ← attempt width limits pending with
  | .ok (.complete payload consumed frames, _) =>
    let advanced ← octets consumed pending
    return (.ok (.complete payload consumed frames), ⟨advanced.2⟩)
  | .ok (.needMore, incompleteAt) =>
    let unfinished ← difference pending.length incompleteAt
    if limits.maxPartialBytes < unfinished then
      return (.error (.oversizedFrame unfinished), ⟨[]⟩)
    else
      return (.ok .needMore, ⟨pending⟩)
  | .ok (.close, _) => return (.ok .close, ⟨[]⟩)
  | .error fault => return (.error fault, ⟨[]⟩)

end Cursor

end SharedListener.Frame
