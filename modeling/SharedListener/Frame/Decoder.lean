import SharedListener.Fault
import SharedListener.Frame.Reading

/-!
# Decoding a stream of frames

`decode` reads all frames of a stretch of bytes and joins what they deliver.  If
the last frame is unfinished the whole stretch waits, so the delivered data never
depends on how far into a frame a read happened to reach.

A `Decoder` keeps the bytes that wait.  `Decoder.feed` is `decode` on those bytes
and the new ones; after a close or a refused length nothing is kept, because the
stream cannot be picked up again.
-/

namespace SharedListener.Frame

/-- The frames at the head of a stretch of bytes, and what stands behind them. -/
structure Scan where
  /-- The whole frames, in order. -/
  frames : List Frame
  /-- The bytes behind them. -/
  rest : Bytes
  /-- Why no frame could be taken off `rest`; there is no reason if `rest` is empty. -/
  stop : Option Stop
deriving DecidableEq, Repr

/-- Reads on after the frames `done`, which stand last first. -/
def scanAfter (limits : Limits) (done : List Frame) (input : Bytes) : Scan :=
  if input.isEmpty then
    ⟨done.reverse, [], none⟩
  else
    match _h : read limits input with
    | .error stop => ⟨done.reverse, input, some stop⟩
    | .ok taken => scanAfter limits (taken.1 :: done) taken.2
termination_by input.length
decreasing_by exact length_read_lt _h

/-- Reads as many frames as stand at the head of `input`. -/
def scan (limits : Limits) (input : Bytes) : Scan :=
  scanAfter limits [] input

/-- The result of decoding a stretch of bytes. -/
inductive Outcome where
  /-- The bytes are whole frames: what they deliver, how many bytes were read, how many frames. -/
  | complete (payload : Bytes) (consumed frames : Nat)
  /-- A frame is unfinished, and nothing was read. -/
  | needMore
  /-- A close frame was found, and the data in front of it is discarded. -/
  | close
deriving DecidableEq, Repr

/-- The outcome of a scan that read `consumed` bytes. -/
def Scan.outcome (policy : ControlPolicy) (consumed : Nat) (scan : Scan) : Except Fault Outcome :=
  match scan.stop with
  | none =>
    if scan.frames.isEmpty then .ok .needMore
    else .ok (.complete (delivery policy scan.frames) consumed scan.frames.length)
  | some .incomplete => .ok .needMore
  | some .close => .ok .close
  | some (.oversized length) => .error (.oversizedFrame length)

/-- Decodes all frames of `input`. -/
def decode (limits : Limits) (input : Bytes) : Except Fault Outcome :=
  (scan limits input).outcome limits.control input.length

/-- What one WebSocket connection keeps between reads. -/
structure Decoder where
  /-- The bytes received since the last whole frame boundary that a read ended on. -/
  pending : Bytes := []
deriving DecidableEq, Repr

namespace Decoder

/-- Decodes what is kept together with `chunk`.  An unfinished frame is kept, unless it is longer
than any frame within the limits can be. -/
def feed (limits : Limits) (decoder : Decoder) (chunk : Bytes) :
    Except Fault Outcome × Decoder :=
  let input := decoder.pending ++ chunk
  let found := scan limits input
  match found.outcome limits.control input.length with
  | .ok .needMore =>
    if limits.maxPartialBytes < found.rest.length then
      (.error (.oversizedFrame found.rest.length), ⟨[]⟩)
    else
      (.ok .needMore, ⟨input⟩)
  | .ok (.complete payload consumed frames) =>
    (.ok (.complete payload consumed frames), ⟨input.drop consumed⟩)
  | .ok .close => (.ok .close, ⟨[]⟩)
  | .error fault => (.error fault, ⟨[]⟩)

end Decoder

end SharedListener.Frame
