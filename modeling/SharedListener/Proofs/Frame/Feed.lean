import SharedListener.Proofs.Frame.Grammar

/-!
# Feeding a decoder

A chunk is decoded together with the bytes that wait, and all of them wait
again if a frame is unfinished (`feed_eq`).  The cap on an unfinished frame is
never reached: a frame that is still awaited is shorter than its own header and
body (`length_le_of_incomplete`), and a length that is refused is refused as
soon as it stands there.
-/

namespace SharedListener.Frame

variable {limits : Limits}

/-! ## An unfinished frame is short -/

theorem length_keyWire_le (key : Option Masking.Key) : (keyWire key).length ≤ 4 := by
  cases key with
  | none => exact Nat.zero_le 4
  | some key => exact Nat.le_refl 4

theorem LengthField.length_le_of_accepted {field : LengthField} (hroom : field.HasRoom)
    (haccepted : ¬ field.Refused limits) :
    field.length ≤ min limits.maxFrameBytes (lengthCeiling - 1) := by
  obtain ⟨form, masked, length⟩ := field
  unfold HasRoom at hroom
  unfold Refused at haccepted
  cases form <;>
    simp only [LengthForm.capacity, lengthCeiling, reduceCtorEq, false_and, true_and,
      false_or, not_or] at hroom haccepted ⊢ <;>
    omega

theorem length_le_of_incomplete {rest : Bytes} (h : Stop.incomplete.AtHead limits rest) :
    rest.length ≤ min limits.maxFrameBytes (lengthCeiling - 1) + 13 := by
  obtain ⟨frame, more, _, hroom, _, hmore, hwire, hrefused⟩ := h
  have hheader := LengthField.length_wire_le frame.lengthField
  by_cases hlength : frame.lengthField.Refused limits
  · have := hrefused hlength
    omega
  · have hbody : frame.body.length ≤ min limits.maxFrameBytes (lengthCeiling - 1) :=
      LengthField.length_le_of_accepted hroom hlength
    have hkey := length_keyWire_le frame.key
    have hpos := List.length_pos_iff.mpr hmore
    have htotal := congrArg List.length hwire
    simp only [wire_eq, List.length_cons, List.length_append] at htotal
    omega

/-- The cap on an unfinished frame leaves room for every frame that is still awaited. -/
theorem length_le_maxPartialBytes {rest : Bytes} (h : Stop.incomplete.AtHead limits rest) :
    rest.length ≤ limits.maxPartialBytes := by
  have hlength := length_le_of_incomplete h
  unfold Limits.maxPartialBytes maxHeaderLength UInt64.size
  unfold lengthCeiling at hlength
  omega

/-! ## Feeding is decoding -/

/-- What waits for the next chunk after `input` came to `outcome`. -/
def retained (outcome : Except Fault Outcome) (input : Bytes) : Bytes :=
  match outcome with
  | .ok .needMore => input
  | _ => []

theorem retained_of_needMore {outcome : Except Fault Outcome} {input : Bytes}
    (h : outcome = .ok .needMore) : retained outcome input = input := by
  rw [h, retained]

theorem retained_of_ne_needMore {outcome : Except Fault Outcome} {input : Bytes}
    (h : outcome ≠ .ok .needMore) : retained outcome input = [] := by
  unfold retained
  split
  · exact absurd rfl h
  · rfl

/-- A chunk is decoded behind the bytes that wait. -/
theorem feed_eq (limits : Limits) (decoder : Decoder) (chunk : Bytes) :
    decoder.feed limits chunk =
      (decode limits (decoder.pending ++ chunk),
        ⟨retained (decode limits (decoder.pending ++ chunk)) (decoder.pending ++ chunk)⟩) := by
  unfold Decoder.feed decode
  generalize decoder.pending ++ chunk = input
  obtain ⟨frames, rest, hlegal, rfl, rfl | ⟨stop, hstop⟩⟩ := exists_wires_append limits input
  · simp only [List.append_nil, scan_wires hlegal]
    by_cases hne : frames = [] <;> simp [Scan.outcome, retained, hne]
  · simp only [scan_wires_append hlegal hstop]
    cases stop with
    | incomplete =>
        have hlength := length_le_maxPartialBytes hstop
        simp [Scan.outcome, retained, hlength]
    | close => rfl
    | oversized length => rfl

/-- Bytes that wait are legal frames with nothing, or with an unfinished frame, behind them. -/
theorem exists_unfinished {input : Bytes} (h : decode limits input = .ok .needMore) :
    ∃ frames rest, AllLegal limits frames ∧ input = wires frames ++ rest ∧
      (scan limits input).rest = rest ∧
      (frames = [] ∧ rest = [] ∨ Stop.incomplete.AtHead limits rest) ∧
      rest.length ≤ min limits.maxFrameBytes (lengthCeiling - 1) + 13 ∧
      rest.length ≤ limits.maxPartialBytes := by
  rcases decode_eq_needMore_iff.mp h with rfl | ⟨frames, rest, hlegal, rfl, hstop⟩
  · refine ⟨[], [], allLegal_nil limits, rfl, ?_, .inl ⟨rfl, rfl⟩, Nat.zero_le _, Nat.zero_le _⟩
    rw [scan_nil]
  · refine ⟨frames, rest, hlegal, rfl, ?_, .inr hstop, length_le_of_incomplete hstop,
      length_le_maxPartialBytes hstop⟩
    rw [scan_wires_append hlegal hstop]

/-- **Feeding is decoding, and the cap on an unfinished frame is never reached.**  A chunk is
decoded together with the bytes that wait.  If a frame is unfinished all of them wait again, and
otherwise none of them does.  What waits is a run of legal frames and an unfinished one, which is
shorter than the longest payload and the longest header together and so within the cap.  A fault is
always a refused length, and a header on the wire declares it. -/
theorem feed_decodes (limits : Limits) (decoder : Decoder) (chunk : Bytes) :
    (decoder.feed limits chunk).1 = decode limits (decoder.pending ++ chunk) ∧
    ((decoder.feed limits chunk).1 = .ok .needMore →
      (decoder.feed limits chunk).2.pending = decoder.pending ++ chunk) ∧
    ((decoder.feed limits chunk).1 ≠ .ok .needMore →
      (decoder.feed limits chunk).2.pending = []) ∧
    ((decoder.feed limits chunk).1 = .ok .needMore →
      ∃ frames rest, AllLegal limits frames ∧
        (decoder.feed limits chunk).2.pending = wires frames ++ rest ∧
        (scan limits (decoder.pending ++ chunk)).rest = rest ∧
        (frames = [] ∧ rest = [] ∨ Stop.incomplete.AtHead limits rest) ∧
        rest.length ≤ min limits.maxFrameBytes (2 ^ 31 - 2) + 13 ∧
        rest.length ≤ limits.maxPartialBytes) ∧
    (∀ fault, (decoder.feed limits chunk).1 = .error fault →
      ∃ frames rest, AllLegal limits frames ∧ decoder.pending ++ chunk = wires frames ++ rest ∧
        ∃ length, (Stop.oversized length).AtHead limits rest ∧
          fault = .oversizedFrame length) := by
  rw [feed_eq]
  dsimp only
  generalize decoder.pending ++ chunk = input
  refine ⟨rfl, retained_of_needMore, retained_of_ne_needMore, ?_, fun _ => decode_eq_error_iff.mp⟩
  intro hmore
  obtain ⟨frames, rest, hlegal, hinput, hfound⟩ := exists_unfinished hmore
  refine ⟨frames, rest, hlegal, ?_, hfound⟩
  rw [retained_of_needMore hmore, hinput]

end SharedListener.Frame
