import SharedListener.Proofs.Frame.Feed

/-!
# When a stream is decided

A stream of frames ends its connection at the first close frame or the first
refused length.  `Decided limits stream result position` says which of the two
it is, and behind how many octets it is known: the lead octet of the close
frame, or the last octet of the refused length.

Being decided is a property of the stream alone.  It has one result and one
position (`Decided.unique`), octets behind the position do not matter
(`Decided.append`, `Decided.of_append`), and the streams that are decided are
those whose decoding ends the connection (`exists_decided`).
-/

namespace SharedListener.Frame

variable {limits : Limits}

/-- A result that ends the connection. -/
def isFinal : Except Fault Outcome → Bool
  | .ok .close => true
  | .error _ => true
  | .ok _ => false

/-- The octets that end a connection: the lead octet of a close frame, or the header of another
frame as far as the end of a length that is refused. -/
inductive Fatal (limits : Limits) : Stop → Bytes → Prop
  | close {lead : UInt8} (hnibble : lead &&& 0x0F = 8) : Fatal limits .close [lead]
  | oversized {lead : UInt8} {field : LengthField} (hnibble : lead &&& 0x0F ≠ 8)
      (hroom : field.HasRoom) (hrefused : field.Refused limits) :
      Fatal limits (.oversized field.length) (lead :: field.wire)

/-- The first octets of `stream` that end its connection are the last of its first `position`
octets, and they end it with `result`. -/
def Decided (limits : Limits) (stream : Bytes) (result : Except Fault Outcome)
    (position : Nat) : Prop :=
  ∃ (frames : List Frame) (stop : Stop) (fatal rest : Bytes), AllLegal limits frames ∧
    Fatal limits stop fatal ∧ stream = wires frames ++ fatal ++ rest ∧
    result = stop.outcome ∧ position = (wires frames ++ fatal).length

/-! ## Fatal octets -/

theorem Fatal.atHead {stop : Stop} {fatal : Bytes} (h : Fatal limits stop fatal)
    (rest : Bytes) : stop.AtHead limits (fatal ++ rest) := by
  cases h with
  | close hnibble => exact ⟨_, rest, hnibble, rfl⟩
  | oversized hnibble hroom hrefused =>
      exact ⟨_, _, rest, hnibble, hroom, hrefused, rfl, rfl⟩

theorem Fatal.ne_nil {stop : Stop} {fatal : Bytes} (h : Fatal limits stop fatal) :
    fatal ≠ [] := by
  cases h <;> exact List.cons_ne_nil _ _

theorem Fatal.isFinal {stop : Stop} {fatal : Bytes} (h : Fatal limits stop fatal) :
    Frame.isFinal stop.outcome := by
  cases h <;> rfl

/-- A reading that stops for good has met fatal octets. -/
theorem exists_fatal {stop : Stop} {input : Bytes} (h : stop.AtHead limits input)
    (hfinal : isFinal stop.outcome) :
    ∃ fatal rest, Fatal limits stop fatal ∧ input = fatal ++ rest := by
  cases stop with
  | incomplete => cases hfinal
  | close =>
      obtain ⟨lead, rest, hnibble, rfl⟩ := h
      exact ⟨[lead], rest, .close hnibble, rfl⟩
  | oversized length =>
      obtain ⟨lead, field, rest, hnibble, hroom, hrefused, rfl, rfl⟩ := h
      exact ⟨lead :: field.wire, rest, .oversized hnibble hroom hrefused, rfl⟩

theorem Fatal.append_inj {stop : Stop} {first second rest₁ rest₂ : Bytes}
    (h₁ : Fatal limits stop first) (h₂ : Fatal limits stop second)
    (h : first ++ rest₁ = second ++ rest₂) : first = second := by
  cases h₁ with
  | close _ =>
      cases h₂ with
      | close _ =>
          rw [List.singleton_append, List.singleton_append, List.cons.injEq] at h
          rw [h.1]
  | @oversized lead₁ field₁ _ hroom₁ _ =>
      generalize hstop : Stop.oversized field₁.length = stop at h₂
      cases h₂ with
      | close _ => cases hstop
      | oversized _ hroom₂ _ =>
          rw [List.cons_append, List.cons_append, List.cons.injEq] at h
          rw [h.1, LengthField.wire_append_inj hroom₁ hroom₂ h.2]

/-! ## The decision depends on the stream alone -/

theorem Decided.isFinal {stream : Bytes} {result : Except Fault Outcome} {position : Nat}
    (h : Decided limits stream result position) : Frame.isFinal result := by
  obtain ⟨_, _, _, _, _, hfatal, _, rfl, _⟩ := h
  exact hfatal.isFinal

theorem Decided.position_le {stream : Bytes} {result : Except Fault Outcome} {position : Nat}
    (h : Decided limits stream result position) : position ≤ stream.length := by
  obtain ⟨frames, stop, fatal, rest, _, _, rfl, _, rfl⟩ := h
  simp only [List.length_append]
  omega

theorem Decided.position_pos {stream : Bytes} {result : Except Fault Outcome} {position : Nat}
    (h : Decided limits stream result position) : 0 < position := by
  obtain ⟨frames, stop, fatal, rest, _, hfatal, _, _, rfl⟩ := h
  have := List.length_pos_iff.mpr hfatal.ne_nil
  rw [List.length_append]
  omega

/-- A decided stream decodes to the result. -/
theorem Decided.decode_eq {stream : Bytes} {result : Except Fault Outcome} {position : Nat}
    (h : Decided limits stream result position) : decode limits stream = result := by
  obtain ⟨frames, stop, fatal, rest, hlegal, hfatal, rfl, rfl, _⟩ := h
  rw [List.append_assoc]
  exact decode_wires_append_of_atHead hlegal (hfatal.atHead rest)

theorem Decided.unique {stream : Bytes} {result₁ result₂ : Except Fault Outcome}
    {position₁ position₂ : Nat} (h₁ : Decided limits stream result₁ position₁)
    (h₂ : Decided limits stream result₂ position₂) :
    result₁ = result₂ ∧ position₁ = position₂ := by
  refine ⟨h₁.decode_eq.symm.trans h₂.decode_eq, ?_⟩
  obtain ⟨frames₁, stop₁, fatal₁, rest₁, hlegal₁, hfatal₁, rfl, _, rfl⟩ := h₁
  obtain ⟨frames₂, stop₂, fatal₂, rest₂, hlegal₂, hfatal₂, hstream, _, rfl⟩ := h₂
  rw [List.append_assoc, List.append_assoc] at hstream
  have hscan := scan_wires_append hlegal₁ (hfatal₁.atHead rest₁)
  rw [hstream, scan_wires_append hlegal₂ (hfatal₂.atHead rest₂)] at hscan
  injection hscan with hframes hrest hstop
  cases hstop
  rw [hframes, hfatal₁.append_inj hfatal₂ hrest.symm]

/-- Octets behind a decided stream do not matter. -/
theorem Decided.append {stream : Bytes} {result : Except Fault Outcome} {position : Nat}
    (h : Decided limits stream result position) (more : Bytes) :
    Decided limits (stream ++ more) result position := by
  obtain ⟨frames, stop, fatal, rest, hlegal, hfatal, rfl, rfl, rfl⟩ := h
  exact ⟨frames, stop, fatal, rest ++ more, hlegal, hfatal, List.append_assoc _ _ _, rfl, rfl⟩

/-- Complete frames in front of a decided stream do not matter. -/
theorem Decided.wires_append {frames : List Frame} (hlegal : AllLegal limits frames)
    {stream : Bytes} {result : Except Fault Outcome} {position : Nat}
    (h : Decided limits stream result position) :
    Decided limits (wires frames ++ stream) result ((wires frames).length + position) := by
  obtain ⟨others, stop, fatal, rest, hothers, hfatal, rfl, rfl, rfl⟩ := h
  exact ⟨frames ++ others, stop, fatal, rest, hlegal.append hothers, hfatal, by simp, rfl,
    by simp⟩

/-- A stream is decided as soon as its octets reach the position. -/
theorem Decided.of_append {stream more : Bytes} {result : Except Fault Outcome}
    {position : Nat} (h : Decided limits (stream ++ more) result position)
    (hposition : position ≤ stream.length) : Decided limits stream result position := by
  obtain ⟨frames, stop, fatal, rest, hlegal, hfatal, hstream, rfl, rfl⟩ := h
  have hbegin : wires frames ++ fatal <+: stream :=
    List.prefix_of_prefix_length_le ⟨rest, hstream.symm⟩ (List.prefix_append _ _) hposition
  obtain ⟨behind, rfl⟩ := hbegin
  exact ⟨frames, stop, fatal, behind, hlegal, hfatal, rfl, rfl, rfl⟩

/-- A stream whose decoding ends the connection is decided. -/
theorem exists_decided {stream : Bytes} (h : isFinal (decode limits stream)) :
    ∃ position, Decided limits stream (decode limits stream) position := by
  obtain ⟨frames, rest, hlegal, rfl, rfl | ⟨stop, hstop⟩⟩ := exists_wires_append limits stream
  · exfalso
    by_cases hne : frames = []
    · rw [hne, wires_nil, List.append_nil, decode_nil] at h
      cases h
    · rw [List.append_nil, decode_wires hlegal hne] at h
      cases h
  · rw [decode_wires_append_of_atHead hlegal hstop] at h ⊢
    obtain ⟨fatal, behind, hfatal, rfl⟩ := exists_fatal hstop h
    exact ⟨_, frames, stop, fatal, behind, hlegal, hfatal, (List.append_assoc _ _ _).symm,
      rfl, rfl⟩

end SharedListener.Frame
