import SharedListener.Frame.Decoder
import SharedListener.Proofs.Frame.Wire

/-!
# Scanning a stretch of bytes

A scan takes frames off a stretch of bytes until it meets a reason to stop.
Every stretch of bytes is a run of legal frames with nothing behind it, or with
something behind it that stops the scan (`exists_wires_append`), and a scan
finds exactly that run (`scan_wires_append`).  From this the outcome of
decoding is known in each of the cases (`decode_wires`,
`decode_wires_append_of_atHead`), and a run of legal frames is determined by
its octets (`wires_inj`).
-/

namespace SharedListener.Frame

variable {limits : Limits}

/-- The octets of a run of frames. -/
def wires (frames : List Frame) : Bytes :=
  frames.flatMap wire

@[simp] theorem wires_nil : wires [] = [] := rfl

@[simp] theorem wires_cons (frame : Frame) (frames : List Frame) :
    wires (frame :: frames) = frame.wire ++ wires frames := rfl

@[simp] theorem wires_append (first second : List Frame) :
    wires (first ++ second) = wires first ++ wires second :=
  List.flatMap_append

/-- A listener with these limits takes each of the frames. -/
def AllLegal (limits : Limits) (frames : List Frame) : Prop :=
  ∀ frame ∈ frames, frame.Legal limits

theorem allLegal_nil (limits : Limits) : AllLegal limits [] :=
  List.forall_mem_nil _

theorem allLegal_cons {frame : Frame} {frames : List Frame} :
    AllLegal limits (frame :: frames) ↔ frame.Legal limits ∧ AllLegal limits frames :=
  List.forall_mem_cons

theorem AllLegal.append {first second : List Frame} (h₁ : AllLegal limits first)
    (h₂ : AllLegal limits second) : AllLegal limits (first ++ second) :=
  List.forall_mem_append.mpr ⟨h₁, h₂⟩

/-! ## Bytes are legal frames, and what stops a scan -/

theorem Stop.AtHead.ne_nil {stop : Stop} {input : Bytes} (h : stop.AtHead limits input) :
    input ≠ [] := by
  cases stop with
  | incomplete =>
      obtain ⟨_, _, _, _, hinput, _⟩ := h
      exact hinput
  | close =>
      obtain ⟨lead, rest, _, rfl⟩ := h
      exact List.cons_ne_nil _ _
  | oversized length =>
      obtain ⟨lead, field, rest, _, _, _, _, rfl⟩ := h
      exact List.cons_ne_nil _ _

/-- Every stretch of bytes is a run of legal frames with nothing or a reason to stop behind it. -/
theorem exists_wires_append (limits : Limits) (input : Bytes) :
    ∃ (frames : List Frame) (rest : Bytes), AllLegal limits frames ∧
      input = wires frames ++ rest ∧ (rest = [] ∨ ∃ stop : Stop, stop.AtHead limits rest) := by
  induction hlength : input.length using Nat.strongRecOn generalizing input with
  | ind length ih =>
      by_cases hinput : input = []
      · exact ⟨[], [], allLegal_nil limits, hinput, .inl rfl⟩
      rcases exists_legal_or_atHead limits hinput with ⟨frame, behind, legal, rfl⟩ | hstop
      · have hshorter : behind.length < length := by
          have := List.length_pos_iff.mpr (wire_ne_nil frame)
          rw [← hlength, List.length_append]
          omega
        obtain ⟨frames, rest, hlegal, rfl, hrest⟩ := ih _ hshorter behind rfl
        exact ⟨frame :: frames, rest, allLegal_cons.mpr ⟨legal, hlegal⟩, by simp, hrest⟩
      · exact ⟨[], input, allLegal_nil limits, rfl, .inr hstop⟩

/-! ## A scan finds them -/

theorem scan_nil (limits : Limits) : scan limits [] = ⟨[], [], none⟩ := by
  rw [scan, scanAfter]
  rfl

private theorem scanAfter_nil (limits : Limits) (done : List Frame) :
    scanAfter limits done [] = ⟨done.reverse, [], none⟩ := by
  rw [scanAfter]
  rfl

private theorem scanAfter_of_atHead {stop : Stop} {input : Bytes}
    (h : stop.AtHead limits input) (done : List Frame) :
    scanAfter limits done input = ⟨done.reverse, input, some stop⟩ := by
  have hread := read_of_atHead h
  have hne : ¬ input.isEmpty := by simpa using h.ne_nil
  rw [scanAfter, if_neg hne]
  split
  · next other hother =>
    rw [hread] at hother
    cases hother
    rfl
  · next taken htaken =>
    rw [hread] at htaken
    cases htaken

private theorem scanAfter_wire_append {frame : Frame} (legal : frame.Legal limits)
    (done : List Frame) (rest : Bytes) :
    scanAfter limits done (frame.wire ++ rest) = scanAfter limits (frame :: done) rest := by
  have hread := read_wire_append legal rest
  have hne : ¬ (frame.wire ++ rest).isEmpty := by simp [wire_ne_nil]
  rw [scanAfter, if_neg hne]
  split
  · next stop hstop =>
    rw [hread] at hstop
    cases hstop
  · next taken htaken =>
    rw [hread] at htaken
    cases htaken
    rfl

private theorem scanAfter_wires_append {frames : List Frame} (hlegal : AllLegal limits frames)
    (done : List Frame) (rest : Bytes) :
    scanAfter limits done (wires frames ++ rest) =
      scanAfter limits (frames.reverse ++ done) rest := by
  induction frames generalizing done with
  | nil => rfl
  | cons frame frames ih =>
      rw [allLegal_cons] at hlegal
      rw [wires_cons, List.append_assoc, scanAfter_wire_append hlegal.1, ih hlegal.2,
        List.reverse_cons, List.append_assoc]
      rfl

/-- A run of legal frames with nothing behind it. -/
theorem scan_wires {frames : List Frame} (hlegal : AllLegal limits frames) :
    scan limits (wires frames) = ⟨frames, [], none⟩ := by
  have hscan := scanAfter_wires_append hlegal [] []
  rw [List.append_nil, List.append_nil, scanAfter_nil, List.reverse_reverse] at hscan
  exact hscan

/-- A run of legal frames with a reason to stop behind it. -/
theorem scan_wires_append {frames : List Frame} (hlegal : AllLegal limits frames) {stop : Stop}
    {rest : Bytes} (hstop : stop.AtHead limits rest) :
    scan limits (wires frames ++ rest) = ⟨frames, rest, some stop⟩ := by
  rw [scan, scanAfter_wires_append hlegal, scanAfter_of_atHead hstop, List.append_nil,
    List.reverse_reverse]

/-- A run of legal frames is determined by its octets. -/
theorem wires_inj {first second : List Frame} (h₁ : AllLegal limits first)
    (h₂ : AllLegal limits second) (h : wires first = wires second) : first = second := by
  have hscan := scan_wires h₁
  rw [h, scan_wires h₂] at hscan
  cases hscan
  rfl

/-! ## The outcome of decoding -/

/-- What decoding comes to where a scan stops for a reason. -/
def Stop.outcome : Stop → Except Fault Outcome
  | .incomplete => .ok .needMore
  | .close => .ok .close
  | .oversized length => .error (.oversizedFrame length)

theorem decode_nil (limits : Limits) : decode limits [] = .ok .needMore := by
  rw [decode, scan_nil]
  rfl

theorem decode_wires {frames : List Frame} (hlegal : AllLegal limits frames)
    (hne : frames ≠ []) :
    decode limits (wires frames) =
      .ok (.complete (delivery limits.control frames) (wires frames).length frames.length) := by
  rw [decode, scan_wires hlegal]
  simp [Scan.outcome, hne]

theorem decode_wires_append_of_atHead {frames : List Frame} (hlegal : AllLegal limits frames)
    {stop : Stop} {rest : Bytes} (hstop : stop.AtHead limits rest) :
    decode limits (wires frames ++ rest) = stop.outcome := by
  rw [decode, scan_wires_append hlegal hstop]
  cases stop <;> rfl

end SharedListener.Frame
