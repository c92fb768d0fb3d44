import SharedListener.Proofs.Frame.Scan
import SharedListener.Proofs.Masking

/-!
# The grammar of decodable bytes

Each outcome of `Frame.decode` is one sentence about the bytes, in terms of
legal frames and their written form.  The data delivered is stated by position:
every body has the octets of its own key taken off from its first octet on, and
the bodies of pings and pongs are left out if the policy says so.  Which frames
these are is read off the wire: they have 9 or 10 in the low four bits of their
lead octet.

The outcomes exclude each other, and the frames are determined by the bytes, so
the four sentences describe the decoder completely.
-/

namespace SharedListener.Frame

variable {limits : Limits}

/-- The body of a frame with the mask taken off, by position. -/
def cleartext (frame : Frame) : Bytes :=
  match frame.key with
  | some key => Masking.apply key frame.body
  | none => frame.body

/-- A ping or a pong, by the low four bits of the lead octet. -/
def IsPingOrPong (frame : Frame) : Prop :=
  frame.lead &&& 0x0F = 9 ∨ frame.lead &&& 0x0F = 10

instance (frame : Frame) : Decidable frame.IsPingOrPong :=
  inferInstanceAs (Decidable (_ ∨ _))

/-- The data of a run of frames: all bodies, or all but those of pings and pongs. -/
def data : ControlPolicy → List Frame → Bytes
  | .fold, frames => frames.flatMap cleartext
  | .drop, frames => (frames.filter fun frame => ¬ frame.IsPingOrPong).flatMap cleartext

theorem payload_eq_cleartext (frame : Frame) : frame.payload = frame.cleartext := by
  obtain ⟨lead, form, key, body⟩ := frame
  cases key with
  | none => rfl
  | some key => exact (Masking.appendUnmasked_eq [] key body).trans (List.nil_append _)

/-- The decoder and the wire have the same pings and pongs. -/
theorem isPingOrPong_iff (frame : Frame) :
    frame.IsPingOrPong ↔ frame.opcode = .ping ∨ frame.opcode = .pong := by
  unfold IsPingOrPong opcode
  rw [Opcode.ofOctet_eq_ping_iff, Opcode.ofOctet_eq_pong_iff]

theorem isDelivered_eq {frame : Frame} (legal : frame.Legal limits) (policy : ControlPolicy) :
    isDelivered policy frame = (policy = .fold ∨ ¬ frame.IsPingOrPong : Bool) := by
  have hclose := legal.opcode_ne_close
  have hwire := frame.isPingOrPong_iff
  cases policy with
  | fold => simp [isDelivered]
  | drop =>
      unfold isDelivered
      cases hopcode : frame.opcode <;> simp_all [Opcode.isControl]

/-- The frames that the decoder delivers, in the way in which it unmasks them. -/
theorem delivery_eq_data {frames : List Frame} (hlegal : AllLegal limits frames)
    (policy : ControlPolicy) : delivery policy frames = data policy frames := by
  have hpayload : payload = cleartext := funext payload_eq_cleartext
  have hfilter : frames.filter (isDelivered policy) =
      frames.filter fun frame => (policy = .fold ∨ ¬ frame.IsPingOrPong : Bool) :=
    List.filter_congr fun frame hmem => isDelivered_eq (hlegal frame hmem) policy
  rw [delivery, hpayload, hfilter]
  cases policy with
  | fold => simp [data, List.filter_eq_self.mpr]
  | drop => simp only [data, reduceCtorEq, false_or]

theorem data_append (policy : ControlPolicy) (first second : List Frame) :
    data policy (first ++ second) = data policy first ++ data policy second := by
  cases policy <;> simp [data]

theorem data_nil (policy : ControlPolicy) : data policy [] = [] := by
  cases policy <;> rfl

/-! ## The outcome in each case -/

/-- What bytes decode to, by the run of legal frames at their head and what follows it. -/
theorem decode_eq_iff {input : Bytes} {outcome : Except Fault Outcome} :
    decode limits input = outcome ↔
      (input = [] ∧ outcome = .ok .needMore) ∨
      (∃ frames, AllLegal limits frames ∧ frames ≠ [] ∧ input = wires frames ∧
        outcome = .ok (.complete (data limits.control frames) input.length frames.length)) ∨
      ∃ (stop : Stop) (frames : List Frame) (rest : Bytes), AllLegal limits frames ∧
        input = wires frames ++ rest ∧ stop.AtHead limits rest ∧ outcome = stop.outcome := by
  constructor
  · rintro rfl
    obtain ⟨frames, rest, hlegal, rfl, rfl | ⟨stop, hstop⟩⟩ := exists_wires_append limits input
    · by_cases hne : frames = []
      · subst hne
        exact .inl ⟨rfl, decode_nil limits⟩
      · refine .inr (.inl ⟨frames, hlegal, hne, List.append_nil _, ?_⟩)
        rw [List.append_nil, decode_wires hlegal hne, delivery_eq_data hlegal]
    · exact .inr (.inr ⟨stop, frames, rest, hlegal, rfl, hstop,
        decode_wires_append_of_atHead hlegal hstop⟩)
  · rintro (⟨rfl, rfl⟩ | ⟨frames, hlegal, hne, rfl, rfl⟩ |
      ⟨stop, frames, rest, hlegal, rfl, hstop, rfl⟩)
    · exact decode_nil limits
    · rw [decode_wires hlegal hne, delivery_eq_data hlegal]
    · exact decode_wires_append_of_atHead hlegal hstop

theorem Stop.outcome_ne_complete (stop : Stop) (payload : Bytes) (consumed count : Nat) :
    stop.outcome ≠ .ok (.complete payload consumed count) := by
  cases stop <;> simp [outcome]

theorem Stop.needMore_eq_outcome {stop : Stop} :
    .ok .needMore = stop.outcome ↔ stop = .incomplete := by
  cases stop <;> simp [outcome]

theorem Stop.close_eq_outcome {stop : Stop} : .ok .close = stop.outcome ↔ stop = .close := by
  cases stop <;> simp [outcome]

theorem Stop.error_eq_outcome {stop : Stop} {fault : Fault} :
    .error fault = stop.outcome ↔
      ∃ length, fault = .oversizedFrame length ∧ stop = .oversized length := by
  cases stop <;> simp [outcome]

theorem decode_eq_complete_iff {input payload : Bytes} {consumed count : Nat} :
    decode limits input = .ok (.complete payload consumed count) ↔
      ∃ frames, AllLegal limits frames ∧ frames ≠ [] ∧ input = wires frames ∧
        payload = data limits.control frames ∧ consumed = input.length ∧
        count = frames.length := by
  simp [decode_eq_iff, (Stop.outcome_ne_complete _ _ _ _).symm]

theorem decode_eq_needMore_iff {input : Bytes} :
    decode limits input = .ok .needMore ↔
      input = [] ∨ ∃ frames rest, AllLegal limits frames ∧ input = wires frames ++ rest ∧
        Stop.incomplete.AtHead limits rest := by
  simp [decode_eq_iff, Stop.needMore_eq_outcome]

theorem decode_eq_close_iff {input : Bytes} :
    decode limits input = .ok .close ↔
      ∃ frames rest, AllLegal limits frames ∧ input = wires frames ++ rest ∧
        Stop.close.AtHead limits rest := by
  simp [decode_eq_iff, Stop.close_eq_outcome]

theorem decode_eq_error_iff {input : Bytes} {fault : Fault} :
    decode limits input = .error fault ↔
      ∃ frames rest, AllLegal limits frames ∧ input = wires frames ++ rest ∧
        ∃ length, (Stop.oversized length).AtHead limits rest ∧
          fault = .oversizedFrame length := by
  simp [decode_eq_iff, Stop.error_eq_outcome]

/-- **Decoding recognises the frame grammar.**  Bytes are complete exactly if they are one or more
legal frames, which are then the only ones that they can be, and what is delivered is their data.
They end the connection exactly if a close frame or a refused length comes behind zero or more
legal frames, and they wait exactly if an unfinished frame does, or if there are none. -/
theorem decode_grammar (limits : Limits) (input : Bytes) :
    (∀ payload consumed count,
      decode limits input = .ok (.complete payload consumed count) ↔
        ∃ frames, AllLegal limits frames ∧ frames ≠ [] ∧ input = wires frames ∧
          payload = data limits.control frames ∧ consumed = input.length ∧
          count = frames.length) ∧
    (∀ first second, AllLegal limits first → AllLegal limits second →
      input = wires first → input = wires second → first = second) ∧
    (decode limits input = .ok .close ↔
      ∃ frames rest, AllLegal limits frames ∧ input = wires frames ++ rest ∧
        Stop.close.AtHead limits rest) ∧
    (∀ length, decode limits input = .error (.oversizedFrame length) ↔
      ∃ frames rest, AllLegal limits frames ∧ input = wires frames ++ rest ∧
        (Stop.oversized length).AtHead limits rest) ∧
    (decode limits input = .ok .needMore ↔
      input = [] ∨ ∃ frames rest, AllLegal limits frames ∧ input = wires frames ++ rest ∧
        Stop.incomplete.AtHead limits rest) ∧
    (∀ fault, decode limits input = .error fault → ∃ length, fault = .oversizedFrame length) := by
  refine ⟨fun payload consumed count => decode_eq_complete_iff, ?_, decode_eq_close_iff, ?_,
    decode_eq_needMore_iff, ?_⟩
  · intro first second hfirst hsecond h₁ h₂
    exact wires_inj hfirst hsecond (h₁.symm.trans h₂)
  · intro length
    simp only [decode_eq_error_iff, Fault.oversizedFrame.injEq, exists_eq_right']
  · intro fault hfault
    obtain ⟨_, _, _, _, length, _, rfl⟩ := decode_eq_error_iff.mp hfault
    exact ⟨length, rfl⟩

end SharedListener.Frame
