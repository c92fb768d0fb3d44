import SharedListener.Frame.Cursor
import SharedListener.Proofs.Frame.Feed

/-!
# The cursor never missteps

Every step of `Frame.Cursor` is carried out: each octet that is taken is there,
no sum leaves its word, no position is below zero, and there are never more
frames than turns.  What the steps come to is what `Frame.decode` and
`Decoder.feed` say (`attempt_eq`, `feed_eq`).

Two facts carry this.  A length that has passed the checks is below 2^31 - 1,
whatever the limits (`LengthField.length_lt_of_read`), and a frame has two octets
besides its body (`length_data_add_le`).
-/

namespace SharedListener.Frame

variable {limits : Limits}

/-! ## What a frame takes and what it delivers -/

theorem length_body_add_two_le (frame : Frame) : frame.body.length + 2 ≤ frame.wire.length := by
  have hfield : 0 < frame.lengthField.wire.length :=
    List.length_pos_iff.mpr frame.lengthField.wire_ne_nil
  rw [wire_eq]
  simp only [List.length_cons, List.length_append]
  omega

theorem length_cleartext (frame : Frame) : frame.cleartext.length = frame.body.length := by
  obtain ⟨lead, form, key, body⟩ := frame
  cases key with
  | none => rfl
  | some key => exact List.length_mapIdx

theorem length_data_singleton_le (policy : ControlPolicy) (frame : Frame) :
    (data policy [frame]).length ≤ frame.body.length := by
  rw [← length_cleartext]
  cases policy with
  | fold => simp [data]
  | drop =>
      by_cases hleft : frame.IsPingOrPong <;> simp [data, hleft]

/-- A frame has two octets besides what it delivers. -/
theorem length_data_add_le (policy : ControlPolicy) (frames : List Frame) :
    (data policy frames).length + 2 * frames.length ≤ (wires frames).length := by
  induction frames with
  | nil => rw [data_nil]; exact Nat.le_refl 0
  | cons frame frames ih =>
      have hdata := length_data_singleton_le policy frame
      have hframe := length_body_add_two_le frame
      rw [← List.singleton_append, data_append, wires_append, List.length_append,
        List.length_append, List.length_append, List.length_singleton]
      have hwire : (wires [frame]).length = frame.wire.length := by simp
      omega

/-- There are at most half as many frames as octets. -/
theorem two_mul_length_frames_le (input : Bytes) :
    2 * (scan limits input).frames.length ≤ input.length := by
  obtain ⟨frames, rest, hlegal, rfl, hrest⟩ := exists_wires_append limits input
  have hframes := length_data_add_le limits.control frames
  have hscan : (scan limits (wires frames ++ rest)).frames = frames := by
    rcases hrest with rfl | ⟨stop, hstop⟩
    · rw [List.append_nil, scan_wires hlegal]
    · rw [scan_wires_append hlegal hstop]
  rw [hscan, List.length_append]
  omega

theorem appendDelivery_eq (policy : ControlPolicy) (out : Bytes) (frame : Frame) :
    appendDelivery policy out frame = out ++ delivery policy [frame] := by
  unfold appendDelivery delivery isDelivered payload
  cases policy <;> cases hcontrol : frame.opcode.isControl <;> cases hkey : frame.key <;>
    simp [hcontrol, hkey, Masking.appendUnmasked_eq]

/-! ## An accepted length is small -/

theorem LengthField.length_lt_of_read {input : Bytes} {taken : LengthField × Bytes}
    (h : LengthField.read limits input = .ok taken) : taken.1.length < lengthCeiling := by
  rcases LengthField.exists_wire input with
    ⟨field, rest, hroom, rfl⟩ | ⟨field, more, _, hmore, hwire⟩
  · rw [LengthField.read_wire_append limits hroom, LengthField.verdict] at h
    split at h
    · cases h
    · next haccepted =>
      cases h
      have hlength := LengthField.length_le_of_accepted hroom haccepted
      unfold lengthCeiling at hlength ⊢
      dsimp only
      omega
  · rw [LengthField.read_of_cut limits hwire hmore] at h
    cases h

namespace Cursor

/-! ## Steps that are guarded -/

theorem octets_of_le {count : Nat} {left : Bytes} (h : count ≤ left.length) :
    octets count left = .ok (left.take count, left.drop count) := by
  rw [octets, if_neg (Nat.not_lt.mpr h)]

theorem difference_of_le {position other : Nat} (h : other ≤ position) :
    difference position other = .ok (position - other) := by
  rw [difference, if_neg (Nat.not_lt.mpr h)]

theorem sum_of_lt {first second : Nat} (h : first + second < UInt64.size) :
    sum first second = .ok (first + second) := by
  rw [sum, if_pos h]

theorem narrow_of_lt {length : Nat} (h : length < lengthCeiling) (width : IndexWidth) :
    narrow width length = length := by
  unfold lengthCeiling at h
  apply Nat.mod_eq_of_lt
  cases width <;> simp only [IndexWidth.size, UInt32.size, UInt64.size] <;> omega

/-! ## One frame -/

/-- Octets that are taken if they are there. -/
private theorem guarded_octets {α : Type} (count : Nat) (left : Bytes)
    (next : Bytes × Bytes → Except Stop α) :
    (if left.length < count then .ok (.error .incomplete)
      else octets count left >>= fun taken => .ok (next taken)) =
      (.ok (readOctets count left >>= next) : Except Misstep (Except Stop α)) := by
  rcases Nat.lt_or_ge left.length count with hshort | henough
  · rw [if_pos hshort, readOctets_of_lt hshort]
    rfl
  · rw [if_neg (Nat.not_lt.mpr henough), octets_of_le henough, readOctets_of_le henough]
    rfl

/-- What the cursor does at the second octet of a frame. -/
private theorem readLength_cons (limits : Limits) (masked : Bool) {low : Nat} (h : low < 128)
    (rest : Bytes) :
    readLength limits ((LengthField.maskBit masked ||| low.toUInt8) :: rest) =
      if low = 126 then
        if rest.length < 2 then .ok (.error .incomplete)
        else octets 2 rest >>= fun taken => .ok
          (LengthField.checked limits ⟨.medium, masked, Bytes.toNat taken.1⟩ taken.2)
      else if low = 127 then
        if rest.length < 8 then .ok (.error .incomplete)
        else octets 8 rest >>= fun taken => .ok
          (LengthField.checkedLong limits ⟨.long, masked, Bytes.toNat taken.1⟩ taken.2)
      else .ok (LengthField.checked limits ⟨.short, masked, low⟩ rest) := by
  simp only [readLength, List.isEmpty_cons, Bool.false_eq_true, if_false, octet, bind, Except.bind,
    LengthField.low_maskBit_or masked h, LengthField.high_maskBit_or masked h]
  split
  · rfl
  · rfl
  · next h126 h127 =>
    rw [if_neg h126, if_neg h127]
    rfl

/-- The length octets are read as they are without a cursor. -/
theorem readLength_eq (limits : Limits) (left : Bytes) :
    readLength limits left = .ok (LengthField.read limits left) := by
  cases left with
  | nil => rfl
  | cons second rest =>
      obtain ⟨masked, low, hlow, rfl⟩ := LengthField.exists_maskBit_or second
      rw [readLength_cons limits masked hlow, LengthField.read_cons limits masked hlow]
      by_cases h126 : low = 126
      · rw [if_pos h126, if_pos h126]
        exact guarded_octets 2 rest _
      rw [if_neg h126, if_neg h126]
      by_cases h127 : low = 127
      · rw [if_pos h127, if_pos h127]
        exact guarded_octets 8 rest _
      rw [if_neg h127, if_neg h127]

theorem keyLength_le (masked : Bool) : keyLength masked ≤ 4 := by
  cases masked <;> simp [keyLength]

theorem readKey_of_lt {masked : Bool} {left : Bytes} (h : left.length < keyLength masked) :
    readKey masked left = .error .incomplete := by
  cases masked with
  | false => exact absurd h (Nat.not_lt_zero _)
  | true =>
      match left with
      | [] | [_] | [_, _] | [_, _, _] => rfl
      | _ :: _ :: _ :: _ :: rest =>
          simp only [keyLength, List.length_cons, if_true] at h
          omega

theorem exists_key {masked : Bool} {left : Bytes} (h : keyLength masked ≤ left.length) :
    ∃ found, key masked left = .ok (found, left.drop (keyLength masked)) ∧
      readKey masked left = .ok (found, left.drop (keyLength masked)) := by
  cases masked with
  | false => exact ⟨none, rfl, rfl⟩
  | true =>
      match left with
      | [] | [_] | [_, _] | [_, _, _] => exact absurd h (by simp [keyLength])
      | first :: second :: third :: fourth :: rest =>
          exact ⟨some ⟨first, second, third, fourth⟩, rfl, rfl⟩

/-- Behind an accepted length, the key and the body are read as they are without a cursor. -/
theorem readBody_eq (width : IndexWidth) (lead : UInt8) {field : LengthField}
    (h : field.length < lengthCeiling) (left : Bytes) :
    readBody width lead field left = .ok (do
      let key ← readKey field.masked left
      let body ← readOctets field.length key.2
      return (⟨lead, field.form, key.1, body.1⟩, body.2)) := by
  have hkeyLength := keyLength_le field.masked
  have hsum : field.length + keyLength field.masked < UInt64.size := by
    unfold lengthCeiling at h
    unfold UInt64.size
    omega
  unfold readBody
  rw [sum_of_lt hsum, narrow_of_lt h]
  show (if _ then _ else _) = _
  rcases Nat.lt_or_ge left.length (field.length + keyLength field.masked) with hshort | henough
  · rw [if_pos hshort]
    rcases Nat.lt_or_ge left.length (keyLength field.masked) with hnokey | hkey
    · rw [readKey_of_lt hnokey]
      rfl
    · -- the key is there, and the body is not
      obtain ⟨found, -, hread⟩ := exists_key hkey
      have hbody : (left.drop (keyLength field.masked)).length < field.length := by
        rw [List.length_drop]
        omega
      have hoctets := readOctets_of_lt hbody
      rw [hread]
      simp only [hoctets, bind, Except.bind]
      rfl
  · have hkey : keyLength field.masked ≤ left.length := by omega
    obtain ⟨found, hcursor, hread⟩ := exists_key hkey
    have hbody : field.length ≤ (left.drop (keyLength field.masked)).length := by
      rw [List.length_drop]
      omega
    rw [if_neg (Nat.not_lt.mpr henough), hcursor, hread]
    have hoctets := octets_of_le hbody
    have hreadOctets := readOctets_of_le hbody
    simp only [hoctets, hreadOctets, bind, Except.bind]
    rfl

/-- A frame is read as it is without a cursor. -/
theorem readFrame_eq (width : IndexWidth) (limits : Limits) {left : Bytes} (h : left ≠ []) :
    readFrame width limits left = .ok (read limits left) := by
  obtain ⟨lead, rest, rfl⟩ := List.exists_cons_of_ne_nil h
  show (if _ then _ else _) = Except.ok (if _ then _ else _)
  by_cases hclose : Opcode.ofOctet lead = .close
  · rw [if_pos hclose, if_pos hclose]
    rfl
  · rw [if_neg hclose, if_neg hclose, readLength_eq]
    unfold readBehind
    cases hfield : LengthField.read limits rest with
    | error stop => rfl
    | ok field => exact readBody_eq width lead (LengthField.length_lt_of_read hfield) field.2

/-! ## All frames -/

section Loop

variable (width : IndexWidth) {whole : Nat}

theorem decodeFrom_nil (limits : Limits) (whole turns : Nat) (out : Bytes) (count : Nat) :
    decodeFrom width limits whole turns out count [] = .ok (.ok
      (if count = 0 then (.needMore, 0) else (.complete out whole count, whole))) := by
  rw [decodeFrom]
  cases count <;> rfl

theorem decodeFrom_of_atHead {stop : Stop} {left : Bytes} (hstop : stop.AtHead limits left)
    (hwhole : left.length ≤ whole) (turns : Nat) (out : Bytes) (count : Nat) :
    decodeFrom width limits whole turns out count left = .ok (match stop with
      | .incomplete => .ok (.needMore, whole - left.length)
      | .close => .ok (.close, whole)
      | .oversized length => .error (.oversizedFrame length)) := by
  have hne : ¬ left.isEmpty := by simpa using hstop.ne_nil
  rw [decodeFrom, if_neg hne, difference_of_le hwhole, readFrame_eq width limits hstop.ne_nil,
    read_of_atHead hstop]
  cases stop <;> rfl

theorem decodeFrom_wire_append {frame : Frame} (legal : frame.Legal limits) {rest : Bytes}
    (hwhole : (frame.wire ++ rest).length ≤ whole) (turns : Nat) (out : Bytes) (count : Nat) :
    decodeFrom width limits whole (turns + 1) out count (frame.wire ++ rest) =
      decodeFrom width limits whole turns (out ++ delivery limits.control [frame]) (count + 1)
        rest := by
  have hleft : frame.wire ++ rest ≠ [] := by simp [wire_ne_nil]
  have hne : ¬ (frame.wire ++ rest).isEmpty := by simpa using hleft
  rw [decodeFrom, if_neg hne, difference_of_le hwhole, readFrame_eq width limits hleft,
    read_wire_append legal, ← appendDelivery_eq]
  rfl

/-- A run of legal frames is read in as many turns. -/
theorem decodeFrom_wires_append {frames : List Frame} (hlegal : AllLegal limits frames)
    {rest : Bytes} (hwhole : (wires frames ++ rest).length ≤ whole) (turns : Nat) (out : Bytes)
    (count : Nat) :
    decodeFrom width limits whole (frames.length + turns) out count (wires frames ++ rest) =
      decodeFrom width limits whole turns (out ++ delivery limits.control frames)
        (count + frames.length) rest := by
  induction frames generalizing out count with
  | nil => simp [delivery]
  | cons frame frames ih =>
      rw [allLegal_cons] at hlegal
      rw [wires_cons, List.append_assoc] at hwhole ⊢
      have hrest : (wires frames ++ rest).length ≤ whole := by
        rw [List.length_append] at hwhole
        omega
      have hturns : (frame :: frames).length + turns = frames.length + turns + 1 := by
        rw [List.length_cons]
        omega
      have hdelivery : delivery limits.control (frame :: frames) =
          delivery limits.control [frame] ++ delivery limits.control frames := by
        simp [delivery, ← List.flatMap_append, ← List.filter_append]
      rw [hturns, decodeFrom_wire_append width hlegal.1 hwhole, ih hlegal.2 hrest, hdelivery,
        List.append_assoc, List.length_cons, Nat.add_assoc, Nat.add_comm 1]

/-- A whole stretch of bytes is read in at most half as many turns as it has octets. -/
private theorem attempt_wires_append {frames : List Frame} (hlegal : AllLegal limits frames)
    (rest : Bytes) :
    ∃ turns, attempt width limits (wires frames ++ rest) =
      decodeFrom width limits (wires frames ++ rest).length turns
        (delivery limits.control frames) frames.length rest := by
  have hframes := length_data_add_le .fold frames
  have hlength : (wires frames ++ rest).length = (wires frames).length + rest.length :=
    List.length_append
  obtain ⟨turns, hturns⟩ : ∃ turns, (wires frames ++ rest).length / 2 = frames.length + turns :=
    Nat.exists_eq_add_of_le (by omega)
  refine ⟨turns, ?_⟩
  rw [attempt, hturns, decodeFrom_wires_append width hlegal (Nat.le_refl _), List.nil_append,
    Nat.zero_add]

end Loop

/-- An outcome with the position of the unfinished frame, or of the end if there is none. -/
def located (limits : Limits) (input : Bytes) (outcome : Outcome) : Outcome × Nat :=
  (outcome,
    if outcome = .needMore then input.length - (scan limits input).rest.length else input.length)

/-- Decoding comes to an outcome without a misstep, and to the right one. -/
theorem attempt_eq (width : IndexWidth) (limits : Limits) (input : Bytes) :
    attempt width limits input = .ok ((Frame.decode limits input).map (located limits input)) := by
  obtain ⟨frames, rest, hlegal, rfl, hrest⟩ := exists_wires_append limits input
  obtain ⟨turns, hattempt⟩ := attempt_wires_append width hlegal rest
  rw [hattempt]
  rcases hrest with rfl | ⟨stop, hstop⟩
  · rw [List.append_nil, decodeFrom_nil]
    by_cases hne : frames = []
    · subst hne
      rw [wires_nil, decode_nil]
      simp [Except.map, located, scan_nil]
    · rw [decode_wires hlegal hne, if_neg (by simpa using hne)]
      rfl
  · have hwhole : rest.length ≤ (wires frames ++ rest).length := by
      rw [List.length_append]
      omega
    rw [decodeFrom_of_atHead width hstop hwhole, decode_wires_append_of_atHead hlegal hstop]
    cases stop with
    | incomplete => simp [Stop.outcome, Except.map, located, scan_wires_append hlegal hstop]
    | close => rfl
    | oversized length => rfl

theorem decode_eq (width : IndexWidth) (limits : Limits) (input : Bytes) :
    decode width limits input = .ok (Frame.decode limits input) := by
  unfold decode
  rw [attempt_eq]
  cases Frame.decode limits input <;> rfl

theorem feed_eq (width : IndexWidth) (limits : Limits) (decoder : Decoder) (chunk : Bytes) :
    feed width limits decoder chunk = .ok (decoder.feed limits chunk) := by
  rw [Frame.feed_eq]
  unfold feed
  dsimp only
  generalize decoder.pending ++ chunk = input
  rw [attempt_eq]
  cases hdecode : Frame.decode limits input with
  | error fault => rfl
  | ok outcome =>
      cases outcome with
      | needMore =>
          obtain ⟨frames, rest, -, hinput, hscan, -, -, hcap⟩ := exists_unfinished hdecode
          have hle : rest.length ≤ input.length := by
            rw [hinput, List.length_append]
            omega
          have hposition : difference input.length (input.length - rest.length) =
              .ok rest.length := by
            rw [difference_of_le (Nat.sub_le _ _), Nat.sub_sub_self hle]
          simp only [Except.map, located, bind, Except.bind, if_true, hscan, hposition,
            if_neg (Nat.not_lt.mpr hcap)]
          rfl
      | close => rfl
      | complete payload consumed count =>
          obtain ⟨-, -, -, -, -, rfl, -⟩ := decode_eq_complete_iff.mp hdecode
          simp only [Except.map, located, bind, Except.bind, octets_of_le (Nat.le_refl _),
            List.drop_length]
          rfl

/-- **No step of the decoder fails.**  For all bytes, whatever is kept and whatever the limits,
every octet that is taken is there, every sum fits, no position is below zero and what is dropped
from the front is there, so that the steps come to what decoding and feeding say.  A length that
passes the checks is far from leaving its word together with the key, and as an index it is the same
number.  There are at most half as many frames as octets, and whole frames have two octets each
besides what they deliver. -/
theorem feed_never_missteps (width : IndexWidth) (limits : Limits) :
    (∀ decoder chunk, feed width limits decoder chunk = .ok (decoder.feed limits chunk)) ∧
    (∀ input, decode width limits input = .ok (Frame.decode limits input)) ∧
    (∀ input field rest, LengthField.read limits input = .ok (field, rest) →
      field.length + keyLength field.masked < 2 ^ 31 + 3 ∧
        narrow width field.length = field.length) ∧
    (∀ input, 2 * (scan limits input).frames.length ≤ input.length) ∧
    (∀ input payload consumed count,
      Frame.decode limits input = .ok (.complete payload consumed count) →
        consumed = input.length ∧ payload.length + 2 * count ≤ consumed) := by
  refine ⟨feed_eq width limits, decode_eq width limits, ?_, two_mul_length_frames_le, ?_⟩
  · intro input field rest hread
    have hlength : field.length < lengthCeiling := LengthField.length_lt_of_read hread
    have hkey := keyLength_le field.masked
    refine ⟨?_, narrow_of_lt hlength width⟩
    unfold lengthCeiling at hlength
    omega
  · intro input payload consumed count hcomplete
    obtain ⟨frames, -, -, rfl, rfl, rfl, rfl⟩ := decode_eq_complete_iff.mp hcomplete
    exact ⟨rfl, length_data_add_le limits.control frames⟩

end Cursor
end SharedListener.Frame
