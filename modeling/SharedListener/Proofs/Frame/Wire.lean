import SharedListener.Proofs.Frame.LengthField

/-!
# What stands at the head of a stretch of bytes

A frame on the wire is a lead octet, a length field, a masking key if there is
one, and a body.  `Frame.read` takes the first of them off a stretch of bytes.
This file says when it does, and why it does not if it does not, in terms of
the written form `Frame.wire` alone:

* `read_wire_append`: a legal frame is taken off, whatever stands behind it;
* `Stop.AtHead` says what a close frame, a refused length and an unfinished
  frame look like, and `read_of_atHead` that the reader sees them so;
* `exists_legal_or_atHead`: there is no other way for bytes to begin.

Since a function has one value, the three together are equivalences
(`read_eq_ok_iff`, `read_eq_error_iff`), and wire forms need no separator.
-/

namespace SharedListener

namespace Opcode

/-- The close opcode is the low nibble 8. -/
theorem ofOctet_eq_close_iff (octet : UInt8) : ofOctet octet = .close ↔ octet &&& 0x0F = 8 := by
  unfold ofOctet
  rw [← UInt8.toNat_inj]
  split <;> simp_all

/-- The ping opcode is the low nibble 9. -/
theorem ofOctet_eq_ping_iff (octet : UInt8) : ofOctet octet = .ping ↔ octet &&& 0x0F = 9 := by
  unfold ofOctet
  rw [← UInt8.toNat_inj]
  split <;> simp_all

/-- The pong opcode is the low nibble 10. -/
theorem ofOctet_eq_pong_iff (octet : UInt8) : ofOctet octet = .pong ↔ octet &&& 0x0F = 10 := by
  unfold ofOctet
  rw [← UInt8.toNat_inj]
  split <;> simp_all

end Opcode

namespace Frame

/-- The length field of a frame. -/
def lengthField (frame : Frame) : LengthField :=
  ⟨frame.form, frame.key.isSome, frame.body.length⟩

/-- The octets of the masking key, if there is one. -/
def keyWire (key : Option Masking.Key) : Bytes :=
  (key.map Masking.Key.wire).getD []

theorem wire_eq (frame : Frame) :
    frame.wire =
      frame.lead :: (frame.lengthField.wire ++ (keyWire frame.key ++ frame.body)) := rfl

theorem wire_ne_nil (frame : Frame) : frame.wire ≠ [] :=
  List.cons_ne_nil _ _

theorem LengthForm.fits_iff (form : LengthForm) (length : Nat) :
    form.Fits length ↔ length < form.capacity ∧ ¬ (form = .long ∧ lengthCeiling ≤ length) := by
  cases form <;> simp [Fits, capacity, lengthCeiling]
  omega

/-- A frame is legal if it is no close frame and its length can be written and is not refused. -/
theorem legal_iff {limits : Limits} {frame : Frame} :
    frame.Legal limits ↔ frame.lead &&& 0x0F ≠ 8 ∧ frame.lengthField.HasRoom ∧
      ¬ frame.lengthField.Refused limits := by
  unfold Legal LengthField.HasRoom LengthField.Refused lengthField
  rw [LengthForm.fits_iff, not_or, Nat.not_lt, and_assoc]

theorem Legal.opcode_ne_close {limits : Limits} {frame : Frame} (legal : frame.Legal limits) :
    frame.opcode ≠ .close :=
  mt (Opcode.ofOctet_eq_close_iff frame.lead).mp legal.1

theorem read_cons_of_ne_close (limits : Limits) {lead : UInt8} (h : lead &&& 0x0F ≠ 8)
    (tail : Bytes) : read limits (lead :: tail) = readBehind limits lead tail := by
  rw [read, if_neg (mt (Opcode.ofOctet_eq_close_iff lead).mp h)]

/-! ## Cutting a field short -/

/-- Two bytes sequences that agree, cut at different places: the first part of the one is whole in
the other, or it is cut off. -/
theorem whole_or_cut {first second left right : Bytes} (h : first ++ second = left ++ right) :
    (∃ tail, left = first ++ tail ∧ second = tail ++ right) ∨
      ∃ more, more ≠ [] ∧ first = left ++ more := by
  rcases List.append_eq_append_iff.mp h with ⟨tail, hleft, hsecond⟩ | ⟨more, hfirst, hmore⟩
  · exact .inl ⟨tail, hleft, hsecond⟩
  · cases more with
    | nil => exact .inl ⟨[], by simpa using hfirst.symm, by simpa using hmore.symm⟩
    | cons octet more => exact .inr ⟨octet :: more, List.cons_ne_nil _ _, hfirst⟩

/-! ## The masking key -/

theorem readKey_append (key : Option Masking.Key) (rest : Bytes) :
    readKey key.isSome (keyWire key ++ rest) = .ok (key, rest) := by
  cases key <;> rfl

theorem readKey_of_cut {key : Option Masking.Key} {input more : Bytes}
    (hwire : keyWire key = input ++ more) (hmore : more ≠ []) :
    readKey key.isSome input = .error .incomplete := by
  have hpos : 0 < more.length := List.length_pos_iff.mpr hmore
  have hlength := congrArg List.length hwire
  rw [List.length_append] at hlength
  cases key with
  | none =>
      have : (keyWire none).length = 0 := rfl
      omega
  | some key =>
      have : (keyWire (some key)).length = 4 := rfl
      match input with
      | [] | [_] | [_, _] | [_, _, _] => rfl
      | _ :: _ :: _ :: _ :: rest =>
          simp only [List.length_cons] at hlength
          omega

/-- A key for a frame that is masked or not. -/
def zeroKey (masked : Bool) : Option Masking.Key :=
  if masked then some ⟨0, 0, 0, 0⟩ else none

@[simp] theorem isSome_zeroKey (masked : Bool) : (zeroKey masked).isSome = masked := by
  cases masked <;> rfl

/-- Bytes begin with the key that they should have, or they are the beginning of one. -/
theorem exists_keyWire (masked : Bool) (input : Bytes) :
    (∃ key rest, key.isSome = masked ∧ input = keyWire key ++ rest) ∨
      ∃ key more, key.isSome = masked ∧ more ≠ [] ∧ keyWire key = input ++ more := by
  cases masked with
  | false => exact .inl ⟨none, input, rfl, rfl⟩
  | true =>
      match input with
      | [] => exact .inr ⟨some ⟨0, 0, 0, 0⟩, [0, 0, 0, 0], rfl, by simp, rfl⟩
      | [a] => exact .inr ⟨some ⟨a, 0, 0, 0⟩, [0, 0, 0], rfl, by simp, rfl⟩
      | [a, b] => exact .inr ⟨some ⟨a, b, 0, 0⟩, [0, 0], rfl, by simp, rfl⟩
      | [a, b, c] => exact .inr ⟨some ⟨a, b, c, 0⟩, [0], rfl, by simp, rfl⟩
      | a :: b :: c :: d :: rest => exact .inl ⟨some ⟨a, b, c, d⟩, rest, rfl, rfl⟩

/-! ## Legal frames are read -/

theorem readBehind_append {limits : Limits} (lead : UInt8) {field : LengthField}
    (hroom : field.HasRoom) (haccepted : ¬ field.Refused limits) (rest : Bytes) :
    readBehind limits lead (field.wire ++ rest) = do
      let key ← readKey field.masked rest
      let body ← readOctets field.length key.2
      return (⟨lead, field.form, key.1, body.1⟩, body.2) := by
  rw [readBehind, LengthField.read_wire_append limits hroom, LengthField.verdict,
    if_neg haccepted]
  rfl

/-- A legal frame is taken off, whatever stands behind it. -/
theorem read_wire_append {limits : Limits} {frame : Frame} (legal : frame.Legal limits)
    (rest : Bytes) : read limits (frame.wire ++ rest) = .ok (frame, rest) := by
  obtain ⟨hnibble, hroom, haccepted⟩ := legal_iff.mp legal
  rw [wire_eq, List.cons_append, List.append_assoc, List.append_assoc,
    read_cons_of_ne_close limits hnibble, readBehind_append _ hroom haccepted]
  have hkey := readKey_append frame.key (frame.body ++ rest)
  have hbody : readOctets frame.body.length (frame.body ++ rest) = .ok (frame.body, rest) :=
    readOctets_append rfl rest
  simp only [lengthField, hkey, hbody, bind, Except.bind, pure, Except.pure]

/-! ## Why no frame can be read -/

/-- What the head of `input` looks like if a reading stops there. -/
def Stop.AtHead (limits : Limits) (input : Bytes) : Stop → Prop
  /- A frame that is not all there.  If its length is refused, then not even the length is. -/
  | .incomplete => ∃ (frame : Frame) (more : Bytes),
      frame.lead &&& 0x0F ≠ 8 ∧ frame.lengthField.HasRoom ∧ input ≠ [] ∧ more ≠ [] ∧
        frame.wire = input ++ more ∧
        (frame.lengthField.Refused limits → input.length ≤ frame.lengthField.wire.length)
  | .close => ∃ (lead : UInt8) (rest : Bytes), lead &&& 0x0F = 8 ∧ input = lead :: rest
  | .oversized length => ∃ (lead : UInt8) (field : LengthField) (rest : Bytes),
      lead &&& 0x0F ≠ 8 ∧ field.HasRoom ∧ field.Refused limits ∧ field.length = length ∧
        input = lead :: (field.wire ++ rest)

private theorem read_of_unfinished {limits : Limits} {input : Bytes}
    (h : Stop.incomplete.AtHead limits input) : read limits input = .error .incomplete := by
  obtain ⟨frame, more, hnibble, hroom, hinput, hmore, hwire, hrefused⟩ := h
  obtain ⟨lead, tail, rfl⟩ := List.exists_cons_of_ne_nil hinput
  rw [wire_eq, List.cons_append, List.cons.injEq] at hwire
  obtain ⟨rfl, hwire⟩ := hwire
  rw [read_cons_of_ne_close limits hnibble]
  rcases whole_or_cut hwire with ⟨behind, rfl, hbehind⟩ | ⟨cut, hcut, hfield⟩
  · have haccepted : ¬ frame.lengthField.Refused limits := by
      intro h
      have hlength := hrefused h
      rw [List.length_cons, List.length_append] at hlength
      omega
    rw [readBehind_append _ hroom haccepted]
    rcases whole_or_cut hbehind with ⟨body, rfl, hbody⟩ | ⟨cut, hcut, hkey⟩
    · -- the bytes end inside the body
      have hshort : body.length < frame.body.length := by
        rw [hbody, List.length_append]
        exact Nat.lt_add_of_pos_right (List.length_pos_iff.mpr hmore)
      have hkey := readKey_append frame.key body
      have hoctets := readOctets_of_lt hshort
      simp only [lengthField, hkey, hoctets, bind, Except.bind]
    · -- they end inside the key
      have hkey := readKey_of_cut hkey hcut
      simp only [lengthField, hkey, bind, Except.bind]
  · -- they end inside the length
    rw [readBehind, LengthField.read_of_cut limits hfield hcut]
    rfl

/-- The reader sees what stands at the head of its input. -/
theorem read_of_atHead {limits : Limits} {input : Bytes} {stop : Stop}
    (h : stop.AtHead limits input) : read limits input = .error stop := by
  cases stop with
  | incomplete => exact read_of_unfinished h
  | close =>
      obtain ⟨lead, rest, hnibble, rfl⟩ := h
      rw [read, if_pos ((Opcode.ofOctet_eq_close_iff lead).mpr hnibble)]
  | oversized length =>
      obtain ⟨lead, field, rest, hnibble, hroom, hrefused, rfl, rfl⟩ := h
      rw [read_cons_of_ne_close limits hnibble, readBehind,
        LengthField.read_wire_append limits hroom, LengthField.verdict, if_pos hrefused]
      rfl

/-! ## There is no other way to begin -/

/-- A body of the declared length stands at the head of the bytes, or it is cut off. -/
private theorem exists_body (length : Nat) (input : Bytes) :
    (∃ body rest : Bytes, body.length = length ∧ input = body ++ rest) ∨
      ∃ body more : Bytes, body.length = length ∧ more ≠ [] ∧ body = input ++ more := by
  rcases Nat.lt_or_ge input.length length with hlt | hge
  · refine .inr ⟨input ++ List.replicate (length - input.length) 0,
      List.replicate (length - input.length) 0, ?_, ?_, rfl⟩
    · simp only [List.length_append, List.length_replicate]
      omega
    · simp only [ne_eq, List.replicate_eq_nil_iff]
      omega
  · exact .inl ⟨input.take length, input.drop length, List.length_take_of_le hge,
      (List.take_append_drop length input).symm⟩

/-- Behind a length that is taken, either the rest of a legal frame follows or it is cut off. -/
private theorem legal_or_cut (limits : Limits) {lead : UInt8} {field : LengthField}
    (hnibble : lead &&& 0x0F ≠ 8) (hroom : field.HasRoom)
    (haccepted : ¬ field.Refused limits) (behind : Bytes) :
    (∃ (frame : Frame) (rest : Bytes),
        frame.Legal limits ∧ lead :: (field.wire ++ behind) = frame.wire ++ rest) ∨
      Stop.incomplete.AtHead limits (lead :: (field.wire ++ behind)) := by
  have hcons : lead :: (field.wire ++ behind) ≠ [] := List.cons_ne_nil _ _
  have hheader : ∀ {key : Option Masking.Key} {body : Bytes}, key.isSome = field.masked →
      body.length = field.length → lengthField ⟨lead, field.form, key, body⟩ = field := by
    intro key body hkey hbody
    simp only [lengthField, hkey, hbody]
  -- a frame with this field that does not end before the bytes do is one that is awaited
  have hcut : ∀ {key : Option Masking.Key} {body more : Bytes}, key.isSome = field.masked →
      body.length = field.length → more ≠ [] → keyWire key ++ body = behind ++ more →
      Stop.incomplete.AtHead limits (lead :: (field.wire ++ behind)) := by
    intro key body more hkey hbody hmore hwire
    refine ⟨⟨lead, field.form, key, body⟩, more, hnibble, ?_, hcons, hmore, ?_, ?_⟩
    · rwa [hheader hkey hbody]
    · rw [wire_eq, hheader hkey hbody, hwire]
      simp
    · rw [hheader hkey hbody]
      exact fun h => absurd h haccepted
  rcases exists_keyWire field.masked behind with
    ⟨key, rest, hkey, rfl⟩ | ⟨key, more, hkey, hmore, hwire⟩
  · rcases exists_body field.length rest with
      ⟨body, rest, hbody, rfl⟩ | ⟨body, more, hbody, hmore, rfl⟩
    · refine .inl ⟨⟨lead, field.form, key, body⟩, rest, ?_, ?_⟩
      · rw [legal_iff, hheader hkey hbody]
        exact ⟨hnibble, hroom, haccepted⟩
      · rw [wire_eq, hheader hkey hbody]
        simp
    · exact .inr (hcut hkey hbody hmore (List.append_assoc _ _ _).symm)
  · have hpadded : keyWire key ++ List.replicate field.length 0 =
        behind ++ (more ++ List.replicate field.length 0) := by
      rw [hwire, List.append_assoc]
    exact .inr (hcut hkey List.length_replicate (by simp [hmore]) hpadded)

/-- Bytes that begin like a frame begin with a legal one, or there is a reason to stop. -/
private theorem exists_legal_or_atHead_cons (limits : Limits) {lead : UInt8}
    (hnibble : lead &&& 0x0F ≠ 8) (tail : Bytes) :
    (∃ (frame : Frame) (rest : Bytes),
        frame.Legal limits ∧ lead :: tail = frame.wire ++ rest) ∨
      ∃ stop : Stop, stop.AtHead limits (lead :: tail) := by
  rcases LengthField.exists_wire tail with
    ⟨field, behind, hroom, rfl⟩ | ⟨field, more, hroom, hmore, hfield⟩
  · by_cases hrefused : field.Refused limits
    · exact .inr ⟨.oversized field.length, lead, field, behind, hnibble, hroom, hrefused,
        rfl, rfl⟩
    · exact (legal_or_cut limits hnibble hroom hrefused behind).imp_right fun h => ⟨_, h⟩
  · have hheader : lengthField
        ⟨lead, field.form, zeroKey field.masked, List.replicate field.length 0⟩ = field := by
      simp only [lengthField, isSome_zeroKey, List.length_replicate]
    refine .inr ⟨.incomplete,
      ⟨lead, field.form, zeroKey field.masked, List.replicate field.length 0⟩,
      more ++ (keyWire (zeroKey field.masked) ++ List.replicate field.length 0),
      hnibble, ?_, List.cons_ne_nil _ _, by simp [hmore], ?_, ?_⟩
    · rwa [hheader]
    · rw [wire_eq, hheader, hfield]
      simp
    · intro _
      have := List.length_pos_iff.mpr hmore
      rw [hheader, hfield, List.length_append, List.length_cons]
      omega

/-- Every stretch of bytes begins with a legal frame, or there is a reason to stop. -/
theorem exists_legal_or_atHead (limits : Limits) {input : Bytes} (h : input ≠ []) :
    (∃ (frame : Frame) (rest : Bytes), frame.Legal limits ∧ input = frame.wire ++ rest) ∨
      ∃ stop : Stop, stop.AtHead limits input := by
  obtain ⟨lead, tail, rfl⟩ := List.exists_cons_of_ne_nil h
  by_cases hnibble : lead &&& 0x0F = 8
  · exact .inr ⟨.close, lead, tail, hnibble, rfl⟩
  · exact exists_legal_or_atHead_cons limits hnibble tail

/-! ## The reader, by what stands in front of it -/

theorem read_eq_ok_iff {limits : Limits} {input rest : Bytes} {frame : Frame} :
    read limits input = .ok (frame, rest) ↔
      frame.Legal limits ∧ input = frame.wire ++ rest := by
  constructor
  · intro hread
    have hne : input ≠ [] := by
      rintro rfl
      cases hread
    rcases exists_legal_or_atHead limits hne with ⟨other, behind, legal, rfl⟩ | ⟨stop, hstop⟩
    · rw [read_wire_append legal] at hread
      cases hread
      exact ⟨legal, rfl⟩
    · rw [read_of_atHead hstop] at hread
      cases hread
  · rintro ⟨legal, rfl⟩
    exact read_wire_append legal rest

theorem read_eq_error_iff {limits : Limits} {input : Bytes} (h : input ≠ []) {stop : Stop} :
    read limits input = .error stop ↔ stop.AtHead limits input := by
  refine ⟨fun hread => ?_, read_of_atHead⟩
  rcases exists_legal_or_atHead limits h with ⟨frame, rest, legal, rfl⟩ | ⟨other, hother⟩
  · rw [read_wire_append legal] at hread
    cases hread
  · rw [read_of_atHead hother] at hread
    cases hread
    exact hother

end Frame
end SharedListener
