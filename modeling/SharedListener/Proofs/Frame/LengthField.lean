import SharedListener.Frame.Reading
import SharedListener.Proofs.Bytes

/-!
# Reading a length field

The octets between the lead octet and the masking key are a `LengthField`, and
`LengthField.wire` writes it.  Every stretch of bytes either begins with the
written form of exactly one field or is a cut-off beginning of one
(`exists_wire`), and the reader tells the two apart:

* `read_wire_append`: a field that is there in full is read back, and refused
  if the listener does not take its length;
* `read_of_cut`: a field that is cut off anywhere is waited for.

A length is refused only once all octets of the field are there, whatever
stands behind them.
-/

namespace SharedListener.Frame

/-- How many lengths a form has room for.  The long form has room for lengths that no listener
takes. -/
def LengthForm.capacity : LengthForm → Nat
  | .short => 126
  | .medium => 2 ^ 16
  | .long => 2 ^ 64

/-! ## Taking octets -/

theorem readOctets_append {octets : Bytes} {count : Nat} (h : octets.length = count)
    (rest : Bytes) : readOctets count (octets ++ rest) = .ok (octets, rest) := by
  subst h
  simp [readOctets]

theorem readOctets_of_lt {input : Bytes} {count : Nat} (h : input.length < count) :
    readOctets count input = .error .incomplete := by
  unfold readOctets
  rw [if_pos (Nat.lt_of_le_of_lt (List.length_take_le' count input) h)]

theorem readOctets_of_le {count : Nat} {input : Bytes} (h : count ≤ input.length) :
    readOctets count input = .ok (input.take count, input.drop count) := by
  rw [readOctets, List.length_take_of_le h, if_neg (Nat.lt_irrefl count)]

namespace LengthField

/-- The octets of the field. -/
def wire (field : LengthField) : Bytes :=
  field.form.wire field.masked field.length

/-- The form of the field has room for its length. -/
def HasRoom (field : LengthField) : Prop :=
  field.length < field.form.capacity

/-- A listener with these limits takes no frame with this field. -/
def Refused (limits : Limits) (field : LengthField) : Prop :=
  (field.form = .long ∧ lengthCeiling ≤ field.length) ∨ limits.maxFrameBytes < field.length

instance (limits : Limits) (field : LengthField) : Decidable (field.Refused limits) := by
  unfold Refused
  infer_instance

/-! ## The octet with the mask bit -/

/-- The mask bit as it stands in the second octet of a frame. -/
def maskBit (masked : Bool) : UInt8 :=
  if masked then 0x80 else 0x00

private theorem maskBit_or_low : ∀ (masked : Bool) (low : Fin 128),
    ((maskBit masked ||| (low : Nat).toUInt8) &&& 0x7F).toNat = low ∧
      decide ((0x80 : UInt8) ≤ maskBit masked ||| (low : Nat).toUInt8) = masked := by
  decide +kernel

theorem low_maskBit_or (masked : Bool) {low : Nat} (h : low < 128) :
    ((maskBit masked ||| low.toUInt8) &&& 0x7F).toNat = low :=
  (maskBit_or_low masked ⟨low, h⟩).1

theorem high_maskBit_or (masked : Bool) {low : Nat} (h : low < 128) :
    decide ((0x80 : UInt8) ≤ maskBit masked ||| low.toUInt8) = masked :=
  (maskBit_or_low masked ⟨low, h⟩).2

private theorem split_ofNat : ∀ octet : Fin 256,
    (UInt8.ofNat octet &&& 0x7F).toNat < 128 ∧
      UInt8.ofNat octet = maskBit (decide ((0x80 : UInt8) ≤ UInt8.ofNat octet)) |||
        (UInt8.ofNat octet &&& 0x7F) := by
  decide +kernel

/-- Every octet is a mask bit and seven further bits. -/
theorem exists_maskBit_or (octet : UInt8) :
    ∃ (masked : Bool) (low : Nat), low < 128 ∧ octet = maskBit masked ||| low.toUInt8 := by
  have hsplit := split_ofNat ⟨octet.toNat, octet.toNat_lt⟩
  simp only [UInt8.ofNat_toNat] at hsplit
  refine ⟨decide (0x80 ≤ octet), (octet &&& 0x7F).toNat, hsplit.1, ?_⟩
  rw [Nat.toUInt8_eq, UInt8.ofNat_toNat]
  exact hsplit.2

/-! ## The written form -/

theorem wire_short (masked : Bool) (length : Nat) :
    wire ⟨.short, masked, length⟩ = [maskBit masked ||| length.toUInt8] := rfl

theorem wire_medium (masked : Bool) (length : Nat) :
    wire ⟨.medium, masked, length⟩ =
      (maskBit masked ||| (126 : Nat).toUInt8) :: Bytes.ofNat 2 length := rfl

theorem wire_long (masked : Bool) (length : Nat) :
    wire ⟨.long, masked, length⟩ =
      (maskBit masked ||| (127 : Nat).toUInt8) :: Bytes.ofNat 8 length := rfl

theorem wire_ne_nil (field : LengthField) : field.wire ≠ [] := by
  obtain ⟨form, masked, length⟩ := field
  cases form <;> simp [wire_short, wire_medium, wire_long]

theorem length_wire_le (field : LengthField) : field.wire.length ≤ 9 := by
  obtain ⟨form, masked, length⟩ := field
  cases form <;> simp [wire_short, wire_medium, wire_long]

/-! ## Reading -/

/-- What the reader does with the second octet of a frame. -/
theorem read_cons (limits : Limits) (masked : Bool) {low : Nat} (h : low < 128) (rest : Bytes) :
    read limits ((maskBit masked ||| low.toUInt8) :: rest) =
      if low = 126 then do
        let taken ← readOctets 2 rest
        checked limits ⟨.medium, masked, Bytes.toNat taken.1⟩ taken.2
      else if low = 127 then do
        let taken ← readOctets 8 rest
        checkedLong limits ⟨.long, masked, Bytes.toNat taken.1⟩ taken.2
      else checked limits ⟨.short, masked, low⟩ rest := by
  simp only [read, low_maskBit_or masked h, high_maskBit_or masked h]
  split
  · rfl
  · rfl
  · next h126 h127 => rw [if_neg h126, if_neg h127]

/-- What a listener makes of a field that is there in full. -/
def verdict (limits : Limits) (field : LengthField) (rest : Bytes) :
    Except Stop (LengthField × Bytes) :=
  if field.Refused limits then .error (.oversized field.length) else .ok (field, rest)

theorem checked_eq_verdict {limits : Limits} {field : LengthField} (h : field.form ≠ .long)
    (rest : Bytes) : checked limits field rest = field.verdict limits rest := by
  simp [checked, verdict, Refused, h]

theorem checkedLong_eq_verdict {limits : Limits} {field : LengthField} (h : field.form = .long)
    (rest : Bytes) : checkedLong limits field rest = field.verdict limits rest := by
  unfold checkedLong checked verdict Refused
  by_cases hceiling : lengthCeiling ≤ field.length <;> simp [h, hceiling]

/-- A field that is there in full is read back, or refused for its length. -/
theorem read_wire_append (limits : Limits) {field : LengthField} (h : field.HasRoom)
    (rest : Bytes) : read limits (field.wire ++ rest) = field.verdict limits rest := by
  obtain ⟨form, masked, length⟩ := field
  cases form with
  | short =>
      have hlt : length < 126 := h
      rw [wire_short, List.singleton_append, read_cons limits masked (by omega),
        if_neg (by omega), if_neg (by omega), checked_eq_verdict (by simp)]
  | medium =>
      have hlt : length < 256 ^ 2 := h
      rw [wire_medium, List.cons_append, read_cons limits masked (by omega), if_pos rfl,
        readOctets_append (Bytes.length_ofNat 2 length)]
      simp only [bind, Except.bind]
      rw [Bytes.toNat_ofNat hlt, checked_eq_verdict (by simp)]
  | long =>
      have hlt : length < 256 ^ 8 := h
      rw [wire_long, List.cons_append, read_cons limits masked (by omega),
        if_neg (by omega), if_pos rfl, readOctets_append (Bytes.length_ofNat 8 length)]
      simp only [bind, Except.bind]
      rw [Bytes.toNat_ofNat hlt, checkedLong_eq_verdict rfl]

/-- The octets of a wider form with some of its length octets missing. -/
private theorem read_cut_number (limits : Limits) (masked : Bool) {rest : Bytes} :
    (rest.length < 2 →
      read limits ((maskBit masked ||| (126 : Nat).toUInt8) :: rest) = .error .incomplete) ∧
    (rest.length < 8 →
      read limits ((maskBit masked ||| (127 : Nat).toUInt8) :: rest) = .error .incomplete) := by
  constructor
  · intro hlt
    rw [read_cons limits masked (by omega), if_pos rfl, readOctets_of_lt hlt]
    rfl
  · intro hlt
    rw [read_cons limits masked (by omega), if_neg (by omega), if_pos rfl, readOctets_of_lt hlt]
    rfl

/-- A field that is cut off is waited for. -/
theorem read_of_cut (limits : Limits) {field : LengthField} {input more : Bytes}
    (hwire : field.wire = input ++ more) (hmore : more ≠ []) :
    read limits input = .error .incomplete := by
  obtain ⟨form, masked, length⟩ := field
  have hpos : 0 < more.length := List.length_pos_iff.mpr hmore
  cases input with
  | nil => rfl
  | cons octet rest =>
      cases form with
      | short =>
          have hlength := congrArg List.length hwire
          simp only [wire_short, List.length_append, List.length_cons, List.length_nil] at hlength
          omega
      | medium =>
          rw [wire_medium, List.cons_append, List.cons.injEq] at hwire
          have hlength := congrArg List.length hwire.2
          rw [Bytes.length_ofNat, List.length_append] at hlength
          exact hwire.1 ▸ (read_cut_number limits masked).1 (by omega)
      | long =>
          rw [wire_long, List.cons_append, List.cons.injEq] at hwire
          have hlength := congrArg List.length hwire.2
          rw [Bytes.length_ofNat, List.length_append] at hlength
          exact hwire.1 ▸ (read_cut_number limits masked).2 (by omega)

/-! ## What a stretch of bytes can begin with -/

/-- The bytes behind a second octet are the number of a wider form, or a beginning of one. -/
private theorem exists_number (width : Nat) (input : Bytes) :
    (∃ number rest, number < 256 ^ width ∧ input = Bytes.ofNat width number ++ rest) ∨
      ∃ number more, number < 256 ^ width ∧ more ≠ [] ∧
        Bytes.ofNat width number = input ++ more := by
  rcases Nat.lt_or_ge input.length width with hlt | hge
  · -- zero octets make up for what is missing
    set padded := input ++ List.replicate (width - input.length) 0 with hpadded
    have hlength : padded.length = width := by simp [hpadded]; omega
    refine .inr ⟨Bytes.toNat padded, List.replicate (width - input.length) 0, ?_, ?_, ?_⟩
    · exact hlength ▸ Bytes.toNat_lt padded
    · simp; omega
    · rw [← hpadded, ← hlength, Bytes.ofNat_toNat]
  · have hlength : (input.take width).length = width := List.length_take_of_le hge
    have hlt := Bytes.toNat_lt (input.take width)
    have hwritten := Bytes.ofNat_toNat (input.take width)
    rw [hlength] at hlt hwritten
    refine .inl ⟨Bytes.toNat (input.take width), input.drop width, hlt, ?_⟩
    rw [hwritten, List.take_append_drop]

/-- Every stretch of bytes begins with a field or is the beginning of one. -/
theorem exists_wire (input : Bytes) :
    (∃ (field : LengthField) (rest : Bytes), field.HasRoom ∧ input = field.wire ++ rest) ∨
      ∃ (field : LengthField) (more : Bytes),
        field.HasRoom ∧ more ≠ [] ∧ field.wire = input ++ more := by
  cases input with
  | nil =>
      exact .inr ⟨⟨.short, false, 0⟩, wire ⟨.short, false, 0⟩, Nat.zero_lt_succ _,
        wire_ne_nil _, rfl⟩
  | cons octet tail =>
      obtain ⟨masked, low, hlow, rfl⟩ := exists_maskBit_or octet
      rcases (by omega : low < 126 ∨ low = 126 ∨ low = 127) with hshort | rfl | rfl
      · exact .inl ⟨⟨.short, masked, low⟩, tail, hshort, rfl⟩
      · rcases exists_number 2 tail with ⟨number, rest, hlt, rfl⟩ | ⟨number, more, hlt, hne, heq⟩
        · exact .inl ⟨⟨.medium, masked, number⟩, rest, hlt, rfl⟩
        · refine .inr ⟨⟨.medium, masked, number⟩, more, hlt, hne, ?_⟩
          rw [wire_medium, heq, List.cons_append]
      · rcases exists_number 8 tail with ⟨number, rest, hlt, rfl⟩ | ⟨number, more, hlt, hne, heq⟩
        · exact .inl ⟨⟨.long, masked, number⟩, rest, hlt, rfl⟩
        · refine .inr ⟨⟨.long, masked, number⟩, more, hlt, hne, ?_⟩
          rw [wire_long, heq, List.cons_append]

/-! ## The field is determined by its octets -/

private theorem maskBit_or_inj {first second : Bool} {low₁ low₂ : Nat} (h₁ : low₁ < 128)
    (h₂ : low₂ < 128) (h : maskBit first ||| low₁.toUInt8 = maskBit second ||| low₂.toUInt8) :
    first = second ∧ low₁ = low₂ := by
  constructor
  · rw [← high_maskBit_or first h₁, h, high_maskBit_or second h₂]
  · rw [← low_maskBit_or first h₁, h, low_maskBit_or second h₂]

private theorem ofNat_append_inj {width number₁ number₂ : Nat} {rest₁ rest₂ : Bytes}
    (h₁ : number₁ < 256 ^ width) (h₂ : number₂ < 256 ^ width)
    (h : Bytes.ofNat width number₁ ++ rest₁ = Bytes.ofNat width number₂ ++ rest₂) :
    number₁ = number₂ := by
  have hlength : (Bytes.ofNat width number₁).length = (Bytes.ofNat width number₂).length := by
    rw [Bytes.length_ofNat, Bytes.length_ofNat]
  have hoctets := (List.append_inj h hlength).1
  rw [← Bytes.toNat_ofNat h₁, hoctets, Bytes.toNat_ofNat h₂]

/-- Only one field stands at the head of a stretch of bytes. -/
theorem wire_append_inj {first second : LengthField} {rest₁ rest₂ : Bytes}
    (hroom₁ : first.HasRoom) (hroom₂ : second.HasRoom)
    (h : first.wire ++ rest₁ = second.wire ++ rest₂) : first = second := by
  obtain ⟨form₁, masked₁, length₁⟩ := first
  obtain ⟨form₂, masked₂, length₂⟩ := second
  -- the seven low bits of the first octet tell the forms apart
  cases form₁ <;> cases form₂ <;>
    simp only [HasRoom, LengthForm.capacity] at hroom₁ hroom₂ <;>
    simp only [wire_short, wire_medium, wire_long, List.cons_append, List.cons.injEq] at h <;>
    obtain ⟨rfl, hlow⟩ := maskBit_or_inj (by omega) (by omega) h.1
  case short.short => rw [hlow]
  case medium.medium =>
      have hlt : length₁ < 256 ^ 2 := hroom₁
      rw [ofNat_append_inj hlt hroom₂ h.2]
  case long.long =>
      have hlt : length₁ < 256 ^ 8 := hroom₁
      rw [ofNat_append_inj hlt hroom₂ h.2]
  all_goals omega

end LengthField
end SharedListener.Frame
