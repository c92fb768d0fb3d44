import SharedListener.Frame.Basic

/-!
# Reading one frame

`Frame.read` takes the first frame off a stretch of bytes.  The checks come in a
fixed order: a close frame is known by its lead octet alone, a length that is too
large is refused as soon as it stands there, and only then does it matter whether
the rest of the frame has arrived.

Every reader here returns what it found and the bytes behind it, or the reason
why no frame could be taken.
-/

namespace SharedListener.Frame

/-- Why no frame can be taken off the head of a stretch of bytes. -/
inductive Stop where
  /-- The bytes are the beginning of a frame. -/
  | incomplete
  /-- A close frame begins here. -/
  | close
  /-- A frame begins here whose declared length is refused. -/
  | oversized (length : Nat)
deriving DecidableEq, Repr

/-- Takes exactly `count` octets. -/
def readOctets (count : Nat) (input : Bytes) : Except Stop (Bytes × Bytes) :=
  if (input.take count).length < count then .error .incomplete
  else .ok (input.take count, input.drop count)

/-- The length fields of a frame: everything between the lead octet and the masking key. -/
structure LengthField where
  form : LengthForm
  masked : Bool
  length : Nat
deriving DecidableEq, Repr

namespace LengthField

/-- Refuses a length above the limit. -/
def checked (limits : Limits) (field : LengthField) (rest : Bytes) :
    Except Stop (LengthField × Bytes) :=
  if limits.maxFrameBytes < field.length then .error (.oversized field.length)
  else .ok (field, rest)

/-- Refuses a length that no listener takes, and then one above the limit. -/
def checkedLong (limits : Limits) (field : LengthField) (rest : Bytes) :
    Except Stop (LengthField × Bytes) :=
  if lengthCeiling ≤ field.length then .error (.oversized field.length)
  else checked limits field rest

/-- Reads the second octet of a frame and the length octets that it announces. -/
def read (limits : Limits) : Bytes → Except Stop (LengthField × Bytes)
  | [] => .error .incomplete
  | octet :: rest =>
    let masked : Bool := 0x80 ≤ octet
    match (octet &&& 0x7F).toNat with
    | 126 => do
      let taken ← readOctets 2 rest
      checked limits ⟨.medium, masked, Bytes.toNat taken.1⟩ taken.2
    | 127 => do
      let taken ← readOctets 8 rest
      checkedLong limits ⟨.long, masked, Bytes.toNat taken.1⟩ taken.2
    | length => checked limits ⟨.short, masked, length⟩ rest

end LengthField

/-- Takes the masking key, which is there only if the payload is masked. -/
def readKey (masked : Bool) (input : Bytes) : Except Stop (Option Masking.Key × Bytes) :=
  if masked then
    match input with
    | first :: second :: third :: fourth :: rest =>
      .ok (some ⟨first, second, third, fourth⟩, rest)
    | _ => .error .incomplete
  else
    .ok (none, input)

/-- Takes the part of a frame behind its lead octet. -/
def readBehind (limits : Limits) (lead : UInt8) (input : Bytes) : Except Stop (Frame × Bytes) := do
  let field ← LengthField.read limits input
  let key ← readKey field.1.masked field.2
  let body ← readOctets field.1.length key.2
  return (⟨lead, field.1.form, key.1, body.1⟩, body.2)

/-- Takes the frame at the head of `input`. -/
def read (limits : Limits) : Bytes → Except Stop (Frame × Bytes)
  | [] => .error .incomplete
  | lead :: input =>
    if Opcode.ofOctet lead = .close then .error .close else readBehind limits lead input

/-! ### Reading makes progress -/

/-- A chain of readers succeeds exactly if each of its links does. -/
theorem bind_eq_ok {ε α β : Type} {first : Except ε α} {next : α → Except ε β} {result : β} :
    first >>= next = .ok result ↔ ∃ found, first = .ok found ∧ next found = .ok result := by
  cases first with
  | error => simp [bind, Except.bind]
  | ok found => simp [bind, Except.bind]

theorem length_readOctets_le {count : Nat} {input : Bytes} {taken : Bytes × Bytes}
    (h : readOctets count input = .ok taken) : taken.2.length ≤ input.length := by
  unfold readOctets at h
  split at h
  · cases h
  · cases h
    simp

theorem length_readKey_le {masked : Bool} {input : Bytes} {taken : Option Masking.Key × Bytes}
    (h : readKey masked input = .ok taken) : taken.2.length ≤ input.length := by
  unfold readKey at h
  split at h
  · split at h
    · cases h
      simp only [List.length_cons]
      omega
    · cases h
  · cases h
    exact Nat.le_refl _

namespace LengthField

theorem rest_eq_of_checked {limits : Limits} {field : LengthField} {rest : Bytes}
    {taken : LengthField × Bytes} (h : checked limits field rest = .ok taken) : taken.2 = rest := by
  unfold checked at h
  split at h <;> cases h
  rfl

theorem rest_eq_of_checkedLong {limits : Limits} {field : LengthField} {rest : Bytes}
    {taken : LengthField × Bytes} (h : checkedLong limits field rest = .ok taken) :
    taken.2 = rest := by
  unfold checkedLong at h
  split at h
  · cases h
  · exact rest_eq_of_checked h

theorem length_read_le {limits : Limits} {input : Bytes} {taken : LengthField × Bytes}
    (h : read limits input = .ok taken) : taken.2.length ≤ input.length := by
  cases input with
  | nil => cases h
  | cons octet tail =>
    refine Nat.le_succ_of_le ?_
    simp only [read] at h
    split at h
    · obtain ⟨octets, hoctets, h⟩ := bind_eq_ok.mp h
      exact rest_eq_of_checked h ▸ length_readOctets_le hoctets
    · obtain ⟨octets, hoctets, h⟩ := bind_eq_ok.mp h
      exact rest_eq_of_checkedLong h ▸ length_readOctets_le hoctets
    · exact rest_eq_of_checked h ▸ Nat.le_refl _

end LengthField

theorem length_readBehind_le {limits : Limits} {lead : UInt8} {input : Bytes}
    {taken : Frame × Bytes} (h : readBehind limits lead input = .ok taken) :
    taken.2.length ≤ input.length := by
  obtain ⟨field, hfield, h⟩ := bind_eq_ok.mp h
  obtain ⟨key, hkey, h⟩ := bind_eq_ok.mp h
  obtain ⟨body, hbody, h⟩ := bind_eq_ok.mp h
  cases h
  exact Nat.le_trans (length_readOctets_le hbody)
    (Nat.le_trans (length_readKey_le hkey) (LengthField.length_read_le hfield))

/-- A frame takes at least one octet, so reading on comes to an end. -/
theorem length_read_lt {limits : Limits} {input : Bytes} {taken : Frame × Bytes}
    (h : read limits input = .ok taken) : taken.2.length < input.length := by
  cases input with
  | nil => cases h
  | cons lead tail =>
    refine Nat.lt_succ_of_le ?_
    simp only [read] at h
    split at h
    · cases h
    · exact length_readBehind_le h

end SharedListener.Frame
