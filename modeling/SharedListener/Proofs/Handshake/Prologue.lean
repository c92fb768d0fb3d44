import SharedListener.Handshake.Prologue
import SharedListener.Proofs.Text.Search

/-!
# What the first bytes look like

`Prologue.detect` compares the bytes received with `GET `, looks for the first
blank line, and counts, in this order.  Each of the three has a reading without
the search: `Diverges` by positions, `HeadEnds` by the first way to take the
bytes apart around a blank line, and a cap of at least three octets, since
fewer than four are never too many.

A first blank line stays the first when more bytes come in, so where a head
ends is a matter of the stream and not of its cuts.
-/

namespace SharedListener.Handshake

variable {received more : Bytes}

/-! ## Where the head ends -/

/-- The first blank line of `received` ends behind its first `length` octets. -/
def HeadEnds (received : Bytes) (length : Nat) : Prop :=
  ∃ place, Text.FirstAt blankLine received place ∧ length = place + blankLine.length

theorem headLength?_eq_some_iff {length : Nat} :
    headLength? received = some length ↔ HeadEnds received length := by
  simp only [headLength?, Option.map_eq_some_iff, Text.firstOccurrence?_eq_some_iff, HeadEnds]
  exact exists_congr fun place => and_congr_right fun _ => eq_comm

theorem headLength?_eq_none_iff : headLength? received = none ↔ ¬ blankLine <:+: received := by
  rw [headLength?, Option.map_eq_none_iff, Text.firstOccurrence?_eq_none_iff]

namespace HeadEnds

variable {length other : Nat}

theorem unique (h : HeadEnds received length) (hother : HeadEnds received other) :
    length = other := by
  obtain ⟨place₁, hplace₁, rfl⟩ := h
  obtain ⟨place₂, hplace₂, rfl⟩ := hother
  rw [hplace₁.unique hplace₂]

theorem length_le (h : HeadEnds received length) : length ≤ received.length := by
  obtain ⟨place, hplace, rfl⟩ := h
  exact hplace.add_length_le

theorem four_le (h : HeadEnds received length) : 4 ≤ length := by
  obtain ⟨place, _, rfl⟩ := h
  exact Nat.le_add_left 4 place

theorem append (h : HeadEnds received length) (more : Bytes) :
    HeadEnds (received ++ more) length := by
  obtain ⟨place, hplace, rfl⟩ := h
  exact ⟨place, hplace.append more, rfl⟩

theorem of_append (h : HeadEnds (received ++ more) length) (hlength : length ≤ received.length) :
    HeadEnds received length := by
  obtain ⟨place, hplace, rfl⟩ := h
  exact ⟨place, hplace.of_append hlength, rfl⟩

theorem blankLine_isInfix (h : HeadEnds received length) : blankLine <:+: received := by
  obtain ⟨place, hplace, _⟩ := h
  exact hplace.isInfix

/-- Before the head has ended there is no blank line. -/
theorem not_infix_of_lt (h : HeadEnds (received ++ more) length)
    (hlength : received.length < length) : ¬ blankLine <:+: received := by
  intro hblank
  obtain ⟨place, hplace⟩ := Text.exists_firstAt hblank
  have hends : HeadEnds received (place + blankLine.length) := ⟨place, hplace, rfl⟩
  have hle := hends.length_le
  have := h.unique (hends.append more)
  omega

/-- In the bytes received so far, the head has ended exactly if they reach its end. -/
theorem isInfix_iff {stream : Bytes} (h : HeadEnds stream length) (hbegin : received <+: stream) :
    blankLine <:+: received ↔ length ≤ received.length := by
  obtain ⟨more, rfl⟩ := hbegin
  constructor
  · intro hblank
    by_contra hlength
    exact h.not_infix_of_lt (Nat.not_le.mp hlength) hblank
  · intro hlength
    exact (h.of_append hlength).blankLine_isInfix

end HeadEnds

theorem exists_headEnds (h : blankLine <:+: received) : ∃ length, HeadEnds received length := by
  obtain ⟨place, hplace⟩ := Text.exists_firstAt h
  exact ⟨_, place, hplace, rfl⟩

theorem four_le_of_blankLine (h : blankLine <:+: received) : 4 ≤ received.length :=
  h.length_le

/-! ## Agreeing with the beginning of a request -/

/-- Some octet of `received` is not the octet of `GET ` at its place. -/
def Diverges (received : Bytes) : Prop :=
  ∃ (place : Nat) (octet expected : UInt8), received[place]? = some octet ∧
    requestStart[place]? = some expected ∧ octet ≠ expected

private theorem agree_iff (left right : Bytes) :
    agree left right ↔ left <+: right ∨ right <+: left := by
  induction left generalizing right with
  | nil => simp [agree]
  | cons a left ih =>
      cases right with
      | nil => simp [agree]
      | cons b right =>
          have htail := ih right
          unfold agree at htail ⊢
          simp only [List.zip_cons_cons, List.all_cons, Bool.and_eq_true, beq_iff_eq,
            List.cons_prefix_cons, htail]
          constructor
          · rintro ⟨rfl, h | h⟩
            · exact .inl ⟨rfl, h⟩
            · exact .inr ⟨rfl, h⟩
          · rintro (⟨rfl, h⟩ | ⟨rfl, h⟩)
            · exact ⟨rfl, .inl h⟩
            · exact ⟨rfl, .inr h⟩

private theorem getElem?_agree {left right : Bytes} (h : left <+: right) {place : Nat}
    {octet expected : UInt8} (hleft : left[place]? = some octet)
    (hright : right[place]? = some expected) : octet = expected := by
  obtain ⟨rest, rfl⟩ := h
  rw [List.getElem?_append_left (List.getElem?_eq_some_iff.mp hleft).1, hleft] at hright
  exact Option.some.inj hright

/-- Bytes that do not diverge are a beginning of `GET ` or begin with it. -/
theorem not_diverges_iff :
    ¬ Diverges received ↔ received <+: requestStart ∨ requestStart <+: received := by
  constructor
  · intro h
    by_contra hneither
    rw [← agree_iff, agree, List.all_eq_true] at hneither
    apply hneither
    intro octets hoctets
    obtain ⟨place, hplace, rfl⟩ := List.mem_iff_getElem.mp hoctets
    rw [List.getElem_zip, beq_iff_eq]
    by_contra hne
    rw [List.length_zip] at hplace
    exact h ⟨place, _, _, List.getElem?_eq_getElem (by omega),
      List.getElem?_eq_getElem (by omega), hne⟩
  · rintro hagree ⟨place, octet, expected, hoctet, hexpected, hne⟩
    rcases hagree with hbegin | hbegin
    · exact hne (getElem?_agree hbegin hoctet hexpected)
    · exact hne (getElem?_agree hbegin hexpected hoctet).symm

theorem agree_eq_false_iff : agree received requestStart = false ↔ Diverges received := by
  rw [← Bool.not_eq_true, agree_iff, ← not_diverges_iff, not_not]

theorem Diverges.append (h : Diverges received) (more : Bytes) :
    Diverges (received ++ more) := by
  obtain ⟨place, octet, expected, hoctet, hexpected, hne⟩ := h
  refine ⟨place, octet, expected, ?_, hexpected, hne⟩
  rw [List.getElem?_append_left (List.getElem?_eq_some_iff.mp hoctet).1, hoctet]

theorem Diverges.mono (h : Diverges received) {stream : Bytes}
    (hbegin : received <+: stream) : Diverges stream := by
  obtain ⟨more, rfl⟩ := hbegin
  exact h.append more

/-- Four octets that do not diverge are `GET `. -/
theorem requestStart_prefix_of_four_le (h : ¬ Diverges received) (hlength : 4 ≤ received.length) :
    requestStart <+: received := by
  rcases not_diverges_iff.mp h with hbegin | hbegin
  · obtain rfl := hbegin.eq_of_length_le hlength
    exact List.prefix_refl _
  · exact hbegin

theorem not_diverges_of_requestStart (h : requestStart <+: received) : ¬ Diverges received :=
  not_diverges_iff.mpr (.inr h)

/-! ## What is detected -/

/-- How many octets without a blank line may wait: fewer than four are never too many. -/
def waitingCap (maxBytes : Nat) : Nat :=
  max maxBytes 3

namespace Prologue

theorem detect_of_diverges (maxBytes : Nat) (h : Diverges received) :
    detect maxBytes received = .native := by
  rw [detect, agree_eq_false_iff.mpr h]
  rfl

private theorem agree_of_not_diverges (h : ¬ Diverges received) :
    agree received requestStart = true := by
  rwa [← agree_eq_false_iff, Bool.not_eq_false] at h

theorem detect_of_blankLine (maxBytes : Nat) (hagree : ¬ Diverges received)
    (h : blankLine <:+: received) : detect maxBytes received = .request := by
  have hlength : ¬ received.length < requestStart.length :=
    Nat.not_lt.mpr (four_le_of_blankLine h)
  have hhead : (headLength? received).isSome := by
    rw [← Option.ne_none_iff_isSome, ne_eq, headLength?_eq_none_iff, not_not]
    exact h
  rw [detect, agree_of_not_diverges hagree, if_neg hlength, if_pos hhead]
  rfl

theorem detect_of_not_blankLine (maxBytes : Nat) (hagree : ¬ Diverges received)
    (h : ¬ blankLine <:+: received) :
    detect maxBytes received =
      if waitingCap maxBytes < received.length then .native else .needMore := by
  have hstart : requestStart.length = 4 := rfl
  rw [detect, agree_of_not_diverges hagree, headLength?_eq_none_iff.mpr h, hstart, waitingCap]
  simp only [Bool.not_true, Bool.false_eq_true, if_false, Option.isSome_none]
  by_cases hlong : max maxBytes 3 < received.length
  · rw [if_pos hlong, if_neg (by omega), if_pos (by omega)]
  · rw [if_neg hlong]
    by_cases hshort : received.length < 4
    · rw [if_pos hshort]
    · rw [if_neg hshort, if_neg (by omega)]

end Prologue
end SharedListener.Handshake
