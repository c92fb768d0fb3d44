import SharedListener.Proofs.Text.Encoding
import SharedListener.Proofs.Text.Search
import SharedListener.Proofs.Text.Utf8

/-!
# Lines of a text

A text is the lines that `Text.lines` finds, with a line break behind each but
the last (`lines_flatMap`).  A line may end in a carriage return of its own: the
first line break behind it is still the right one.

A line break is two plain characters, so it stands in a text that was read
lossily exactly if its two octets stood in the bytes.
-/

namespace SharedListener.Text

variable {line : List Char}

/-- A carriage return with a line feed behind it. -/
def lineBreak : List Char := ['\r', '\n']

/-- A line break that two texts make together is in one of them or across the edge. -/
private theorem lineBreak_isInfix_append {before behind : List Char}
    (h : lineBreak <:+: before ++ behind) :
    lineBreak <:+: before ∨ lineBreak <:+: behind ∨ '\r' ∈ before ∧ '\n' ∈ behind := by
  rcases List.infix_append_iff.mp h with hbefore | hbehind | ⟨left, right, hsplit, hleft, hright⟩
  · exact .inl hbefore
  · exact .inr (.inl hbehind)
  · match left, hsplit with
    | [], hsplit => exact .inr (.inl (hsplit ▸ hright.isInfix))
    | [c], hsplit =>
        obtain ⟨rfl, rfl⟩ := List.cons.inj hsplit
        exact .inr (.inr ⟨hleft.subset List.mem_cons_self, hright.subset List.mem_cons_self⟩)
    | c :: d :: left, hsplit =>
        obtain ⟨rfl, hrest⟩ := List.cons.inj hsplit
        obtain ⟨rfl, hnil⟩ := List.cons.inj hrest
        obtain ⟨rfl, -⟩ := List.append_eq_nil_iff.mp hnil.symm
        exact .inl hleft.isInfix

theorem unbroken_append_of_no_return {before behind : List Char} (hbefore : '\r' ∉ before)
    (hbehind : ¬ lineBreak <:+: behind) : ¬ lineBreak <:+: before ++ behind := by
  intro h
  rcases lineBreak_isInfix_append h with hbreak | hbreak | hedge
  · exact hbefore (hbreak.subset List.mem_cons_self)
  · exact hbehind hbreak
  · exact hbefore hedge.1

theorem unbroken_append_of_no_feed {before behind : List Char} (hbefore : ¬ lineBreak <:+: before)
    (hbehind : '\n' ∉ behind) : ¬ lineBreak <:+: before ++ behind := by
  intro h
  rcases lineBreak_isInfix_append h with hbreak | hbreak | hedge
  · exact hbefore hbreak
  · exact hbehind (hbreak.subset (by decide))
  · exact hbehind hedge.2

theorem unbroken_nil : ¬ lineBreak <:+: [] :=
  fun h => absurd h.length_le (by decide)

/-! ## Finding the lines -/

private theorem linesAfter_append (hline : ¬ lineBreak <:+: line) (done : List (List Char))
    (begun rest : List Char) :
    linesAfter done begun (line ++ lineBreak ++ rest) =
      linesAfter ((begun.reverse ++ line) :: done) [] rest := by
  induction line generalizing begun with
  | nil =>
      show linesAfter done begun ('\r' :: '\n' :: rest) = _
      rw [linesAfter, List.append_nil]
  | cons c line ih =>
      have htail : ¬ lineBreak <:+: line := fun h => hline (List.infix_cons h)
      -- what comes next is in the line, or it is the carriage return of the line break
      have hnext : ∀ tail, c = '\r' → line ++ lineBreak ++ rest = '\n' :: tail → False := by
        rintro tail rfl hfeed
        cases line with
        | nil => simp [lineBreak] at hfeed
        | cons d line =>
            obtain ⟨rfl, -⟩ := List.cons.inj hfeed
            exact hline ⟨[], line, rfl⟩
      show linesAfter done begun (c :: (line ++ lineBreak ++ rest)) = _
      rw [linesAfter.eq_3 _ _ _ _ hnext, ih htail]
      simp

private theorem linesAfter_last (hline : ¬ lineBreak <:+: line) (done : List (List Char))
    (begun : List Char) :
    linesAfter done begun line = ((begun.reverse ++ line) :: done).reverse := by
  induction line generalizing begun with
  | nil => rw [linesAfter, List.append_nil]
  | cons c line ih =>
      have htail : ¬ lineBreak <:+: line := fun h => hline (List.infix_cons h)
      have hnext : ∀ tail, c = '\r' → line = '\n' :: tail → False := by
        rintro tail rfl rfl
        exact hline ⟨[], tail, rfl⟩
      rw [linesAfter.eq_3 _ _ _ _ hnext, ih htail]
      simp

/-- The lines that have been found stay in front. -/
private theorem linesAfter_behind (done earlier : List (List Char)) (begun text : List Char) :
    linesAfter (done ++ earlier) begun text = earlier.reverse ++ linesAfter done begun text := by
  induction done, begun, text using linesAfter.induct with
  | case1 done begun => simp [linesAfter]
  | case2 done begun rest ih =>
      rw [linesAfter, linesAfter]
      exact ih
  | case3 done begun c rest hnext ih =>
      rw [linesAfter.eq_3 _ _ _ _ hnext, linesAfter.eq_3 _ _ _ _ hnext, ih]

theorem lines_append (hline : ¬ lineBreak <:+: line) (rest : List Char) :
    Text.lines (line ++ lineBreak ++ rest) = line :: Text.lines rest := by
  rw [Text.lines, linesAfter_append hline]
  exact linesAfter_behind [] [line] [] rest

theorem lines_of_unbroken (hline : ¬ lineBreak <:+: line) : Text.lines line = [line] :=
  linesAfter_last hline [] []

/-- Lines that are written with a line break behind each are found again, in front of the lines of
what follows. -/
theorem lines_flatMap_append {lines : List (List Char)}
    (hlines : ∀ line ∈ lines, ¬ lineBreak <:+: line) (rest : List Char) :
    Text.lines (lines.flatMap (· ++ lineBreak) ++ rest) = lines ++ Text.lines rest := by
  induction lines with
  | nil => rfl
  | cons line lines ih =>
      obtain ⟨hline, hothers⟩ := List.forall_mem_cons.mp hlines
      rw [List.flatMap_cons, List.append_assoc (line ++ lineBreak), lines_append hline,
        ih hothers, List.cons_append]

/-- Lines that are written with a line break behind each are found again. -/
theorem lines_flatMap {lines : List (List Char)} {last : List Char}
    (hlines : ∀ line ∈ lines, ¬ lineBreak <:+: line) (hlast : ¬ lineBreak <:+: last) :
    Text.lines (lines.flatMap (· ++ lineBreak) ++ last) = lines ++ [last] := by
  rw [lines_flatMap_append hlines, lines_of_unbroken hlast]

/-! ## Lines as pieces -/

/-- The lines are the pieces between the line breaks. -/
theorem isCut_lines (text : List Char) : IsCut lineBreak text (Text.lines text) := by
  induction hsize : text.length using Nat.strong_induction_on generalizing text with
  | _ size ih =>
  by_cases hbreak : lineBreak <:+: text
  · obtain ⟨place, hplace⟩ := exists_firstAt hbreak
    obtain ⟨first, rest, rfl, rfl⟩ := hplace.occurs
    rw [lines_append (hplace.not_infix_before (List.cons_ne_nil _ _))]
    refine .more hplace (ih _ ?_ _ rfl)
    rw [← hsize]
    simp [lineBreak]
    omega
  · rw [lines_of_unbroken hbreak]
    exact .last hbreak

theorem unbroken_of_mem_lines {text : List Char} (h : line ∈ Text.lines text) :
    ¬ lineBreak <:+: line :=
  (isCut_lines text).free_of_separator (List.cons_ne_nil _ _) line h

/-- A text with one line is that line. -/
theorem eq_of_lines_eq_singleton {text : List Char} (h : Text.lines text = [line]) :
    text = line := by
  have hcut := isCut_lines text
  rw [h] at hcut
  cases hcut with
  | last => rfl
  | more _ hrest => cases hrest

/-! ## Line breaks in bytes -/

namespace Utf8

/-- The octets of a line break. -/
def lineBreak : Bytes := [0x0D, 0x0A]

theorem recover_lineBreak (before behind : Bytes) :
    recover (before ++ lineBreak ++ behind) =
      recover before ++ Text.lineBreak ++ recover behind := by
  have hreturn : (0x0D : UInt8) < 0x80 := by decide
  have hfeed : (0x0A : UInt8) < 0x80 := by decide
  calc recover (before ++ lineBreak ++ behind)
      = recover (before ++ 0x0D :: 0x0A :: behind) := by simp [lineBreak]
    _ = recover before ++ '\r' :: recover (0x0A :: behind) := recover_append_plain before _ hreturn
    _ = recover before ++ '\r' :: '\n' :: recover behind := by
        rw [recover_cons_plain behind hfeed]
        rfl
    _ = recover before ++ Text.lineBreak ++ recover behind := by simp [Text.lineBreak]

theorem recover_flatMap_lineBreak (lines : List Bytes) (rest : Bytes) :
    recover (lines.flatMap (· ++ lineBreak) ++ rest) =
      (lines.map recover).flatMap (· ++ Text.lineBreak) ++ recover rest := by
  induction lines with
  | nil => rfl
  | cons line lines ih =>
      rw [List.flatMap_cons, List.append_assoc, recover_lineBreak, ih]
      simp

/-- Nothing but the octets of a line break is read as one. -/
theorem lineBreak_isInfix_of_recover {octets : Bytes} (h : Text.lineBreak <:+: recover octets) :
    lineBreak <:+: octets := by
  obtain ⟨before, behind, hsplit⟩ := h
  have hreturn : IsPlain '\r' := by
    rw [IsPlain]
    decide
  have hfeed : IsPlain '\n' := by
    rw [IsPlain]
    decide
  rw [List.append_assoc] at hsplit
  obtain ⟨front, first, rest, rfl, hfirst, -, hrest⟩ := exists_octet_of_plain hreturn hsplit.symm
  -- nothing stands between the two
  have hnext : recover rest = [] ++ '\n' :: behind := hrest
  obtain ⟨middle, second, back, rfl, hsecond, hmiddle, -⟩ := exists_octet_of_plain hfeed hnext
  obtain rfl := recover_eq_nil_iff.mp hmiddle
  obtain rfl : first = 0x0D := UInt8.toNat_inj.mp hfirst
  obtain rfl : second = 0x0A := UInt8.toNat_inj.mp hsecond
  exact ⟨front, back, by simp [lineBreak]⟩

@[simp] theorem encode_append (first second : List Char) :
    encode (first ++ second) = encode first ++ encode second :=
  List.flatMap_append

theorem encode_lineBreak : encode Text.lineBreak = lineBreak := by
  decide

theorem lineBreak_isInfix_encode_iff : lineBreak <:+: encode line ↔ Text.lineBreak <:+: line := by
  constructor
  · intro h
    rw [← recover_encode line]
    obtain ⟨before, behind, hsplit⟩ := h
    rw [← hsplit, recover_lineBreak]
    exact ⟨recover before, recover behind, rfl⟩
  · rintro ⟨before, behind, rfl⟩
    exact ⟨encode before, encode behind, by simp [encode_lineBreak]⟩

end Utf8
end SharedListener.Text
