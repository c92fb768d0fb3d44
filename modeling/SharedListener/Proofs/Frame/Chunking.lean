import SharedListener.Proofs.Chunks
import SharedListener.Proofs.Frame.Decision

/-!
# Cutting a stream into chunks

A stream reaches the decoder in chunks that may end anywhere.  `feedAll` feeds
them in order, up to the first result that ends the connection.  Such a result
comes exactly if the stream is decided, and from the chunk that brings the
octet at the deciding position.  Until then nothing is lost: what has been
delivered is the data of the frames up to the last chunk that ended where a
frame did, and what has come in since is retained (`Progress`).

The proof adds one chunk at the end.  A chunk that ends where a frame does
empties the decoder, and any other chunk leaves the boundary where it was, so
complete frames in front of an unfinished one are decoded again with the next
chunk and delivered once.
-/

namespace SharedListener.Frame

variable {limits : Limits}

/-- What has come of the chunks that were fed. -/
structure Feeding where
  /-- The results, in order. -/
  results : List (Except Fault Outcome) := []
  decoder : Decoder := {}

/-- Feeds one more chunk, unless the connection has ended. -/
def Feeding.step (limits : Limits) (feeding : Feeding) (chunk : Bytes) : Feeding :=
  if feeding.results.any isFinal then feeding
  else
    let (result, decoder) := feeding.decoder.feed limits chunk
    ⟨feeding.results ++ [result], decoder⟩

/-- Feeds chunks in order to a fresh decoder, up to a result that ends the connection. -/
def feedAll (limits : Limits) (chunks : List Bytes) : Feeding :=
  chunks.foldl (Feeding.step limits) {}

/-- The data that a result hands on. -/
def delivered : Except Fault Outcome → Bytes
  | .ok (.complete payload _ _) => payload
  | _ => []

/-- The number of frames that a result reports. -/
def frameCount : Except Fault Outcome → Nat
  | .ok (.complete _ _ frames) => frames
  | _ => 0

/-- All chunks have been decoded without an end: `frames` are complete, up to the last chunk end
that fell between two frames, which is behind the first `boundary` chunks. -/
structure Progress (limits : Limits) (chunks : List Bytes) (feeding : Feeding)
    (boundary : Nat) (frames : List Frame) : Prop where
  boundary_le : boundary ≤ chunks.length
  legal : AllLegal limits frames
  upTo_boundary : Bytes.upTo chunks boundary = wires frames
  boundary_last : ∀ later, boundary < later → later ≤ chunks.length →
    ∀ others, AllLegal limits others → Bytes.upTo chunks later ≠ wires others
  length_results : feeding.results.length = chunks.length
  unfinished : feeding.results.any isFinal = false
  delivered_eq : feeding.results.flatMap delivered = data limits.control frames
  frameCount_eq : (feeding.results.map frameCount).sum = frames.length
  pending_eq : feeding.decoder.pending = (chunks.drop boundary).flatten

/-! ## Frames in front of the bytes that are decoded -/

/-- Complete frames in front do not change what ends the connection. -/
theorem decode_of_wires_append {frames : List Frame} (hlegal : AllLegal limits frames)
    {input : Bytes} (hfinal : isFinal (decode limits (wires frames ++ input))) :
    decode limits (wires frames ++ input) = decode limits input := by
  obtain ⟨others, rest, hothers, rfl, rfl | ⟨stop, hstop⟩⟩ := exists_wires_append limits input
  · exfalso
    rw [List.append_nil, ← wires_append] at hfinal
    by_cases hne : frames ++ others = []
    · rw [hne, wires_nil, decode_nil] at hfinal
      cases hfinal
    · rw [decode_wires (hlegal.append hothers) hne] at hfinal
      cases hfinal
  · rw [← List.append_assoc, ← wires_append,
      decode_wires_append_of_atHead (hlegal.append hothers) hstop,
      decode_wires_append_of_atHead hothers hstop]

/-- Bytes that end where a frame does are delivered, and nothing is retained. -/
theorem decode_wires_spec {frames : List Frame} (hlegal : AllLegal limits frames) :
    isFinal (decode limits (wires frames)) = false ∧
      delivered (decode limits (wires frames)) = data limits.control frames ∧
      frameCount (decode limits (wires frames)) = frames.length ∧
      retained (decode limits (wires frames)) (wires frames) = [] := by
  by_cases hne : frames = []
  · subst hne
    rw [wires_nil, decode_nil, data_nil]
    exact ⟨rfl, rfl, rfl, rfl⟩
  · rw [decode_wires hlegal hne, delivery_eq_data hlegal]
    exact ⟨rfl, rfl, rfl, rfl⟩

/-- Bytes with an unfinished frame at their end are not legal frames. -/
theorem wires_append_ne_wires {frames others : List Frame} {stop : Stop} {rest : Bytes}
    (hlegal : AllLegal limits frames) (hothers : AllLegal limits others)
    (hstop : stop.AtHead limits rest) : wires frames ++ rest ≠ wires others := by
  intro h
  have hscan := scan_wires_append hlegal hstop
  rw [h, scan_wires hothers] at hscan
  cases hscan

/-! ## One more chunk -/

theorem feedAll_append_singleton (limits : Limits) (chunks : List Bytes) (chunk : Bytes) :
    feedAll limits (chunks ++ [chunk]) = (feedAll limits chunks).step limits chunk := by
  rw [feedAll, List.foldl_append]
  rfl

theorem Feeding.step_of_unfinished {feeding : Feeding}
    (h : feeding.results.any isFinal = false) (chunk : Bytes) :
    feeding.step limits chunk =
      ⟨feeding.results ++ [decode limits (feeding.decoder.pending ++ chunk)],
        ⟨retained (decode limits (feeding.decoder.pending ++ chunk))
          (feeding.decoder.pending ++ chunk)⟩⟩ := by
  rw [Feeding.step, h, feed_eq]
  rfl

namespace Progress

variable {chunks : List Bytes} {feeding : Feeding} {boundary : Nat} {frames : List Frame}

theorem nil (limits : Limits) : Progress limits [] (feedAll limits []) 0 [] where
  boundary_le := Nat.le_refl 0
  legal := allLegal_nil limits
  upTo_boundary := rfl
  boundary_last later hpos hle := absurd hpos (by simpa using hle)
  length_results := rfl
  unfinished := rfl
  delivered_eq := (data_nil limits.control).symm
  frameCount_eq := rfl
  pending_eq := rfl

/-- What has come in is the complete frames, and what is retained behind them. -/
theorem flatten_eq (h : Progress limits chunks feeding boundary frames) :
    chunks.flatten = wires frames ++ feeding.decoder.pending := by
  rw [h.pending_eq, ← h.upTo_boundary, Bytes.upTo, ← List.flatten_append,
    List.take_append_drop]

/-- A chunk that ends where a frame does. -/
theorem step_boundary (h : Progress limits chunks feeding boundary frames) {chunk : Bytes}
    {others : List Frame} (hothers : AllLegal limits others)
    (hinput : feeding.decoder.pending ++ chunk = wires others) :
    Progress limits (chunks ++ [chunk]) (feeding.step limits chunk) (chunks.length + 1)
      (frames ++ others) := by
  obtain ⟨hunfinished, hdelivered, hcount, hretained⟩ := decode_wires_spec hothers
  have hlength : (chunks ++ [chunk]).length = chunks.length + 1 := by simp
  rw [Feeding.step_of_unfinished h.unfinished, hinput]
  constructor
  case boundary_le => exact Nat.le_of_eq hlength.symm
  case legal => exact h.legal.append hothers
  case upTo_boundary =>
      calc Bytes.upTo (chunks ++ [chunk]) (chunks.length + 1) = chunks.flatten ++ chunk := by
            rw [Bytes.upTo_of_length_le (Nat.le_of_eq hlength), List.flatten_concat]
        _ = wires frames ++ (feeding.decoder.pending ++ chunk) := by
            rw [h.flatten_eq, List.append_assoc]
        _ = wires (frames ++ others) := by rw [hinput, wires_append]
  case boundary_last =>
      intro later hlater hle
      omega
  case length_results => simp [h.length_results]
  case unfinished => simp [h.unfinished, hunfinished]
  case delivered_eq => simp [h.delivered_eq, hdelivered, data_append]
  case frameCount_eq => simp [h.frameCount_eq, hcount]
  case pending_eq => rw [hretained, List.drop_of_length_le (Nat.le_of_eq hlength), List.flatten_nil]

/-- A chunk that ends inside a frame. -/
theorem step_inside (h : Progress limits chunks feeding boundary frames) {chunk rest : Bytes}
    {others : List Frame} (hothers : AllLegal limits others)
    (hstop : Stop.incomplete.AtHead limits rest)
    (hinput : feeding.decoder.pending ++ chunk = wires others ++ rest) :
    Progress limits (chunks ++ [chunk]) (feeding.step limits chunk) boundary frames := by
  have hdecode : decode limits (feeding.decoder.pending ++ chunk) = .ok .needMore := by
    rw [hinput]
    exact decode_wires_append_of_atHead hothers hstop
  have hboundary := h.boundary_le
  have hlength : (chunks ++ [chunk]).length = chunks.length + 1 := by simp
  rw [Feeding.step_of_unfinished h.unfinished, hdecode]
  constructor
  case boundary_le => omega
  case legal => exact h.legal
  case upTo_boundary => rw [Bytes.upTo_append_of_le hboundary, h.upTo_boundary]
  case boundary_last =>
      intro later hlater hle run hrun
      -- the new chunk ends inside a frame, and the earlier ones end where they did
      rcases Nat.lt_or_ge chunks.length later with hlast | hearlier
      · have hall : Bytes.upTo (chunks ++ [chunk]) later = wires (frames ++ others) ++ rest := by
          calc Bytes.upTo (chunks ++ [chunk]) later = chunks.flatten ++ chunk := by
                rw [Bytes.upTo_of_length_le (by omega), List.flatten_concat]
            _ = wires frames ++ (feeding.decoder.pending ++ chunk) := by
                rw [h.flatten_eq, List.append_assoc]
            _ = wires (frames ++ others) ++ rest := by
                rw [hinput, wires_append, List.append_assoc]
        rw [hall]
        exact wires_append_ne_wires (h.legal.append hothers) hrun hstop
      · rw [Bytes.upTo_append_of_le hearlier]
        exact h.boundary_last later hlater hearlier run hrun
  case length_results => simp [h.length_results]
  case unfinished => simp [h.unfinished, isFinal]
  case delivered_eq => simp [h.delivered_eq, delivered]
  case frameCount_eq => simp [h.frameCount_eq, frameCount]
  case pending_eq =>
      rw [retained, List.drop_append_of_le_length hboundary, List.flatten_concat, h.pending_eq]

theorem step (h : Progress limits chunks feeding boundary frames) {chunk : Bytes}
    (hunfinished : isFinal (decode limits (feeding.decoder.pending ++ chunk)) = false) :
    ∃ boundary frames,
      Progress limits (chunks ++ [chunk]) (feeding.step limits chunk) boundary frames := by
  obtain ⟨others, rest, hothers, hinput, rfl | ⟨stop, hstop⟩⟩ :=
    exists_wires_append limits (feeding.decoder.pending ++ chunk)
  · rw [List.append_nil] at hinput
    exact ⟨_, _, h.step_boundary hothers hinput⟩
  · rw [hinput, decode_wires_append_of_atHead hothers hstop] at hunfinished
    cases stop with
    | incomplete => exact ⟨_, _, h.step_inside hothers hstop hinput⟩
    | close => cases hunfinished
    | oversized length => cases hunfinished

end Progress

/-! ## Any number of chunks -/

/-- As long as the stream is not decided, all chunks are decoded. -/
theorem exists_progress {chunks : List Bytes}
    (h : ∀ result position, ¬ Decided limits chunks.flatten result position) :
    ∃ boundary frames, Progress limits chunks (feedAll limits chunks) boundary frames := by
  induction chunks using List.reverseRecOn with
  | nil => exact ⟨0, [], Progress.nil limits⟩
  | append_singleton chunks chunk ih =>
      rw [List.flatten_concat] at h
      obtain ⟨boundary, frames, hprogress⟩ := ih fun result position hdecided =>
        h result position (hdecided.append chunk)
      rw [feedAll_append_singleton]
      apply hprogress.step
      -- a final result would decide the whole stream
      rw [Bool.eq_false_iff]
      intro hfinal
      obtain ⟨position, hdecided⟩ := exists_decided hfinal
      have hwhole := hdecided.wires_append hprogress.legal
      rw [← List.append_assoc, ← hprogress.flatten_eq] at hwhole
      exact h _ _ hwhole

/-- The chunk that brings the deciding octet ends the connection, and no chunk behind it is
decoded. -/
theorem results_of_decided {chunks : List Bytes} {result : Except Fault Outcome}
    {position : Nat} (h : Decided limits chunks.flatten result position) :
    ∃ last < chunks.length, (Bytes.upTo chunks last).length < position ∧
      position ≤ (Bytes.upTo chunks (last + 1)).length ∧
      (feedAll limits chunks).results =
        (feedAll limits (chunks.take last)).results ++ [result] := by
  induction chunks using List.reverseRecOn with
  | nil =>
      have hpos := h.position_pos
      have hle := h.position_le
      simp only [List.flatten_nil, List.length_nil] at hle
      omega
  | append_singleton chunks chunk ih =>
      rw [List.flatten_concat] at h
      rw [feedAll_append_singleton]
      rcases Nat.lt_or_ge chunks.flatten.length position with hlate | hearly
      · -- the last chunk decides, and the chunks before it do not
        have hundecided : ∀ other place, ¬ Decided limits chunks.flatten other place := by
          intro other place hother
          have hplace := hother.position_le
          have := ((hother.append chunk).unique h).2
          omega
        obtain ⟨boundary, frames, hprogress⟩ := exists_progress hundecided
        have hstream := hprogress.flatten_eq
        have hdecode := h.decode_eq
        have hfinal := h.isFinal
        rw [hstream, List.append_assoc] at hdecode
        rw [← hdecode] at hfinal
        rw [decode_of_wires_append hprogress.legal hfinal] at hdecode
        refine ⟨chunks.length, by simp, ?_, ?_, ?_⟩
        · rwa [Bytes.upTo_append_of_le (Nat.le_refl _), Bytes.upTo_of_length_le (Nat.le_refl _)]
        · rw [Bytes.upTo_of_length_le (by simp), List.flatten_concat]
          exact h.position_le
        · rw [Feeding.step_of_unfinished hprogress.unfinished, hdecode, List.take_left]
      · -- an earlier chunk has decided, and this one is not decoded
        have hdecided := h.of_append hearly
        obtain ⟨last, hlast, hbefore, hreached, hresults⟩ := ih hdecided
        have hended : (feedAll limits chunks).results.any isFinal = true := by
          rw [hresults, List.any_append]
          simp [h.isFinal]
        refine ⟨last, by simp; omega, ?_, ?_, ?_⟩
        · rwa [Bytes.upTo_append_of_le (Nat.le_of_lt hlast)]
        · rwa [Bytes.upTo_append_of_le hlast]
        · rw [Feeding.step, if_pos hended, hresults,
            List.take_append_of_le_length (Nat.le_of_lt hlast)]

theorem results_append (limits : Limits) (chunks more : List Bytes) :
    (feedAll limits chunks).results <+: (feedAll limits (chunks ++ more)).results := by
  induction more using List.reverseRecOn with
  | nil => exact ⟨[], by rw [List.append_nil, List.append_nil]⟩
  | append_singleton more chunk ih =>
      rw [← List.append_assoc, feedAll_append_singleton]
      refine ih.trans ?_
      unfold Feeding.step
      split
      · exact List.prefix_refl _
      · exact List.prefix_append _ _

theorem Progress.getElem?_not_final {chunks : List Bytes} {feeding : Feeding} {boundary : Nat}
    {frames : List Frame} (h : Progress limits chunks feeding boundary frames) {index : Nat}
    {result : Except Fault Outcome} (hresult : feeding.results[index]? = some result) :
    isFinal result = false := by
  have hmem := List.mem_of_getElem? hresult
  have hall := h.unfinished
  rw [List.any_eq_false] at hall
  exact Bool.eq_false_iff.mpr (hall result hmem)

/-- As long as no octet at a deciding position has come in, all chunks are decoded. -/
theorem exists_progress_take {chunks : List Bytes} {count : Nat}
    (h : ∀ result position, Decided limits chunks.flatten result position →
      (Bytes.upTo chunks count).length < position) :
    ∃ boundary frames,
      Progress limits (chunks.take count) (feedAll limits (chunks.take count))
        boundary frames := by
  apply exists_progress
  intro result position hdecided
  obtain ⟨more, hmore⟩ := Bytes.upTo_prefix_flatten chunks count
  have hlate := h result position (hmore ▸ hdecided.append more)
  exact absurd hdecided.position_le (Nat.not_le_of_lt hlate)

/-- A final result is the one that the stream is decided for, from the chunk that decides it. -/
theorem getElem?_results_iff {chunks : List Bytes} {index : Nat}
    {result : Except Fault Outcome} :
    ((feedAll limits chunks).results[index]? = some result ∧ isFinal result) ↔
      index < chunks.length ∧ ∃ position, Decided limits chunks.flatten result position ∧
        (Bytes.upTo chunks index).length < position ∧
        position ≤ (Bytes.upTo chunks (index + 1)).length := by
  by_cases hdecided : ∃ result position, Decided limits chunks.flatten result position
  · obtain ⟨only, place, honly⟩ := hdecided
    obtain ⟨last, hlast, hbefore, hreached, hresults⟩ := results_of_decided honly
    obtain ⟨_, _, hprogress⟩ : ∃ boundary frames, Progress limits (chunks.take last)
        (feedAll limits (chunks.take last)) boundary frames :=
      exists_progress_take fun other position hother => (honly.unique hother).2 ▸ hbefore
    have hlength : (feedAll limits (chunks.take last)).results.length = last := by
      rw [hprogress.length_results, List.length_take_of_le (Nat.le_of_lt hlast)]
    rw [hresults]
    constructor
    · rintro ⟨hresult, hfinal⟩
      rcases Nat.lt_trichotomy index last with hlt | rfl | hgt
      · rw [List.getElem?_append_left (by omega)] at hresult
        rw [hprogress.getElem?_not_final hresult] at hfinal
        cases hfinal
      · rw [List.getElem?_append_right (by omega), hlength, Nat.sub_self] at hresult
        cases hresult
        exact ⟨hlast, place, honly, hbefore, hreached⟩
      · rw [List.getElem?_eq_none (by simp; omega)] at hresult
        cases hresult
    · rintro ⟨hindex, position, hother, hafter, huntil⟩
      obtain ⟨rfl, rfl⟩ := honly.unique hother
      -- the ends of the chunks grow, so only one of them can be the first to reach it
      have hsame : index = last := by
        rcases Nat.lt_trichotomy index last with hlt | heq | hgt
        · have := Bytes.length_upTo_mono chunks (show index + 1 ≤ last from hlt)
          omega
        · exact heq
        · have := Bytes.length_upTo_mono chunks (show last + 1 ≤ index from hgt)
          omega
      subst hsame
      rw [List.getElem?_append_right (by omega), hlength, Nat.sub_self]
      exact ⟨rfl, honly.isFinal⟩
  · constructor
    · rintro ⟨hresult, hfinal⟩
      obtain ⟨_, _, hprogress⟩ := exists_progress fun result position h =>
        hdecided ⟨result, position, h⟩
      rw [hprogress.getElem?_not_final hresult] at hfinal
      cases hfinal
    · rintro ⟨_, position, h, _⟩
      exact absurd ⟨result, position, h⟩ hdecided

/-- **The cuts of a stream do not matter.**  A result that ends the connection comes exactly if
the stream is decided, which is a matter of its octets alone; it is the result that the stream is
decided for, and the chunk that brings the deciding octet returns it.  After any number of chunks
that do not bring that octet, the data and the frames handed on are those of the frames that were
complete at the last chunk end between two frames, and what came in since is retained. -/
theorem feedAll_chunking (limits : Limits) (chunks : List Bytes) :
    (∀ result₁ position₁ result₂ position₂,
      Decided limits chunks.flatten result₁ position₁ →
      Decided limits chunks.flatten result₂ position₂ →
      result₁ = result₂ ∧ position₁ = position₂) ∧
    (∀ result position, Decided limits chunks.flatten result position →
      result ∈ (feedAll limits chunks).results) ∧
    (∀ index result,
      ((feedAll limits chunks).results[index]? = some result ∧ isFinal result) ↔
        index < chunks.length ∧ ∃ position, Decided limits chunks.flatten result position ∧
          (Bytes.upTo chunks index).length < position ∧
          position ≤ (Bytes.upTo chunks (index + 1)).length) ∧
    (∀ count ≤ chunks.length,
      (∀ result position, Decided limits chunks.flatten result position →
        (Bytes.upTo chunks count).length < position) →
      (feedAll limits (chunks.take count)).results = (feedAll limits chunks).results.take count ∧
        ∃ boundary frames,
          Progress limits (chunks.take count) (feedAll limits (chunks.take count))
            boundary frames) := by
  refine ⟨fun _ _ _ _ h₁ h₂ => h₁.unique h₂, ?_, fun _ _ => getElem?_results_iff, ?_⟩
  · intro result position h
    obtain ⟨last, _, _, _, hresults⟩ := results_of_decided h
    simp [hresults]
  · intro count hcount hlate
    obtain ⟨boundary, frames, hprogress⟩ := exists_progress_take hlate
    refine ⟨?_, boundary, frames, hprogress⟩
    have hbegin := results_append limits (chunks.take count) (chunks.drop count)
    rw [List.take_append_drop, List.prefix_iff_eq_take, hprogress.length_results,
      List.length_take_of_le hcount] at hbegin
    exact hbegin

end SharedListener.Frame
