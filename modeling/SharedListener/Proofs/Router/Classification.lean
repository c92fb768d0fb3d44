import SharedListener.Proofs.Chunks
import SharedListener.Proofs.Connection.Standing
import SharedListener.Proofs.Router.Run

/-!
# Classification under any chunking

What becomes of a connection is a matter of its stream, with one exception: too
many bytes without a blank line are native even if the blank line is on its way,
so the cuts count as long as the head of a request has not ended
(`Overlong`).  A head that is at most one octet longer than what may wait
cannot be cut so.

`Classified` says what has become of a connection after some chunks, and every
chunk keeps it (`Classified.receive`).
-/

namespace SharedListener

open Handshake

namespace Connection

variable {settings : Settings} {isEnabled : String → Bool} {chunks : List Bytes}
  {exchanges : List Exchange} {connection : Connection}

/-! ## Too many bytes -/

/-- After some of the chunks there were more bytes than may wait, and no blank line. -/
def Overlong (maxBytes : Nat) (chunks : List Bytes) : Prop :=
  ∃ count ≤ chunks.length, waitingCap maxBytes < (Bytes.upTo chunks count).length ∧
    ¬ blankLine <:+: Bytes.upTo chunks count

theorem overlong_concat_iff {maxBytes : Nat} {chunk : Bytes} :
    Overlong maxBytes (chunks ++ [chunk]) ↔
      Overlong maxBytes chunks ∨
        waitingCap maxBytes < (chunks.flatten ++ chunk).length ∧
          ¬ blankLine <:+: chunks.flatten ++ chunk := by
  have hwhole : Bytes.upTo (chunks ++ [chunk]) (chunks.length + 1) = chunks.flatten ++ chunk := by
    rw [Bytes.upTo_of_length_le (by simp), List.flatten_concat]
  constructor
  · rintro ⟨count, hcount, hlong, hblank⟩
    rw [List.length_append, List.length_singleton] at hcount
    rcases Nat.le_succ_iff.mp hcount with hle | rfl
    · rw [Bytes.upTo_append_of_le hle] at hlong hblank
      exact .inl ⟨count, hle, hlong, hblank⟩
    · rw [hwhole] at hlong hblank
      exact .inr ⟨hlong, hblank⟩
  · rintro (⟨count, hle, hlong, hblank⟩ | ⟨hlong, hblank⟩)
    · refine ⟨count, by simp; omega, ?_⟩
      rw [Bytes.upTo_append_of_le hle]
      exact ⟨hlong, hblank⟩
    · refine ⟨chunks.length + 1, by simp, ?_⟩
      rw [hwhole]
      exact ⟨hlong, hblank⟩

theorem not_overlong_of_le {maxBytes : Nat}
    (h : chunks.flatten.length ≤ waitingCap maxBytes) : ¬ Overlong maxBytes chunks := by
  rintro ⟨count, _, hlong, _⟩
  have := (Bytes.upTo_prefix_flatten chunks count).length_le
  omega

/-- One of the first `count` chunks ended behind more bytes than may wait, and before `length`. -/
def Overrun (maxBytes : Nat) (chunks : List Bytes) (length count : Nat) : Prop :=
  ∃ earlier ≤ count, waitingCap maxBytes < (Bytes.upTo chunks earlier).length ∧
    (Bytes.upTo chunks earlier).length < length

/-- If a head ends in the stream, bytes without a blank line are those that end before it does. -/
theorem overlong_take_iff {length count : Nat} (hends : HeadEnds chunks.flatten length)
    (hcount : count ≤ chunks.length) (maxBytes : Nat) :
    Overlong maxBytes (chunks.take count) ↔ Overrun maxBytes chunks length count := by
  have htake : (chunks.take count).length = count := List.length_take_of_le hcount
  -- bytes have a blank line as soon as they reach the end of the head
  have hreach : ∀ earlier, ¬ blankLine <:+: Bytes.upTo chunks earlier ↔
      (Bytes.upTo chunks earlier).length < length := by
    intro earlier
    rw [hends.isInfix_iff (Bytes.upTo_prefix_flatten chunks earlier), Nat.not_le]
  constructor
  · rintro ⟨earlier, hle, hlong, hblank⟩
    rw [htake] at hle
    rw [Bytes.upTo_take hle] at hlong hblank
    exact ⟨earlier, hle, hlong, (hreach earlier).mp hblank⟩
  · rintro ⟨earlier, hle, hlong, hbefore⟩
    refine ⟨earlier, by rwa [htake], ?_⟩
    rw [Bytes.upTo_take hle]
    exact ⟨hlong, (hreach earlier).mpr hbefore⟩

/-! ## One more chunk -/

/-- What has become of a connection that was new before `chunks`. -/
inductive Classified (settings : Settings) (isEnabled : String → Bool) (chunks : List Bytes)
    (exchanges : List Exchange) (connection : Connection) : Prop
  | waiting (hagree : ¬ Diverges chunks.flatten) (hblank : ¬ blankLine <:+: chunks.flatten)
      (hfew : chunks.flatten.length ≤ waitingCap settings.maxHandshakeBytes)
      (hwaits : connection.Waits chunks.flatten) (hreplies : replies exchanges = [])
  | native (hnative : Diverges chunks.flatten ∨ Overlong settings.maxHandshakeBytes chunks)
      (hdecided : connection.Decided) (hstanding : connection.standing exchanges = .native)
  | answered {length : Nat} (hagree : ¬ Diverges chunks.flatten)
      (hfew : ¬ Overlong settings.maxHandshakeBytes chunks)
      (hends : HeadEnds chunks.flatten length) (hdecided : connection.Decided)
      (hstanding : connection.standing exchanges =
        .answered (negotiate isEnabled (chunks.flatten.take length)))

namespace Classified

theorem new (settings : Settings) (isEnabled : String → Bool) :
    Classified settings isEnabled [] [] {} := by
  refine .waiting ?_ ?_ (Nat.zero_le _) waits_new rfl
  · exact not_diverges_iff.mpr (.inl (by simp))
  · intro hblank
    exact absurd (four_le_of_blankLine hblank) (by decide)

/-- A chunk that comes in while the connection waits. -/
private theorem receive_of_waits (hfew : chunks.flatten.length ≤
      waitingCap settings.maxHandshakeBytes) (hwaits : connection.Waits chunks.flatten)
    (hreplies : replies exchanges = []) (chunk : Bytes) :
    Classified settings isEnabled (chunks ++ [chunk])
      (exchanges ++ [⟨chunk, (connection.receive settings isEnabled chunk).action⟩])
      (connection.receive settings isEnabled chunk).connection := by
  have houtcome := hwaits.receive settings isEnabled chunk
  have hflatten : (chunks ++ [chunk]).flatten = chunks.flatten ++ chunk := List.flatten_concat
  rw [← hflatten] at houtcome
  generalize connection.receive settings isEnabled chunk = step at houtcome ⊢
  cases houtcome with
  | waited hagree hblank hshort haction hwaits =>
      refine .waiting hagree hblank hshort hwaits ?_
      rw [replies_concat, hreplies, haction]
      rfl
  | turnedNative hnative =>
      refine .native (hnative.imp_right ?_) (becomeNative_decided _)
        (becomeNative_standing hreplies chunk _)
      rintro ⟨_, hblank, hlong⟩
      rw [hflatten] at hblank hlong
      exact overlong_concat_iff.mpr (.inr ⟨hlong, hblank⟩)
  | answered hagree hends =>
      refine .answered hagree ?_ hends (answer_decided _ _ _ _)
        (answer_standing hreplies settings chunk _ _ _)
      intro hoverlong
      rcases overlong_concat_iff.mp hoverlong with hbefore | ⟨_, hblank⟩
      · exact not_overlong_of_le hfew hbefore
      · rw [hflatten] at hends
        exact hblank hends.blankLine_isInfix

theorem receive (h : Classified settings isEnabled chunks exchanges connection)
    (chunk : Bytes) :
    Classified settings isEnabled (chunks ++ [chunk])
      (exchanges ++ [⟨chunk, (connection.receive settings isEnabled chunk).action⟩])
      (connection.receive settings isEnabled chunk).connection := by
  have hflatten : (chunks ++ [chunk]).flatten = chunks.flatten ++ chunk := List.flatten_concat
  cases h with
  | waiting _ _ hfew hwaits hreplies => exact receive_of_waits hfew hwaits hreplies chunk
  | native hnative hdecided hstanding =>
      -- whatever made the connection native is still there in the longer stream
      obtain ⟨hstill, hsame⟩ := hdecided.receive settings isEnabled exchanges chunk
      refine .native ?_ hstill (hsame.trans hstanding)
      rw [hflatten]
      rcases hnative with hdiverges | hoverlong
      · exact .inl (hdiverges.append chunk)
      · exact .inr (overlong_concat_iff.mpr (.inl hoverlong))
  | @answered length hagree hfew hends hdecided hstanding =>
      -- the head stays the head, and from now on there is a blank line
      obtain ⟨hstill, hsame⟩ := hdecided.receive settings isEnabled exchanges chunk
      have hstart : requestStart <+: chunks.flatten :=
        requestStart_prefix_of_four_le hagree (four_le_of_blankLine hends.blankLine_isInfix)
      have hmore : HeadEnds (chunks.flatten ++ chunk) length := hends.append chunk
      refine .answered ?_ ?_ (?_ : HeadEnds _ length) hstill ?_
      · rw [hflatten]
        exact not_diverges_of_requestStart (hstart.trans (List.prefix_append _ _))
      · rw [overlong_concat_iff]
        rintro (hbefore | ⟨_, hblank⟩)
        · exact hfew hbefore
        · exact hblank hmore.blankLine_isInfix
      · rwa [hflatten]
      · rw [hflatten, List.take_append_of_le_length hends.length_le]
        exact hsame.trans hstanding

/-! ## What has become of a connection -/

theorem standing_native (h : Classified settings isEnabled chunks exchanges connection)
    (hnative : Diverges chunks.flatten ∨ Overlong settings.maxHandshakeBytes chunks) :
    connection.standing exchanges = .native := by
  cases h with
  | waiting hagree _ hfew =>
      exact absurd hnative (not_or.mpr ⟨hagree, not_overlong_of_le hfew⟩)
  | native _ _ hstanding => exact hstanding
  | answered hagree hfew => exact absurd hnative (not_or.mpr ⟨hagree, hfew⟩)

theorem waits (h : Classified settings isEnabled chunks exchanges connection)
    (hagree : ¬ Diverges chunks.flatten) (hfew : ¬ Overlong settings.maxHandshakeBytes chunks)
    (hblank : ¬ blankLine <:+: chunks.flatten) :
    connection.Waits chunks.flatten ∧ replies exchanges = [] := by
  cases h with
  | waiting _ _ _ hwaits hreplies => exact ⟨hwaits, hreplies⟩
  | native hnative => exact absurd hnative (not_or.mpr ⟨hagree, hfew⟩)
  | answered _ _ hends => exact absurd hends.blankLine_isInfix hblank

theorem standing_waiting (h : Classified settings isEnabled chunks exchanges connection)
    (hagree : ¬ Diverges chunks.flatten) (hfew : ¬ Overlong settings.maxHandshakeBytes chunks)
    (hblank : ¬ blankLine <:+: chunks.flatten) : connection.standing exchanges = .waiting := by
  obtain ⟨hwaits, hreplies⟩ := h.waits hagree hfew hblank
  rw [standing, hwaits.protocol_eq, hwaits.metadata_eq, hreplies]
  rfl

theorem standing_answered (h : Classified settings isEnabled chunks exchanges connection)
    (hagree : ¬ Diverges chunks.flatten) (hfew : ¬ Overlong settings.maxHandshakeBytes chunks)
    {length : Nat} (hends : HeadEnds chunks.flatten length) :
    connection.standing exchanges =
      .answered (negotiate isEnabled (chunks.flatten.take length)) := by
  cases h with
  | waiting _ hblank => exact absurd hends.blankLine_isInfix hblank
  | native hnative => exact absurd hnative (not_or.mpr ⟨hagree, hfew⟩)
  | answered _ _ hother _ hstanding =>
      rw [hends.unique hother]
      exact hstanding

end Classified
end Connection

/-! ## Over a router -/

namespace Router

open Connection (Standing Classified Overlong Overrun not_overlong_of_le overlong_take_iff)

variable {router : Router} {id : ConnectionId} {chunks : List Bytes}

/-- Gives `chunks` to the router, all from the same connection. -/
def receiveAll (router : Router) (id : ConnectionId) (chunks : List Bytes) : History :=
  run router (chunks.map (.receive id))

/-- The standing of a connection after `chunks`, if it has an entry. -/
def standing? (router : Router) (id : ConnectionId) (chunks : List Bytes) : Option Standing :=
  (receiveAll router id chunks).router.connections[id]?.map fun connection =>
    connection.standing ((receiveAll router id chunks).exchanges id)

/-- The action that the last of `chunks` was answered with. -/
def lastAction? (router : Router) (id : ConnectionId) (chunks : List Bytes) :
    Option Connection.Action :=
  ((receiveAll router id chunks).exchanges id).getLast?.map Connection.Exchange.action

@[simp] theorem receiveAll_concat (router : Router) (id : ConnectionId) (chunks : List Bytes)
    (chunk : Bytes) :
    receiveAll router id (chunks ++ [chunk]) =
      (receiveAll router id chunks).step (.receive id chunk) := by
  rw [receiveAll, List.map_append, List.map_singleton, run_concat, receiveAll]

theorem receiveAll_settings (router : Router) (id : ConnectionId) (chunks : List Bytes) :
    (receiveAll router id chunks).router.settings = router.settings :=
  run_settings router _

/-- No application is switched on or off. -/
theorem receiveAll_isEnabled (router : Router) (id : ConnectionId) (chunks : List Bytes) :
    (receiveAll router id chunks).router.scopes.isEnabled = router.scopes.isEnabled := by
  induction chunks using List.reverseRecOn with
  | nil => rfl
  | append_singleton chunks chunk ih =>
      rw [receiveAll_concat]
      exact (receive_isEnabled _ id chunk).trans ih

theorem receiveAll_step (router : Router) (id : ConnectionId) (chunks : List Bytes)
    (chunk : Bytes) :
    ((receiveAll router id (chunks ++ [chunk])).router.connections[id]? =
      some (((receiveAll router id chunks).connection id).receive router.settings
        router.scopes.isEnabled chunk).connection) ∧
    (receiveAll router id (chunks ++ [chunk])).exchanges id =
      (receiveAll router id chunks).exchanges id ++
        [⟨chunk, (((receiveAll router id chunks).connection id).receive router.settings
          router.scopes.isEnabled chunk).action⟩] := by
  rw [receiveAll_concat, History.step_receive, History.exchanges_step_receive, if_pos rfl,
    if_pos rfl, receiveAll_settings, receiveAll_isEnabled]
  exact ⟨rfl, rfl⟩

theorem classified_receiveAll (habsent : router.connections[id]? = none) (chunks : List Bytes) :
    Classified router.settings router.scopes.isEnabled chunks
      ((receiveAll router id chunks).exchanges id)
      ((receiveAll router id chunks).connection id) := by
  induction chunks using List.reverseRecOn with
  | nil =>
      show Classified _ _ [] [] (router.connections[id]?.getD {})
      rw [habsent]
      exact .new _ _
  | append_singleton chunks chunk ih =>
      obtain ⟨hconnection, hexchanges⟩ := receiveAll_step router id chunks chunk
      rw [History.connection, hconnection, hexchanges]
      exact ih.receive chunk

/-- A connection that has sent something has an entry. -/
theorem exists_classified (habsent : router.connections[id]? = none) (hne : chunks ≠ []) :
    ∃ exchanges connection,
      standing? router id chunks = some (Connection.standing connection exchanges) ∧
      Classified router.settings router.scopes.isEnabled chunks exchanges connection := by
  have hclassified := classified_receiveAll habsent chunks
  refine ⟨_, _, ?_, hclassified⟩
  rcases List.eq_nil_or_concat chunks with rfl | ⟨before, chunk, rfl⟩
  · exact absurd rfl hne
  · rw [List.concat_eq_append, standing?, History.connection,
      (receiveAll_step router id before chunk).1]
    rfl

/-! ## The standing after some chunks -/

theorem standing?_of_native (habsent : router.connections[id]? = none) (hne : chunks ≠ [])
    (hnative : Diverges chunks.flatten ∨ Overlong router.settings.maxHandshakeBytes chunks) :
    standing? router id chunks = some .native := by
  obtain ⟨exchanges, connection, hstanding, hclassified⟩ := exists_classified habsent hne
  rw [hstanding, hclassified.standing_native hnative]

theorem standing?_of_waiting (habsent : router.connections[id]? = none) (hne : chunks ≠ [])
    (hagree : ¬ Diverges chunks.flatten)
    (hfew : ¬ Overlong router.settings.maxHandshakeBytes chunks)
    (hblank : ¬ blankLine <:+: chunks.flatten) :
    standing? router id chunks = some .waiting := by
  obtain ⟨exchanges, connection, hstanding, hclassified⟩ := exists_classified habsent hne
  rw [hstanding, hclassified.standing_waiting hagree hfew hblank]

theorem standing?_of_headEnds (habsent : router.connections[id]? = none)
    (hagree : ¬ Diverges chunks.flatten)
    (hfew : ¬ Overlong router.settings.maxHandshakeBytes chunks) {length : Nat}
    (hends : HeadEnds chunks.flatten length) :
    standing? router id chunks =
      some (.answered (negotiate router.scopes.isEnabled (chunks.flatten.take length))) := by
  have hne : chunks ≠ [] := by
    rintro rfl
    exact absurd (four_le_of_blankLine hends.blankLine_isInfix) (by decide)
  obtain ⟨exchanges, connection, hstanding, hclassified⟩ := exists_classified habsent hne
  rw [hstanding, hclassified.standing_answered hagree hfew hends]

/-- Fewer than four octets of a request wait, whatever the cap. -/
theorem standing?_of_short (habsent : router.connections[id]? = none) (hne : chunks ≠ [])
    (hagree : ¬ Diverges chunks.flatten) (hshort : chunks.flatten.length < 4) :
    standing? router id chunks = some .waiting := by
  refine standing?_of_waiting habsent hne hagree (not_overlong_of_le ?_) ?_
  · unfold waitingCap
    omega
  · intro hblank
    have := four_le_of_blankLine hblank
    omega

theorem lastAction?_of_headEnds (habsent : router.connections[id]? = none)
    (hfew : ¬ Overlong router.settings.maxHandshakeBytes chunks)
    (hblank : ¬ blankLine <:+: chunks.flatten) {chunk : Bytes}
    (hagree : ¬ Diverges (chunks.flatten ++ chunk)) {length : Nat}
    (hends : HeadEnds (chunks.flatten ++ chunk) length) :
    lastAction? router id (chunks ++ [chunk]) =
      some (Connection.answer router.settings {} (chunks.flatten ++ chunk)
        ((chunks.flatten ++ chunk).drop length)
        (negotiate router.scopes.isEnabled
          ((chunks.flatten ++ chunk).take length))).action := by
  have hbefore : ¬ Diverges chunks.flatten := fun h => hagree (h.append chunk)
  have hwaits := ((classified_receiveAll habsent chunks).waits hbefore hfew hblank).1
  have houtcome := hwaits.receive router.settings router.scopes.isEnabled chunk
  rw [lastAction?, (receiveAll_step router id chunks chunk).2, List.getLast?_append,
    List.getLast?_singleton]
  generalize Connection.receive _ _ _ chunk = step at houtcome ⊢
  cases houtcome with
  | waited _ hnone => exact absurd hends.blankLine_isInfix hnone
  | turnedNative hnative =>
      rcases hnative with hdiverges | ⟨_, hnone, _⟩
      · exact absurd hdiverges hagree
      · exact absurd hends.blankLine_isInfix hnone
  | answered _ hother =>
      rw [hends.unique hother]
      rfl

/-! ## Streams -/

private theorem take_ne_nil {count : Nat} (hpos : 0 < count) (hcount : count ≤ chunks.length) :
    chunks.take count ≠ [] := by
  intro h
  have hlength := List.length_take_of_le hcount
  rw [h, List.length_nil] at hlength
  omega

/-- A stream that is no request. -/
theorem standing?_of_diverges (habsent : router.connections[id]? = none)
    (hdiverges : Diverges chunks.flatten) {count : Nat} (hpos : 0 < count)
    (hcount : count ≤ chunks.length) :
    (Diverges (Bytes.upTo chunks count) →
      standing? router id (chunks.take count) = some .native) ∧
    (¬ Diverges (Bytes.upTo chunks count) →
      standing? router id (chunks.take count) = some .waiting) := by
  have hne := take_ne_nil hpos hcount
  constructor
  · intro hnow
    exact standing?_of_native habsent hne (.inl hnow)
  · intro hagree
    refine standing?_of_short habsent hne hagree ?_
    by_contra hlength
    -- four octets that agree are the beginning of a request, also in the whole stream
    have hstart : requestStart <+: chunks.flatten :=
      (requestStart_prefix_of_four_le hagree (Nat.not_lt.mp hlength)).trans
        (Bytes.upTo_prefix_flatten chunks count)
    exact not_diverges_of_requestStart hstart hdiverges

private theorem agree_upTo (hstart : requestStart <+: chunks.flatten) (count : Nat) :
    ¬ Diverges (Bytes.upTo chunks count) := fun h =>
  not_diverges_of_requestStart hstart (h.mono (Bytes.upTo_prefix_flatten chunks count))

private theorem headEnds_upTo {length : Nat} (hends : HeadEnds chunks.flatten length)
    {count : Nat} (hreached : length ≤ (Bytes.upTo chunks count).length) :
    HeadEnds (Bytes.upTo chunks count) length ∧
      (Bytes.upTo chunks count).take length = chunks.flatten.take length := by
  obtain ⟨more, hmore⟩ := Bytes.upTo_prefix_flatten chunks count
  rw [← hmore] at hends ⊢
  exact ⟨hends.of_append hreached, (List.take_append_of_le_length hreached).symm⟩

private theorem not_blankLine_upTo {length : Nat} (hends : HeadEnds chunks.flatten length)
    {count : Nat} (hbefore : (Bytes.upTo chunks count).length < length) :
    ¬ blankLine <:+: Bytes.upTo chunks count := by
  rw [hends.isInfix_iff (Bytes.upTo_prefix_flatten chunks count)]
  exact Nat.not_le.mpr hbefore

/-- A stream that begins with a request whose head ends. -/
theorem standing?_of_request (habsent : router.connections[id]? = none)
    (hstart : requestStart <+: chunks.flatten) {length : Nat}
    (hends : HeadEnds chunks.flatten length) {count : Nat} (hpos : 0 < count)
    (hcount : count ≤ chunks.length) :
    (Overrun router.settings.maxHandshakeBytes chunks length count →
      standing? router id (chunks.take count) = some .native) ∧
    (¬ Overrun router.settings.maxHandshakeBytes chunks length count →
      (Bytes.upTo chunks count).length < length →
      standing? router id (chunks.take count) = some .waiting) ∧
    (¬ Overrun router.settings.maxHandshakeBytes chunks length count →
      length ≤ (Bytes.upTo chunks count).length →
      standing? router id (chunks.take count) =
        some (.answered (negotiate router.scopes.isEnabled (chunks.flatten.take length)))) := by
  have hne := take_ne_nil hpos hcount
  have hagree := agree_upTo hstart count
  rw [← overlong_take_iff hends hcount]
  refine ⟨fun hoverlong => standing?_of_native habsent hne (.inr hoverlong), ?_, ?_⟩
  · intro hfew hbefore
    exact standing?_of_waiting habsent hne hagree hfew (not_blankLine_upTo hends hbefore)
  · intro hfew hreached
    obtain ⟨hnow, htake⟩ := headEnds_upTo hends hreached
    rw [← htake]
    exact standing?_of_headEnds habsent hagree hfew hnow

/-- The chunk with which the head of a request is complete. -/
theorem lastAction?_of_request (habsent : router.connections[id]? = none)
    (hstart : requestStart <+: chunks.flatten) {length : Nat}
    (hends : HeadEnds chunks.flatten length) {count : Nat} (hcount : count < chunks.length)
    (hfew : ¬ Overrun router.settings.maxHandshakeBytes chunks length count)
    (hbefore : (Bytes.upTo chunks count).length < length)
    (hreached : length ≤ (Bytes.upTo chunks (count + 1)).length) :
    lastAction? router id (chunks.take (count + 1)) =
      some (Connection.answer router.settings {} (Bytes.upTo chunks (count + 1))
        ((Bytes.upTo chunks (count + 1)).drop length)
        (negotiate router.scopes.isEnabled (chunks.flatten.take length))).action := by
  have hagree := agree_upTo hstart (count + 1)
  have hblank := not_blankLine_upTo hends hbefore
  obtain ⟨hnow, htake⟩ := headEnds_upTo hends hreached
  rw [← overlong_take_iff hends (Nat.le_of_lt hcount)] at hfew
  rw [← htake, List.take_succ_eq_append_getElem hcount]
  rw [Bytes.upTo_succ hcount] at hagree hnow ⊢
  exact lastAction?_of_headEnds habsent hfew hblank hagree hnow

/-- A head that is at most one octet longer than what may wait is not cut too late. -/
theorem not_overrun_of_le {maxBytes length : Nat} (h : length ≤ waitingCap maxBytes + 1)
    (chunks : List Bytes) (count : Nat) : ¬ Overrun maxBytes chunks length count := by
  rintro ⟨earlier, _, hlong, hbefore⟩
  omega

/-- The standing of a connection with a short head depends on the stream alone. -/
theorem standing?_of_short_head (habsent : router.connections[id]? = none)
    (hstart : requestStart <+: chunks.flatten) {length : Nat}
    (hends : HeadEnds chunks.flatten length)
    (hshort : length ≤ waitingCap router.settings.maxHandshakeBytes + 1) :
    standing? router id chunks =
      some (.answered (negotiate router.scopes.isEnabled (chunks.flatten.take length))) := by
  refine standing?_of_headEnds habsent (not_diverges_of_requestStart hstart) ?_ hends
  have hnever := not_overrun_of_le hshort chunks chunks.length
  rwa [← overlong_take_iff hends (Nat.le_refl _), List.take_length] at hnever

/-- A stream that begins with a request whose head does not end. -/
theorem standing?_of_not_blankLine (habsent : router.connections[id]? = none)
    (hstart : requestStart <+: chunks.flatten) (hblank : ¬ blankLine <:+: chunks.flatten) :
    standing? router id chunks =
      some (if waitingCap router.settings.maxHandshakeBytes < chunks.flatten.length then .native
        else .waiting) := by
  have hne : chunks ≠ [] := by
    rintro rfl
    exact absurd hstart (by decide)
  split_ifs with hlong
  · refine standing?_of_native habsent hne (.inr ⟨chunks.length, Nat.le_refl _, ?_⟩)
    rw [Bytes.upTo_of_length_le (Nat.le_refl _)]
    exact ⟨hlong, hblank⟩
  · exact standing?_of_waiting habsent hne (not_diverges_of_requestStart hstart)
      (not_overlong_of_le (Nat.not_lt.mp hlong)) hblank

/-- **Classification under any chunking.**  Let a connection without an entry send a stream in
`chunks`.  A stream that differs from `GET ` is native from the first chunk on that has a differing
octet.  A request is answered by the verdict on its head with the chunk that completes the head,
unless a chunk before that one ends behind more bytes than may wait, from which on the connection is
native; so the cuts do not count if the head is at most one octet longer than that.  A request whose
head does not end is native exactly if it is longer than what may wait, and a few octets of `GET `
wait. -/
theorem standing_chunking (router : Router) (id : ConnectionId)
    (habsent : router.connections[id]? = none) (chunks : List Bytes) :
    (Diverges chunks.flatten → ∀ count, 0 < count → count ≤ chunks.length →
      (Diverges (Bytes.upTo chunks count) →
        standing? router id (chunks.take count) = some .native) ∧
      (¬ Diverges (Bytes.upTo chunks count) →
        standing? router id (chunks.take count) = some .waiting)) ∧
    (∀ length, requestStart <+: chunks.flatten → HeadEnds chunks.flatten length →
      (∀ count, 0 < count → count ≤ chunks.length →
        (Overrun router.settings.maxHandshakeBytes chunks length count →
          standing? router id (chunks.take count) = some .native) ∧
        (¬ Overrun router.settings.maxHandshakeBytes chunks length count →
          (Bytes.upTo chunks count).length < length →
          standing? router id (chunks.take count) = some .waiting) ∧
        (¬ Overrun router.settings.maxHandshakeBytes chunks length count →
          length ≤ (Bytes.upTo chunks count).length →
          standing? router id (chunks.take count) =
            some (.answered
              (negotiate router.scopes.isEnabled (chunks.flatten.take length))))) ∧
      (∀ count, count < chunks.length →
        ¬ Overrun router.settings.maxHandshakeBytes chunks length count →
        (Bytes.upTo chunks count).length < length →
        length ≤ (Bytes.upTo chunks (count + 1)).length →
        lastAction? router id (chunks.take (count + 1)) =
          some (Connection.answer router.settings {} (Bytes.upTo chunks (count + 1))
            ((Bytes.upTo chunks (count + 1)).drop length)
            (negotiate router.scopes.isEnabled (chunks.flatten.take length))).action) ∧
      (length ≤ waitingCap router.settings.maxHandshakeBytes + 1 →
        ∀ others : List Bytes, others.flatten = chunks.flatten →
          standing? router id others = standing? router id chunks)) ∧
    (requestStart <+: chunks.flatten → ¬ blankLine <:+: chunks.flatten →
      standing? router id chunks =
        some (if waitingCap router.settings.maxHandshakeBytes < chunks.flatten.length then .native
          else .waiting)) ∧
    (chunks ≠ [] → chunks.flatten.length < 4 → chunks.flatten <+: requestStart →
      standing? router id chunks = some .waiting) := by
  refine ⟨?_, ?_, standing?_of_not_blankLine habsent, ?_⟩
  · intro hdiverges count hpos hcount
    exact standing?_of_diverges habsent hdiverges hpos hcount
  · intro length hstart hends
    refine ⟨fun count hpos hcount => standing?_of_request habsent hstart hends hpos hcount,
      fun count hcount => lastAction?_of_request habsent hstart hends hcount, ?_⟩
    intro hshort others hothers
    rw [standing?_of_short_head habsent hstart hends hshort,
      standing?_of_short_head habsent (by rwa [hothers]) (by rwa [hothers]) hshort, hothers]
  · intro hne hshort hbegin
    exact standing?_of_short habsent hne (not_diverges_iff.mpr (.inl hbegin)) hshort

/-- `GE` waits and `GEX` is native, and a request cut inside its blank line stands as a whole. -/
theorem standing_chunking_new :
    ({} : Router).connections[(7 : ConnectionId)]? = none ∧
    standing? {} 7 [[0x47, 0x45]] = some .waiting ∧
    standing? {} 7 [[0x47, 0x45], [0x58]] = some .native ∧
    standing? {} 7 [[0x47, 0x45, 0x54, 0x20, 0x0D, 0x0A, 0x0D], [0x0A]] =
      standing? {} 7 [[0x47, 0x45, 0x54, 0x20, 0x0D, 0x0A, 0x0D, 0x0A]] := by
  have habsent : ({} : Router).connections[(7 : ConnectionId)]? = none :=
    Std.ExtTreeMap.getElem?_empty
  obtain ⟨hdiverges, -⟩ := standing_chunking {} 7 habsent [[0x47, 0x45], [0x58]]
  have hcut := hdiverges ⟨2, 0x58, 0x54, rfl, rfl, by decide⟩
  obtain ⟨-, hrequest, -⟩ :=
    standing_chunking {} 7 habsent [[0x47, 0x45, 0x54, 0x20, 0x0D, 0x0A, 0x0D, 0x0A]]
  refine ⟨habsent, ?_, ?_, ?_⟩
  · exact (hcut 1 (by decide) (by decide)).2 (not_diverges_iff.mpr (.inl ⟨[0x54, 0x20], rfl⟩))
  · exact (hcut 2 (by decide) (by decide)).1 ⟨2, 0x58, 0x54, rfl, rfl, by decide⟩
  · have hends : HeadEnds [0x47, 0x45, 0x54, 0x20, 0x0D, 0x0A, 0x0D, 0x0A] 8 :=
      headLength?_eq_some_iff.mp (by decide)
    exact (hrequest 8 ⟨_, rfl⟩ hends).2.2 (by decide) _ rfl

end Router
end SharedListener
