import SharedListener.Proofs.Frame.Decision
import SharedListener.Proofs.Router.Conservation
import SharedListener.Proofs.Router.Counting
import SharedListener.Proofs.Router.Lives
import SharedListener.Proofs.Router.Shape

/-!
# The metrics account for the actions

What a step adds to the numbers can be read off its action and the protocol of
the connection (`Bill`), but for what ended the frames, which is a matter of all
bytes behind the head of the request (`Life.ended?`).  So a life adds to each
item what its exchanges show (`Life.adds`): a chunk adds to the number what it
adds to the life (`Life.adds_next`), and after a run every number is the sum over
all lives.
-/

namespace SharedListener

open Handshake (HeadEnds headLength?)

namespace Connection

/-! ## The events of a step -/

/-- Whether an action answers a request with an upgrade. -/
def Action.isUpgrade : Action → Bool
  | .upgrade _ _ => true
  | .forward _ | .await | .close _ => false

/-- Whether an action ends a connection with a farewell. -/
def Action.hasFarewell : Action → Bool
  | .close farewell => farewell.isSome
  | .forward _ | .upgrade _ _ | .await => false

/-- The reactions to decoded bytes, with their events. -/
inductive Reaction.Bill : Reaction → List Event → Prop
  | await : Bill .await []
  | forward (payload : Bytes) : Bill (.forward payload) [.forwarded .websocket payload.length]
  | closeFrame : Bill .close [.closeFrame]
  | oversized (length : Nat) : Bill .close [.decodeError (.oversizedFrame length)]

/-- The actions of a connection, with the protocol before and after it and with the events. -/
inductive Bill : Protocol → Action → Protocol → List Event → Prop
  | ended (protocol : Protocol) : Bill protocol (.close none) protocol []
  | waited : Bill .unclassified .await .unclassified []
  | turnedNative (payload : Bytes) :
      Bill .unclassified (.forward payload) .native
        [.becameNative, .forwarded .native payload.length]
  | rejected (farewell : Bytes) :
      Bill .unclassified (.close (some farewell)) .unclassified [.rejected]
  | upgraded (metadata : Metadata) (response : Bytes) {reaction : Reaction} {events : List Event}
      (h : reaction.Bill events) :
      Bill .unclassified (.upgrade response reaction.then?) .websocket
        (.upgraded metadata :: events)
  | copied (payload : Bytes) :
      Bill .native (.forward payload) .native [.forwarded .native payload.length]
  | decoded {reaction : Reaction} {events : List Event} (h : reaction.Bill events) :
      Bill .websocket reaction.action .websocket events

private theorem react_bill (limits : Frame.Limits) (lifecycle : Lifecycle) (input : Bytes) :
    (react lifecycle (Frame.decode limits input)).1.Bill
      (react lifecycle (Frame.decode limits input)).2.2 := by
  rcases houtcome : Frame.decode limits input with
    fault | (⟨payload, consumed, count⟩ | _ | _)
  · obtain ⟨_, _, _, _, length, _, rfl⟩ := Frame.decode_eq_error_iff.mp houtcome
    exact .oversized length
  · dsimp only [react]
    split_ifs
    · exact .await
    · exact .forward payload
  · exact .await
  · exact .closeFrame

theorem receive_bill (settings : Settings) (isEnabled : String → Bool) (connection : Connection)
    (chunk : Bytes) :
    Bill connection.protocol (connection.receive settings isEnabled chunk).action
      (connection.receive settings isEnabled chunk).connection.protocol
      (connection.receive settings isEnabled chunk).events := by
  have hmove := receive_move settings isEnabled connection chunk
  generalize connection.receive settings isEnabled chunk = step at hmove ⊢
  cases hmove with
  | ended => exact .ended _
  | waited _ hstate =>
      rw [protocol, hstate]
      exact .waited
  | turnedNative _ hstate =>
      rw [protocol, hstate]
      exact .turnedNative _
  | @answered buffer length _ hstate =>
      rw [protocol, hstate]
      rcases Handshake.negotiate isEnabled ((buffer ++ chunk).take length) with
        (flaw | path) | request
      · exact .turnedNative _
      · exact .rejected _
      · rw [answer, upgrade_eq]
        exact .upgraded _ _ (react_bill _ _ _)
  | copied _ hstate =>
      rw [protocol, protocol, awake_state, hstate]
      exact .copied chunk
  | decoded _ hstate =>
      rw [receiveFrames_eq, protocol, hstate]
      exact .decoded (react_bill _ _ _)

namespace Bill

variable {before after : Protocol} {action : Action} {events : List Event}

theorem protocol_eq (h : Bill before action after events) :
    after = before ∨ before = .unclassified := by
  cases h <;> simp

theorem silent (h : Bill before action .unclassified events) : action.payload = [] := by
  cases h <;> rfl

theorem expected (h : Bill before action after events) : ∀ event ∈ events, event.IsExpected := by
  have hreaction {reaction : Reaction} {events : List Event} (h : reaction.Bill events) :
      ∀ event ∈ events, event.IsExpected := by
    cases h <;> simp [Event.IsExpected]
  cases h with
  | upgraded metadata response h => exact List.forall_mem_cons.mpr ⟨trivial, hreaction h⟩
  | decoded h => exact hreaction h
  | _ => simp [Event.IsExpected]

theorem amountOf_unclassified (h : Bill before action after events) :
    amountOf (.classified .unclassified) events = 0 := by
  cases h with
  | upgraded metadata response h | decoded h => cases h <;> rfl
  | _ => rfl

theorem amountOf_native (h : Bill before action after events) :
    (if after = .native then 1 else 0) =
      (if before = .native then 1 else 0) + amountOf (.classified .native) events := by
  cases h with
  | upgraded metadata response h | decoded h => cases h <;> rfl
  | _ => rfl

theorem amountOf_upgraded (h : Bill before action after events) :
    amountOf (.classified .websocket) events = if action.isUpgrade then 1 else 0 := by
  cases h with
  | upgraded metadata response h | decoded h => cases h <;> rfl
  | _ => rfl

theorem amountOf_rejected (h : Bill before action after events) :
    amountOf .rejected events = if action.hasFarewell then 1 else 0 := by
  cases h with
  | upgraded metadata response h | decoded h => cases h <;> rfl
  | _ => rfl

theorem amountOf_forwarded (h : Bill before action after events) (protocol : Protocol) :
    amountOf (.forwarded protocol) events =
      if after = protocol then action.payload.length else 0 := by
  have hreaction {reaction : Reaction} {events : List Event} (h : reaction.Bill events) :
      amountOf (.forwarded protocol) events =
        if .websocket = protocol then reaction.payload.length else 0 := by
    cases h <;> cases protocol <;> simp [Event.amountOf, Event.item, Event.amount, Reaction.payload]
  cases h with
  | upgraded metadata response h =>
      rw [amountOf_cons, hreaction h, Action.payload_upgrade]
      exact Nat.zero_add _
  | decoded h => rw [hreaction h, Reaction.payload_action]
  | ended | _ =>
      cases protocol <;> simp [Event.amountOf, Event.item, Event.amount, Action.payload]

end Bill

end Connection

namespace Router

open Connection (Balance Event Exchange amountOf forwarded received)

/-! ## What a life adds -/

/-- The item that counts an outcome of decoding, if it ends the connection. -/
def ending? : Except Fault Frame.Outcome → Option Item
  | .ok .close => some .closeFrame
  | .error fault => some (.decodeError fault.code)
  | .ok _ => none

theorem ending?_eq_none {outcome : Except Fault Frame.Outcome} (h : ¬ Frame.isFinal outcome) :
    ending? outcome = none := by
  rcases outcome with fault | (⟨payload, consumed, count⟩ | _ | _)
  · exact absurd rfl h
  · rfl
  · rfl
  · exact absurd rfl h

/-- Of the numbers of what ends the frames, the reaction adds to the one that its outcome is counted
by. -/
theorem amountOf_react {item : Item} (hitem : item.IsClosing) (lifecycle : Lifecycle)
    (outcome : Except Fault Frame.Outcome) :
    amountOf item (Connection.react lifecycle outcome).2.2 =
      if ending? outcome = some item then 1 else 0 := by
  rcases outcome with fault | (⟨payload, consumed, count⟩ | _ | _)
  · by_cases hfault : Item.decodeError fault.code = item <;>
      simp [Connection.react, ending?, Event.amountOf, Event.item, Event.amount, hfault]
  · have hforwarded : Item.forwarded .websocket ≠ item := by
      rintro rfl
      exact hitem
    by_cases hnothing : payload = [] <;>
      simp [Connection.react, ending?, Event.amountOf, Event.item, hnothing, hforwarded]
  · rfl
  · by_cases hclose : Item.closeFrame = item <;>
      simp [Connection.react, ending?, Event.amountOf, Event.item, Event.amount, hclose]

/-- What is decoded ends an upgraded connection exactly if it is final. -/
theorem shape_react (outcome : Except Fault Frame.Outcome) (decoder : Frame.Decoder)
    (metadata : Metadata) :
    Connection.shape ⟨(Connection.react .established outcome).2.1, .websocket decoder, metadata⟩ =
      if Frame.isFinal outcome then .ended else .upgraded := by
  rcases outcome with fault | (⟨payload, consumed, count⟩ | _ | _)
  · rfl
  · by_cases hnothing : payload = [] <;>
      simp [Connection.react, Connection.shape, Frame.isFinal, hnothing]
  · rfl
  · rfl

namespace Life

/-- The bytes behind the head of the request. -/
def stream (life : Life) : Bytes :=
  (received life.exchanges).drop
    ((headLength? (received life.exchanges)).getD (received life.exchanges).length)

/-- What has ended the frames of an upgraded connection. -/
def ended? (limits : Frame.Limits) (life : Life) : Option Item :=
  if life.connection.shape = .ended then ending? (Frame.decode limits life.stream) else none

/-- What a life adds to an item. -/
def adds (limits : Frame.Limits) (life : Life) : Item → ℕ
  | .classified .unclassified => 0
  | .classified .native => if life.connection.protocol = .native then 1 else 0
  | .classified .websocket => life.exchanges.countP fun exchange => exchange.action.isUpgrade
  | .rejected => life.exchanges.countP fun exchange => exchange.action.hasFarewell
  | .forwarded protocol =>
      if life.connection.protocol = protocol then (forwarded life.exchanges).length else 0
  | .closeFrame => if life.ended? limits = some .closeFrame then 1 else 0
  | .decodeError code => if life.ended? limits = some (.decodeError code) then 1 else 0

/-- The frames of an upgraded connection are decided by what came in. -/
def Decided (limits : Frame.Limits) (life : Life) : Prop :=
  ∃ length result position, HeadEnds (received life.exchanges) length ∧
    Frame.Decided limits life.stream result position

/-- What holds of every life. -/
structure Sound (limits : Frame.Limits) (life : Life) : Prop where
  balance : Balance limits (received life.exchanges) (forwarded life.exchanges) life.connection
  silent : life.connection.protocol = .unclassified → forwarded life.exchanges = []
  decided : life.connection.shape = .ended → life.Decided limits

variable {limits : Frame.Limits} {life : Life} {settings : Connection.Settings}

theorem stream_eq {length : Nat} (hends : HeadEnds (received life.exchanges) length) :
    life.stream = (received life.exchanges).drop length := by
  rw [stream, Handshake.headLength?_eq_some_iff.mpr hends, Option.getD_some]

theorem ended?_of_shape (h : life.connection.shape ≠ .ended) : life.ended? limits = none :=
  if_neg h

/-- A life goes on as `later`, with events that count what has ended its frames. -/
structure Continues (limits : Frame.Limits) (life later : Life) (events : List Event) : Prop where
  decided : later.connection.shape = .ended → later.Decided limits
  closing : ∀ item : Item, item.IsClosing → (if later.ended? limits = some item then 1 else 0) =
    (if life.ended? limits = some item then 1 else 0) + amountOf item events

namespace Continues

variable {later : Life} {events : List Event}

/-- What ended the frames stays as it is when more comes in. -/
theorem of_same (h : life.Sound limits) {chunk : Bytes}
    (hconnection : later.connection = life.connection)
    (hreceived : received later.exchanges = received life.exchanges ++ chunk) :
    Continues limits life later [] := by
  by_cases hshape : life.connection.shape = .ended
  · obtain ⟨length, result, position, hends, hdecided⟩ := h.decided hshape
    have hmore : HeadEnds (received later.exchanges) length := by
      rw [hreceived]
      exact hends.append chunk
    have hlater : Frame.Decided limits later.stream result position := by
      rw [stream_eq hmore, hreceived, List.drop_append_of_le_length hends.length_le,
        ← stream_eq hends]
      exact hdecided.append chunk
    refine ⟨fun _ => ⟨length, result, position, hmore, hlater⟩, fun item _ => ?_⟩
    rw [ended?, ended?, hconnection, hlater.decode_eq, hdecided.decode_eq]
    rfl
  · refine ⟨fun hended => absurd (hconnection ▸ hended) hshape, fun item _ => ?_⟩
    rw [ended?_of_shape hshape, ended?_of_shape (hconnection ▸ hshape)]
    rfl

/-- A connection without frames ends none. -/
theorem of_apart (hbefore : life.connection.shape ≠ .ended)
    (hafter : later.connection.shape ≠ .ended)
    (hevents : ∀ item : Item, item.IsClosing → amountOf item events = 0) :
    Continues limits life later events := by
  refine ⟨fun hended => absurd hended hafter, fun item hitem => ?_⟩
  rw [ended?_of_shape hbefore, ended?_of_shape hafter, hevents item hitem]
  rfl

/-- Bytes that are decoded behind complete frames end the connection, or leave it open. -/
theorem of_react (hbefore : life.connection.shape ≠ .ended) {head input : Bytes}
    {frames : List Frame} {decoder : Frame.Decoder} {metadata : Metadata}
    (hends : HeadEnds (received later.exchanges) head.length)
    (hlegal : Frame.AllLegal limits frames)
    (hreceived : received later.exchanges = head ++ (Frame.wires frames ++ input))
    (hconnection : later.connection =
      ⟨(Connection.react .established (Frame.decode limits input)).2.1, .websocket decoder,
        metadata⟩)
    (hevents : ∀ item : Item, item.IsClosing → amountOf item events =
      amountOf item (Connection.react .established (Frame.decode limits input)).2.2) :
    Continues limits life later events := by
  have hstream : later.stream = Frame.wires frames ++ input := by
    rw [stream_eq hends, hreceived, List.drop_left]
  have hshape : later.connection.shape =
      if Frame.isFinal (Frame.decode limits input) then .ended else .upgraded := by
    rw [hconnection]
    exact shape_react _ _ _
  by_cases hfinal : Frame.isFinal (Frame.decode limits input)
  · -- complete frames in front do not change what ends the connection
    obtain ⟨position, hdecided⟩ := Frame.exists_decided hfinal
    have hwhole := hdecided.wires_append hlegal
    rw [← hstream] at hwhole
    refine ⟨fun _ => ⟨_, _, _, hends, hwhole⟩, fun item hitem => ?_⟩
    rw [ended?, hshape, if_pos hfinal, if_pos rfl, hwhole.decode_eq, ended?_of_shape hbefore,
      hevents item hitem, amountOf_react hitem]
    exact (Nat.zero_add _).symm
  · rw [if_neg hfinal] at hshape
    have hopen : later.connection.shape ≠ .ended := by
      rw [hshape]
      exact Connection.Shape.noConfusion
    refine of_apart hbefore hopen fun item hitem => ?_
    rw [hevents item hitem, amountOf_react hitem, ending?_eq_none hfinal]
    rfl

end Continues

private theorem continues_becameNative (hbefore : life.connection.shape ≠ .ended)
    (exchanges : List Exchange) (bytes : Bytes) :
    Continues limits life ⟨exchanges, (Connection.becomeNative life.connection bytes).connection⟩
      (Connection.becomeNative life.connection bytes).events := by
  refine .of_apart hbefore Connection.Shape.noConfusion fun item hitem => ?_
  exact Connection.amountOf_eq_zero hitem
    (by simp [Connection.becomeNative, Event.item, Item.IsClosing])

theorem continues_next (h : life.Sound settings.limits) (isEnabled : String → Bool)
    (chunk : Bytes) :
    Continues settings.limits life (life.next settings isEnabled chunk)
      (life.connection.receive settings isEnabled chunk).events := by
  have hmove := Connection.receive_move settings isEnabled life.connection chunk
  unfold next
  generalize life.connection.receive settings isEnabled chunk = step at hmove ⊢
  have hwaiting {buffer : Bytes} (hopen : life.connection.lifecycle ≠ .closed)
      (hstate : life.connection.state = .unclassified buffer) :
      life.connection.shape ≠ .ended := by
    rw [Connection.shape_eq_waiting hstate hopen]
    exact Connection.Shape.noConfusion
  cases hmove with
  | ended hclosed => exact .of_same h rfl Connection.received_concat
  | @waited buffer hopen hstate =>
      obtain ⟨hlifecycle, -, -⟩ := h.balance.of_unclassified hopen hstate
      have hafter : Connection.shape
          { life.connection.awake with state := .unclassified (buffer ++ chunk) } = .waiting :=
        Connection.shape_eq_waiting rfl (by simp [hlifecycle])
      refine .of_apart (hwaiting hopen hstate) ?_ fun _ _ => rfl
      rw [hafter]
      exact Connection.Shape.noConfusion
  | turnedNative hopen hstate => exact continues_becameNative (hwaiting hopen hstate) _ _
  | @answered buffer length hopen hstate hagree hends =>
      obtain ⟨-, rfl, -⟩ := h.balance.of_unclassified hopen hstate
      rcases Handshake.negotiate isEnabled _ with (flaw | path) | request
      · exact continues_becameNative (hwaiting hopen hstate) _ _
      · refine .of_apart (hwaiting hopen hstate) Connection.Shape.noConfusion fun item hitem => ?_
        exact Connection.amountOf_eq_zero hitem
          (by simp [Connection.answer, Connection.reject, Event.item, Item.IsClosing])
      · -- all that came in behind the head is decoded, and there are no frames in front of it
        have hlength : ((received life.exchanges ++ chunk).take length).length = length :=
          List.length_take_of_le hends.length_le
        have hsplit : received life.exchanges ++ chunk =
            (received life.exchanges ++ chunk).take length ++
              (Frame.wires [] ++ (received life.exchanges ++ chunk).drop length) :=
          (List.take_append_drop length _).symm
        rw [Connection.answer, Connection.upgrade_eq]
        refine .of_react (hwaiting hopen hstate) ?_ (Frame.allLegal_nil _)
          (Connection.received_concat.trans hsplit) rfl fun item hitem => ?_
        · rw [Connection.received_concat, hlength]
          exact hends
        · have hupgraded : ¬ (Event.upgraded request.metadata).item.IsClosing := id
          rw [Connection.amountOf_cons, Event.amountOf_eq_zero hitem hupgraded]
          exact Nat.zero_add _
  | copied hopen hstate =>
      have hnative {connection : Connection} (h : connection.state = .native) :
          connection.shape ≠ .ended := by
        rw [Connection.shape_eq_native h]
        exact Connection.Shape.noConfusion
      refine .of_apart (hnative hstate) (hnative (by rw [Connection.awake_state, hstate])) ?_
      intro item hitem
      exact Connection.amountOf_eq_zero hitem (by simp [Event.item, Item.IsClosing])
  | @decoded decoder hopen hstate =>
      obtain ⟨hlifecycle, head, frames, hends, hlegal, hbytes, -⟩ :=
        h.balance.of_websocket hopen hstate
      have hbefore : life.connection.shape ≠ .ended := by
        rw [Connection.shape_eq_upgraded hstate hopen]
        exact Connection.Shape.noConfusion
      have hsplit : received life.exchanges ++ chunk =
          head ++ (Frame.wires frames ++ (decoder.pending ++ chunk)) := by
        rw [hbytes, List.append_assoc, List.append_assoc]
      rw [Connection.awake_of_established hlifecycle, Connection.receiveFrames_eq, hlifecycle]
      refine .of_react hbefore ?_ hlegal (Connection.received_concat.trans hsplit) rfl
        fun _ _ => rfl
      rw [Connection.received_concat]
      exact hends.append chunk

theorem bill_next (life : Life) (settings : Connection.Settings) (isEnabled : String → Bool)
    (chunk : Bytes) :
    ∃ action, (life.next settings isEnabled chunk).exchanges =
        life.exchanges ++ [⟨chunk, action⟩] ∧
      Connection.Bill life.connection.protocol action
        (life.next settings isEnabled chunk).connection.protocol
        (life.connection.receive settings isEnabled chunk).events :=
  ⟨_, rfl, Connection.receive_bill settings isEnabled life.connection chunk⟩

theorem Sound.new (limits : Frame.Limits) : Life.new.Sound limits :=
  ⟨.new limits, fun _ => rfl, nofun⟩

theorem Sound.next (h : life.Sound settings.limits) (isEnabled : String → Bool) (chunk : Bytes) :
    (life.next settings isEnabled chunk).Sound settings.limits := by
  refine ⟨?_, fun hprotocol => ?_, (continues_next h isEnabled chunk).decided⟩
  · have hbalance := h.balance.receive isEnabled chunk
    rw [← Connection.received_concat, ← Connection.forwarded_concat] at hbalance
    exact hbalance
  · obtain ⟨action, hexchanges, hbill⟩ := bill_next life settings isEnabled chunk
    rw [hprotocol] at hbill
    have hbefore : life.connection.protocol = .unclassified := by
      rcases hbill.protocol_eq with hsame | hbefore
      · exact hsame.symm
      · exact hbefore
    rw [hexchanges, Connection.forwarded_concat, h.silent hbefore, hbill.silent]
    rfl

theorem adds_new (limits : Frame.Limits) (item : Item) : Life.new.adds limits item = 0 := by
  cases item with
  | classified protocol => cases protocol <;> rfl
  | forwarded protocol => exact ite_self 0
  | rejected | closeFrame | decodeError => rfl

/-- One more chunk adds what its events amount to. -/
theorem adds_next (h : life.Sound settings.limits) (isEnabled : String → Bool) (chunk : Bytes)
    (item : Item) :
    (life.next settings isEnabled chunk).adds settings.limits item =
      life.adds settings.limits item +
        amountOf item (life.connection.receive settings isEnabled chunk).events := by
  have hclosing := (continues_next h isEnabled chunk).closing item
  obtain ⟨action, hexchanges, hbill⟩ := bill_next life settings isEnabled chunk
  cases item with
  | classified protocol =>
      cases protocol with
      | unclassified =>
          rw [hbill.amountOf_unclassified]
          rfl
      | native => exact hbill.amountOf_native
      | websocket =>
          rw [adds, hexchanges, List.countP_append, List.countP_singleton, hbill.amountOf_upgraded]
          rfl
  | rejected =>
      rw [adds, hexchanges, List.countP_append, List.countP_singleton, hbill.amountOf_rejected]
      rfl
  | forwarded protocol =>
      rw [adds, adds, hexchanges, Connection.forwarded_concat, List.length_append,
        hbill.amountOf_forwarded]
      rcases hbill.protocol_eq with hsame | hbefore
      · rw [hsame]
        split_ifs <;> rfl
      · -- nothing was handed on before the protocol was known
        rw [h.silent hbefore, List.length_nil, Nat.zero_add, ite_self, Nat.zero_add]
  | closeFrame => exact hclosing trivial
  | decodeError code => exact hclosing trivial

theorem ended?_eq_closeFrame_iff : life.ended? limits = some .closeFrame ↔
    life.connection.shape = .ended ∧ Frame.decode limits life.stream = .ok .close := by
  unfold ended?
  split_ifs with hshape
  · rw [and_iff_right hshape]
    rcases Frame.decode limits life.stream with fault | (⟨payload, consumed, count⟩ | _ | _) <;>
      simp [ending?]
  · simp [hshape]

/-- An upgraded connection has ended by a close frame, or by a length that was refused. -/
theorem Sound.adds_closing (h : life.Sound limits) :
    life.adds limits .closeFrame + life.adds limits (.decodeError "OVERSIZED_FRAME") =
      if life.connection.shape = .ended then 1 else 0 := by
  by_cases hshape : life.connection.shape = .ended
  · obtain ⟨length, result, position, hends, hdecided⟩ := h.decided hshape
    have hresult := hdecided.decode_eq
    rw [adds, adds, ended?, if_pos hshape, hresult, if_pos hshape]
    rcases result with fault | (⟨payload, consumed, count⟩ | _ | _)
    · obtain ⟨_, _, _, _, refused, _, rfl⟩ := Frame.decode_eq_error_iff.mp hresult
      rfl
    · cases hdecided.isFinal
    · cases hdecided.isFinal
    · rfl
  · rw [adds, adds, ended?_of_shape hshape, if_neg hshape]
    rfl

end Life

/-! ## Whole runs -/

variable {router : Router}

theorem sound_current {id : ConnectionId} (habsent : router.connections[id]? = none)
    (inputs : List Input) : ((run router inputs).current id).Sound router.settings.limits :=
  run_invariant
    (fun exchanges connection => Life.Sound router.settings.limits ⟨exchanges, connection⟩)
    (.new _) (fun isEnabled _ _ chunk h => h.next isEnabled chunk) habsent inputs

theorem sound_lives (hempty : router.connections = ∅) {inputs : List Input} {life : Life}
    (h : life ∈ lives router inputs) : life.Sound router.settings.limits := by
  obtain ⟨before, id, -, rfl⟩ := exists_prefix_of_mem_lives h
  exact sound_current (absent_of_empty hempty id) before

theorem number_run (hempty : router.connections = ∅) (inputs : List Input) (item : Item) :
    (run router inputs).router.metrics.number item = router.metrics.number item +
      UInt64.ofNat
        ((lives router inputs).map fun life => life.adds router.settings.limits item).sum := by
  induction inputs using List.reverseRecOn with
  | nil =>
      rw [lives_nil hempty]
      exact (UInt64.add_zero _).symm
  | append_singleton inputs input ih =>
      rw [run_concat]
      cases input with
      | close id =>
          rw [((lives_close router inputs id).map _).sum_eq, ← ih]
          exact congrArg (Metrics.number · item) (close_metrics _ id)
      | setEnabled app enabled =>
          rw [lives_setEnabled]
          exact ih
      | receive id chunk =>
          have habsent := absent_of_empty hempty id
          have hadds := Life.adds_next (sound_current habsent inputs)
            (run router inputs).router.scopes.isEnabled chunk item
          have hsum := sum_lives_receive habsent inputs chunk
            (fun life => life.adds router.settings.limits item) (Life.adds_new _ item)
            (by rwa [run_settings])
          have hmetrics : ((run router inputs).step (.receive id chunk)).router.metrics = _ :=
            receive_metrics (run router inputs).router id chunk
          rw [hsum, hmetrics, number_foldl_count, ih, UInt64.ofNat_add, UInt64.add_assoc,
            run_settings]
          rfl

theorem isLabelled_run (h : IsLabelled router.metrics) (inputs : List Input) :
    IsLabelled (run router inputs).router.metrics := by
  induction inputs using List.reverseRecOn with
  | nil => exact h
  | append_singleton inputs input ih =>
      rw [run_concat]
      cases input with
      | close id =>
          rw [History.step]
          exact (close_metrics _ id).symm ▸ ih
      | setEnabled app enabled => exact ih
      | receive id chunk =>
          have hmetrics : ((run router inputs).step (.receive id chunk)).router.metrics =
            _ := receive_metrics (run router inputs).router id chunk
          rw [hmetrics]
          exact ih.foldl_count (Connection.receive_bill _ _ _ _).expected

private theorem sum_ite_eq_countP {Holds : Life → Prop} [DecidablePred Holds] (lives : List Life) :
    (lives.map fun life => if Holds life then 1 else 0).sum =
      lives.countP fun life => Holds life := by
  simp [List.sum_map_ite, List.countP_eq_length_filter]

/-- **The metrics account for the actions.**  After every run over a router that is new, the metrics
have, modulo the size of a machine word,

* as connections classified as native, the lives that speak the native protocol, and as those
  classified as WebSocket, the upgrades returned;
* as requests turned down, the farewells returned;
* as bytes handed on under each protocol, the lengths of all payloads returned to lives that speak
  it, those behind a request included;
* as close frames, the upgraded lives whose frames were ended by one, and as those and the refused
  lengths together, the upgraded lives that have ended before they were dropped.

There are no numbers under other labels, and no more lives and no more actions than inputs. -/
theorem run_metrics (settings : Connection.Settings) (scopes : Scope.Registry)
    (inputs : List Input) :
    let history := run { settings, scopes } inputs
    let metrics := history.router.metrics
    let lives := lives { settings, scopes } inputs
    metrics.classifications.get [("kind", "native")] =
      .ofNat (lives.countP fun life => life.connection.protocol = .native) ∧
    metrics.classifications.get [("kind", "websocket")] =
      .ofNat (history.exchanged.countP fun exchange => exchange.action.isUpgrade) ∧
    metrics.rejections.get [("reason", "scope")] =
      .ofNat (history.exchanged.countP fun exchange => exchange.action.hasFarewell) ∧
    (∀ protocol : Protocol, metrics.forwarded.get [("kind", protocol.label)] =
      .ofNat ((lives.filter fun life => life.connection.protocol = protocol).map fun life =>
        (forwarded life.exchanges).length).sum) ∧
    metrics.closeFrames.get [] =
      .ofNat (lives.countP fun life => life.connection.shape = .ended ∧
        Frame.decode settings.limits life.stream = .ok .close) ∧
    metrics.closeFrames.get [] + metrics.decodeErrors.get [("code", "OVERSIZED_FRAME")] =
      .ofNat (lives.countP fun life => life.connection.shape = .ended) ∧
    IsLabelled metrics ∧
    lives.length ≤ inputs.length ∧ history.exchanged.length ≤ inputs.length := by
  intro history metrics lives
  have hempty : ({ settings, scopes } : Router).connections = ∅ := rfl
  have hnumber (item : Item) : metrics.number item =
      UInt64.ofNat ((lives.map fun life => life.adds settings.limits item).sum) := by
    have hsum : metrics.number item = _ := number_run hempty inputs item
    rw [hsum, number_new, UInt64.zero_add]
  have hexchanged (counts : Exchange → Bool) :
      (lives.map fun life => life.exchanges.countP counts).sum =
        history.exchanged.countP counts := by
    rw [← (flatMap_exchanges_lives hempty inputs).countP_eq, List.countP_flatMap]
    rfl
  refine ⟨?_, ?_, ?_, fun protocol => ?_, ?_, ?_, isLabelled_run .new inputs,
    length_lives_le hempty inputs, length_exchanged_le _ inputs⟩
  · rw [← sum_ite_eq_countP]
    exact hnumber (.classified .native)
  · rw [← hexchanged]
    exact hnumber (.classified .websocket)
  · rw [← hexchanged]
    exact hnumber .rejected
  · have hsum : (lives.map fun life => life.adds settings.limits (.forwarded protocol)).sum =
        ((lives.filter fun life => life.connection.protocol = protocol).map fun life =>
          (forwarded life.exchanges).length).sum := by
      simp [Life.adds, List.sum_map_ite]
    rw [← hsum]
    exact hnumber (.forwarded protocol)
  · have hcloses := hnumber .closeFrame
    simp only [Life.adds, sum_ite_eq_countP, Life.ended?_eq_closeFrame_iff] at hcloses
    exact hcloses
  · have hclosing : (lives.map fun life => life.adds settings.limits .closeFrame).sum +
        (lives.map fun life => life.adds settings.limits (.decodeError "OVERSIZED_FRAME")).sum =
        lives.countP fun life => life.connection.shape = .ended := by
      rw [← List.sum_map_add, ← sum_ite_eq_countP]
      refine congrArg List.sum (List.map_congr_left fun life hmem => ?_)
      exact (sound_lives hempty hmem).adds_closing
    rw [← hclosing, UInt64.ofNat_add, ← hnumber, ← hnumber]
    rfl

end Router

end SharedListener
