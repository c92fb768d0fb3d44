import Mathlib.Data.UInt
import SharedListener.Proofs.Metrics.Series
import SharedListener.Proofs.Router.Run

/-!
# Counting events

Each event adds to one number, which its item names: the family and the one
label, if there is one.  What a list of events adds to an item is the sum of
their amounts (`amountOf`), modulo the size of a machine word.

The labels that occur are few (`IsLabelled`), since not every event can be
brought about by a connection (`Event.IsExpected`).
-/

namespace SharedListener

theorem Protocol.label_injective : Function.Injective Protocol.label := by
  intro protocol other
  cases protocol <;> cases other <;> decide

/-! ## Items -/

/-- What is counted of connections. -/
inductive Item where
  | classified (protocol : Protocol)
  | rejected
  | forwarded (protocol : Protocol)
  | closeFrame
  | decodeError (code : String)
deriving DecidableEq

/-- Whether an item counts what ends the frames of a connection. -/
def Item.IsClosing : Item → Prop
  | .closeFrame | .decodeError _ => True
  | .classified _ | .rejected | .forwarded _ => False

/-- The number that the metrics have for an item. -/
def Metrics.number (metrics : Metrics) : Item → UInt64
  | .classified protocol => metrics.classifications.get [("kind", protocol.label)]
  | .rejected => metrics.rejections.get [("reason", "scope")]
  | .forwarded protocol => metrics.forwarded.get [("kind", protocol.label)]
  | .closeFrame => metrics.closeFrames.get []
  | .decodeError code => metrics.decodeErrors.get [("code", code)]

namespace Connection

def Event.item : Event → Item
  | .becameNative => .classified .native
  | .upgraded _ => .classified .websocket
  | .rejected => .rejected
  | .forwarded protocol _ => .forwarded protocol
  | .closeFrame => .closeFrame
  | .decodeError fault => .decodeError fault.code

/-- How much an event adds. -/
def Event.amount : Event → ℕ
  | .forwarded _ count => count
  | .becameNative | .upgraded _ | .rejected | .closeFrame | .decodeError _ => 1

/-- What a connection can bring about: nothing is handed on before the protocol is known, and frames
are refused for nothing but their length. -/
def Event.IsExpected : Event → Prop
  | .forwarded protocol _ => protocol ≠ .unclassified
  | .decodeError fault => ∃ length, fault = .oversizedFrame length
  | .becameNative | .upgraded _ | .rejected | .closeFrame => True

def Event.amountOf (item : Item) (event : Event) : ℕ :=
  if event.item = item then event.amount else 0

/-- How much events add to some item. -/
def amountOf (item : Item) (events : List Event) : ℕ :=
  (events.map (Event.amountOf item)).sum

@[simp] theorem amountOf_nil (item : Item) : amountOf item [] = 0 := rfl

@[simp] theorem amountOf_cons (item : Item) (event : Event) (events : List Event) :
    amountOf item (event :: events) = event.amountOf item + amountOf item events :=
  List.sum_cons

theorem Event.amountOf_eq_zero {item : Item} (hitem : item.IsClosing) {event : Event}
    (hevent : ¬ event.item.IsClosing) : event.amountOf item = 0 := by
  refine if_neg ?_
  rintro rfl
  exact hevent hitem

theorem amountOf_eq_zero {item : Item} (hitem : item.IsClosing) {events : List Event}
    (hevents : ∀ event ∈ events, ¬ event.item.IsClosing) : amountOf item events = 0 := by
  induction events with
  | nil => rfl
  | cons event events ih =>
      obtain ⟨hfirst, hrest⟩ := List.forall_mem_cons.mp hevents
      rw [amountOf_cons, Event.amountOf_eq_zero hitem hfirst, ih hrest]

end Connection

namespace Router

open Connection (Event amountOf)

theorem number_count (metrics : Metrics) (event : Event) (item : Item) :
    (count metrics event).number item =
      metrics.number item + UInt64.ofNat (event.amountOf item) := by
  cases event <;> cases item <;>
    simp [count, Metrics.number, Event.amountOf, Event.item, Event.amount, Metrics.Series.increment,
      Metrics.Series.get_add_label, Metrics.Series.get_add, Protocol.label_injective.eq_iff,
      apply_ite UInt64.ofNat]

theorem number_new (item : Item) : ({} : Metrics).number item = 0 := by
  have hget (labels : List Metrics.Label) : Metrics.Series.get (∅ : Metrics.Counter) labels = 0 :=
    Std.ExtTreeMap.getD_empty
  cases item <;> exact hget _

theorem number_foldl_count (metrics : Metrics) (events : List Event) (item : Item) :
    (events.foldl count metrics).number item =
      metrics.number item + UInt64.ofNat (amountOf item events) := by
  induction events generalizing metrics with
  | nil => simp
  | cons event events ih =>
      rw [List.foldl_cons, ih, number_count, Connection.amountOf_cons, UInt64.ofNat_add,
        UInt64.add_assoc]

/-! ## Labels -/

/-- The labels under which a gateway has numbers for connections. -/
structure IsLabelled (metrics : Metrics) : Prop where
  classifications : ∀ labels ∈ metrics.classifications,
    labels = [("kind", "native")] ∨ labels = [("kind", "websocket")]
  rejections : ∀ labels ∈ metrics.rejections, labels = [("reason", "scope")]
  forwarded : ∀ labels ∈ metrics.forwarded,
    labels = [("kind", "native")] ∨ labels = [("kind", "websocket")]
  decodeErrors : ∀ labels ∈ metrics.decodeErrors, labels = [("code", "OVERSIZED_FRAME")]
  closeFrames : ∀ labels ∈ metrics.closeFrames, labels = []

namespace IsLabelled

theorem new : IsLabelled {} := by
  constructor <;> intro labels hmem <;> exact absurd hmem Std.ExtTreeMap.not_mem_empty

theorem count {metrics : Metrics} (h : IsLabelled metrics) {event : Event}
    (hevent : event.IsExpected) : IsLabelled (Router.count metrics event) := by
  have hsingle (name value : String) : Metrics.sortLabels [(name, value)] = [(name, value)] :=
    List.mergeSort_singleton _
  cases event with
  | becameNative =>
      exact { h with
        classifications := Metrics.Series.forall_mem_add h.classifications (.inl (hsingle _ _)) _ }
  | upgraded metadata =>
      exact { h with
        classifications := Metrics.Series.forall_mem_add h.classifications (.inr (hsingle _ _)) _ }
  | rejected =>
      exact { h with
        rejections := Metrics.Series.forall_mem_add h.rejections (hsingle _ _) _ }
  | forwarded protocol count =>
      have hkind : Metrics.sortLabels [("kind", protocol.label)] = [("kind", "native")] ∨
          Metrics.sortLabels [("kind", protocol.label)] = [("kind", "websocket")] := by
        cases protocol with
        | unclassified => exact absurd rfl hevent
        | native => exact .inl (hsingle _ _)
        | websocket => exact .inr (hsingle _ _)
      exact { h with forwarded := Metrics.Series.forall_mem_add h.forwarded hkind _ }
  | closeFrame =>
      exact { h with
        closeFrames := Metrics.Series.forall_mem_add h.closeFrames List.mergeSort_nil _ }
  | decodeError fault =>
      obtain ⟨length, rfl⟩ := hevent
      exact { h with
        decodeErrors := Metrics.Series.forall_mem_add h.decodeErrors (hsingle _ _) _ }

theorem foldl_count {metrics : Metrics} (h : IsLabelled metrics) {events : List Event}
    (hevents : ∀ event ∈ events, event.IsExpected) :
    IsLabelled (events.foldl Router.count metrics) := by
  induction events generalizing metrics with
  | nil => exact h
  | cons event events ih =>
      obtain ⟨hfirst, hrest⟩ := List.forall_mem_cons.mp hevents
      exact ih (h.count hfirst) hrest

end IsLabelled

end Router

end SharedListener
