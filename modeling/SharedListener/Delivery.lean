import SharedListener.Connection
import SharedListener.Fault

/-!
# Handing bytes on

Behind a gateway stands a consumer, who gets the bytes of all connections without
their framing, and a notice when a connection is gone.  A `Channel` is a bounded queue
in front of a consumer.  While it is full the sender has to wait, and once the consumer
is gone nothing can be delivered.
-/

namespace SharedListener

/-- One thing that a consumer gets. -/
inductive Delivery where
  /-- Bytes of a connection. -/
  | payload (id : ConnectionId) (protocol : Protocol) (octets : Bytes)
  /-- The connection is gone, and nothing of it follows. -/
  | closed (id : ConnectionId)
deriving DecidableEq, Repr

/-- What is said when a delivery finds no consumer. -/
def Delivery.noConsumer : Fault := .internal "upstream channel closed"

/-- A bounded queue in front of a consumer. -/
structure Channel where
  capacity : Nat
  /-- What waits for the consumer, in order. -/
  waiting : List Delivery := []
  /-- Whether there is a consumer. -/
  isOpen : Bool := true
deriving DecidableEq, Repr

namespace Channel

/-- A channel for at least one delivery at a time. -/
def ofCapacity (capacity : Nat) : Channel :=
  { capacity := max capacity 1 }

/-- What becomes of a delivery. -/
inductive Offer where
  /-- It is in the queue. -/
  | taken (channel : Channel)
  /-- The queue is full. -/
  | full
  /-- There is no consumer. -/
  | refused
deriving DecidableEq, Repr

/-- Puts a delivery into the queue. -/
def offer (channel : Channel) (delivery : Delivery) : Offer :=
  if !channel.isOpen then .refused
  else if channel.waiting.length < channel.capacity then
    .taken { channel with waiting := channel.waiting ++ [delivery] }
  else .full

/-- Takes the next delivery out of the queue. -/
def receive (channel : Channel) : Option Delivery × Channel :=
  match channel.waiting with
  | [] => (none, channel)
  | delivery :: waiting => (some delivery, { channel with waiting })

/-- Takes the consumer away, with all that waits for it. -/
def dropConsumer (channel : Channel) : Channel :=
  { channel with waiting := [], isOpen := false }

end Channel

end SharedListener
