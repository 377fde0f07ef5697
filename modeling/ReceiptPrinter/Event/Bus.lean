/-
Broadcasting events to subscribers.

A bus keeps the last events, as many as its capacity, which is rounded up
to a power of two. A subscriber sees the events published after it
subscribed, in order. One that falls behind by more than the capacity is
told once how many events it has lost, and goes on with the oldest one
kept. Publishing never waits and never fails.

The bus is modelled by everything ever published; a subscriber is its
position in that log.
-/
import ReceiptPrinter.Event.Basic

namespace ReceiptPrinter

/-- A bus for events: how many it keeps, and all that were published. -/
structure EventBus where
  capacity : Nat
  log : List Event
  deriving DecidableEq, Repr

/-- A subscriber: the number of events that lie behind it. -/
structure Subscriber where
  position : Nat
  deriving DecidableEq, Repr

/-- What a subscriber gets. -/
inductive Receipt where
  | event (e : Event)
  /-- Events were lost, this many. -/
  | lagged (missed : Nat)
  /-- Nothing new. -/
  | empty
  deriving DecidableEq, Repr

namespace EventBus

/-- The events a subscriber may fall behind unless told otherwise. -/
def defaultCapacity : Nat := 64

/-- The least power of two that is at least `n`, searched upwards from
`power`. -/
def powerFrom : Nat → Nat → Nat → Nat
  | 0, power, _ => power
  | fuel + 1, power, n => if n ≤ power then power else powerFrom fuel (2 * power) n

/-- The least power of two that is at least `n`. -/
def roundUp (n : Nat) : Nat := powerFrom n 1 n

/-- A new bus. There is no bus that keeps nothing. -/
def create? (capacity : Nat) : Option EventBus :=
  if capacity = 0 then none else some ⟨roundUp capacity, []⟩

/-- A new bus of the usual capacity. -/
def standard : EventBus := ⟨defaultCapacity, []⟩

/-- The bus after an event has been published. -/
def publish (bus : EventBus) (e : Event) : EventBus := { bus with log := bus.log ++ [e] }

/-- The bus after several events have been published in order. -/
def publishAll (bus : EventBus) (events : List Event) : EventBus :=
  events.foldl publish bus

/-- A new subscriber, which sees only what comes later. -/
def subscribe (bus : EventBus) : Subscriber := ⟨bus.log.length⟩

/-- What a subscriber gets next, and the subscriber afterwards. -/
def receive (bus : EventBus) (s : Subscriber) : Receipt × Subscriber :=
  let behind := bus.log.length - s.position
  if bus.capacity < behind then
    (.lagged (behind - bus.capacity), ⟨bus.log.length - bus.capacity⟩)
  else
    match bus.log[s.position]? with
    | some e => (.event e, ⟨s.position + 1⟩)
    | none => (.empty, s)

end EventBus

end ReceiptPrinter
