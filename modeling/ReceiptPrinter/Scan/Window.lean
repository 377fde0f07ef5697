/-
A sweep in progress.

Only so many hosts are looked at side by side. The window holds them in the
order of their addresses; a host leaves it when it is the first one and has
been dealt with, so that devices are found in order however long the single
probes take. A host that leaves makes room for the next one.
-/
import ReceiptPrinter.Scan.Sweep

namespace ReceiptPrinter.Scan

open Net (Address)

/-- How a sweep is done: the ports in order, and the size of the window. -/
structure Plan where
  ports : List UInt16
  limit : Nat
  deriving DecidableEq, Repr

/-- A host in the window. -/
inductive Slot where
  /-- A probe of one port is under way; the ports after it are still to be
  tried. -/
  | probing (host : Address) (port : UInt16) (later : List UInt16)
  /-- Nothing is left to be tried. -/
  | settled (device : Option NetIdentity)
  deriving DecidableEq, Repr

namespace Slot

/-- A host on which some ports are to be tried. -/
def start (host : Address) : List UInt16 → Slot
  | [] => settled none
  | port :: later => probing host port later

/-- Whether a probe is under way. -/
def isProbing : Slot → Bool
  | probing _ _ _ => true
  | settled _ => false

/-- The slot after its probe has been answered. -/
def answered (reachable : Bool) : Slot → Slot
  | probing host port later =>
    if reachable then settled (some ⟨host.text, port⟩) else start host later
  | settled device => settled device

end Slot

/-- A sweep in progress: the hosts still to come, those in the window, and
the devices found so far. -/
structure Window where
  waiting : List Address
  slots : List Slot
  found : List NetIdentity
  deriving DecidableEq, Repr

namespace Window

/-- The devices of the settled hosts at the front, and the other slots. -/
def deliver : List Slot → List NetIdentity × List Slot
  | .settled device :: rest =>
    let (found, slots) := deliver rest
    (device.toList ++ found, slots)
  | slots => ([], slots)

/-- Lets settled hosts out and new ones in, as far as there is room. -/
def refill (plan : Plan) : List Address → List Slot → List NetIdentity → Window
  | [], slots, found =>
    let (devices, slots) := deliver slots
    ⟨[], slots, found ++ devices⟩
  | host :: waiting, slots, found =>
    let (devices, slots) := deliver slots
    if slots.length < plan.limit then
      refill plan waiting (slots ++ [.start host plan.ports]) (found ++ devices)
    else ⟨host :: waiting, slots, found ++ devices⟩

/-- The sweep of a network, before any probe has been answered. -/
def start (plan : Plan) (own : Address) : Window := refill plan (hosts own) [] []

/-- The sweep after the probe of a slot has been answered. -/
def answer (plan : Plan) (w : Window) (index : Nat) (reachable : Bool) : Window :=
  refill plan w.waiting (w.slots.modify index (Slot.answered reachable)) w.found

/-- The number of probes under way. -/
def outstanding (w : Window) : Nat := (w.slots.filter Slot.isProbing).length

/-- The probe that has been under way longest: its slot, host and port. -/
def oldest? (w : Window) : Option (Nat × Address × UInt16) :=
  w.slots.zipIdx.findSome? fun (slot, index) =>
    match slot with
    | .probing host port _ => some (index, host, port)
    | .settled _ => none

end Window

end ReceiptPrinter.Scan
