/-
What a transport was asked to do.

A journal is kept in front of a backend. It numbers the channels in the
order in which they were opened and notes every attempt to open a device
and everything asked of a channel, together with how it went. The backend
itself notices nothing.
-/
import ReceiptPrinter.Transport.Backend

namespace ReceiptPrinter

/-- Something asked of a transport, and how it went. -/
inductive Deed (ι : Type) where
  /-- A channel to the device was opened. -/
  | opened (id : ι) (number : Nat)
  /-- The user has to be asked for access to the device. -/
  | prompted (id : ι)
  /-- The device could not be opened. -/
  | refused (id : ι) (reason : PrinterError)
  | wrote (number : Nat) (chunk : Bytes) (result : Outcome Unit)
  | flushed (number : Nat) (result : Outcome Unit)
  | closed (number : Nat)

/-- The deeds so far, in order, and the number of the next channel. -/
structure Journal (ι : Type) where
  deeds : List (Deed ι)
  next : Nat

/-- A channel with its number. -/
structure Numbered (κ : Type) where
  number : Nat
  channel : κ

namespace Deed

variable {ι : Type}

/-- The open channels after a deed, when `channels` were open before it. -/
def track (channels : List Nat) : Deed ι → List Nat
  | opened _ number => channels ++ [number]
  | closed number => channels.filter (· ≠ number)
  | _ => channels

/-- The channels that were opened and not closed again. -/
def unclosed (deeds : List (Deed ι)) : List Nat := deeds.foldl track []

/-- Whether a deed is something asked of an open channel, other than to
close. -/
def isTransfer : Deed ι → Bool
  | wrote _ _ _ | flushed _ _ => true
  | opened _ _ | prompted _ | refused _ _ | closed _ => false

/-- Whether a deed is an attempt to open a device. -/
def isAttempt : Deed ι → Bool
  | opened _ _ | prompted _ | refused _ _ => true
  | wrote _ _ _ | flushed _ _ | closed _ => false

/-- The chunk that the other end of a channel received by a deed, and the
number of the channel. -/
def received? : Deed ι → Option (Nat × Bytes)
  | wrote number chunk (.ok _) => some (number, chunk)
  | _ => none

/-- Whether a deed is in order after the deeds `before`. A device is opened
only while no channel is open, and what is opened is a new channel; nothing
is asked of a channel but between its opening and its closing. -/
def InOrder (before : List (Deed ι)) : Deed ι → Prop
  | opened _ number => unclosed before = [] ∧ ∀ id, opened id number ∉ before
  | prompted _ | refused _ _ => unclosed before = []
  | wrote number _ _ | flushed number _ | closed number =>
    number ∈ unclosed before ∧ closed number ∉ before

end Deed

namespace Journal

variable {ι κ ρ W E : Type}

/-- Every deed was in order when it was done. -/
def Orderly (j : Journal ι) : Prop :=
  ∀ before deed after, j.deeds = before ++ deed :: after → deed.InOrder before

/-- What the open channels were asked to do, other than to close. -/
def transfers (j : Journal ι) : List (Deed ι) := j.deeds.filter Deed.isTransfer

/-- The chunks that were received, each with the number of its channel. -/
def received (j : Journal ι) : List (Nat × Bytes) := j.deeds.filterMap Deed.received?

/-- A journal in which nothing is noted yet. -/
def blank : Journal ι := ⟨[], 0⟩

/-- The journal with one deed more. -/
def note (j : Journal ι) (deed : Deed ι) : Journal ι := { j with deeds := j.deeds ++ [deed] }

/-- Notes an attempt to open a device, and numbers the channel. -/
def noteOpen (id : ι) (journal : Journal ι) :
    Outcome (DeviceRecord × Link κ ρ) →
      Outcome (DeviceRecord × Link (Numbered κ) ρ) × Journal ι
  | .ok (record, .channel channel) =>
    (.ok (record, .channel ⟨journal.next, channel⟩),
     { journal.note (.opened id journal.next) with next := journal.next + 1 })
  | .ok (record, .request request) =>
    (.ok (record, .request request), journal.note (.prompted id))
  | .error reason => (.error reason, journal.note (.refused id reason))

/-- A step of the world of which nothing is noted. -/
def aside {α : Type} (step : StateM W α) : StateM (W × Journal ι) α := fun (w, journal) =>
  let (a, w) := step w
  (a, (w, journal))

/-- A change of the world from outside, of which nothing is noted. -/
def beside (nature : E → W → W) (change : E) : W × Journal ι → W × Journal ι :=
  fun (w, journal) => (nature change w, journal)

/-- A step of the world, noted with its result. -/
def noting {α : Type} (step : StateM W α) (deed : α → Deed ι) : StateM (W × Journal ι) α :=
  fun (w, journal) =>
    let (a, w) := step w
    (a, (w, journal.note (deed a)))

end Journal

/-- A transport with a journal of what it is asked to do. -/
def Backend.journaled {W ι κ ρ : Type} (b : Backend (StateM W) ι κ ρ) :
    Backend (StateM (W × Journal ι)) ι (Numbered κ) ρ where
  kind := b.kind
  narrow := b.narrow
  prepare := Journal.aside b.prepare
  devices := Journal.aside b.devices
  connect id := fun (w, journal) =>
    let (outcome, w) := b.connect id w
    let (outcome, journal) := journal.noteOpen id outcome
    (outcome, (w, journal))
  poll request := Journal.aside (b.poll request)
  write c chunk := Journal.noting (b.write c.channel chunk) (.wrote c.number chunk)
  flush c := Journal.noting (b.flush c.channel) (.flushed c.number)
  close c := Journal.noting (b.close c.channel) fun _ => .closed c.number

end ReceiptPrinter
