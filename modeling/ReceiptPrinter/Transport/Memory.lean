/-
A transport that exists only in memory.

It serves a fixed list of devices and keeps every chunk written to it, so
that the exact bytes of a job can be looked at without a printer. Its world
also holds what can be provoked: an adapter that is switched off, an open
that fails, writes that fail, and a gate in front of which the user must be
asked.

Prompts are numbered. Only the latest one can still be answered; showing a
new one drops the grant of the one before.
-/
import ReceiptPrinter.Transport.Backend

namespace ReceiptPrinter.Memory

/-- The gate in front of the devices: whether access was granted last, and
the prompt that waits for an answer. -/
structure Gate where
  granted : Bool
  pending : Option Nat
  deriving DecidableEq, Repr

/-- All that the transport consists of. -/
structure World where
  kind : TransportKind
  devices : List DeviceRecord
  /-- Every chunk written, in order. -/
  chunks : List Bytes
  /-- Channels opened so far; they are numbered from zero. -/
  opens : Nat
  /-- The channels closed so far, each once. -/
  closed : List Nat
  /-- The answers to all prompts so far, by number. -/
  slots : List Permission.Slot
  ready : Bool
  failWrites : Bool
  /-- The error of the next open. -/
  armed : Option PrinterError
  /-- Empty if access needs no permission. -/
  gate : Option Gate
  deriving DecidableEq, Repr

/-- A request for access: the number of its prompt, and the answer once it
has been seen. -/
structure Request where
  prompt : Nat
  settled : Option Bool
  deriving DecidableEq, Repr

namespace World

/-- A transport on which nothing has happened yet. -/
def fresh (kind : TransportKind) (devices : List DeviceRecord) (gated : Bool) : World where
  kind := kind
  devices := devices
  chunks := []
  opens := 0
  closed := []
  slots := []
  ready := true
  failWrites := false
  armed := none
  gate := if gated then some ⟨false, none⟩ else none

/-- The prompts shown so far. -/
def prompts (w : World) : Nat := w.slots.length

/-- The channels closed so far. -/
def closes (w : World) : Nat := w.closed.length

/-- All bytes written. -/
def bytes (w : World) : Bytes := w.chunks.flatten

/-- The answer slot of a prompt. -/
def slot (w : World) (prompt : Nat) : Permission.Slot := w.slots.getD prompt .closed

/-- The world with another answer slot for a prompt. -/
def setSlot (w : World) (prompt : Nat) (slot : Permission.Slot) : World :=
  { w with slots := w.slots.set prompt slot }

/-- Drops the grant of a prompt that nobody can answer any more. -/
def abandon (w : World) : Option Nat → World
  | some prompt => w.setSlot prompt .closed
  | none => w

/-- The world with a new channel. -/
def openChannel (w : World) : Nat × World := (w.opens, { w with opens := w.opens + 1 })

/-- The world with a new prompt, which takes the place of a pending one. -/
def showPrompt (w : World) (gate : Gate) : Request × World :=
  let w := w.abandon gate.pending
  (⟨w.slots.length, none⟩,
   { w with slots := w.slots ++ [.waiting], gate := some ⟨gate.granted, some w.slots.length⟩ })

/-- The user's answer: it holds for everything to come, and it answers the
pending prompt. -/
def answer (w : World) (granted : Bool) : World :=
  match w.gate with
  | none => w
  | some gate =>
    let w := { w with gate := some ⟨granted, none⟩ }
    match gate.pending with
    | some prompt => w.setSlot prompt (.answered granted)
    | none => w

/-- Whether the transport is switched on. -/
def prepare (w : World) : Outcome Unit :=
  if w.ready then .ok () else .error (.adapterNotReady s!"{w.kind.name} adapter disabled")

/-- Opens a device: first the armed error, then the device list, then the
gate. -/
def connect (w : World) (id : DeviceIdentity) :
    Outcome (DeviceRecord × Link Nat Request) × World :=
  match w.armed with
  | some e => (.error e, { w with armed := none })
  | none =>
    match w.devices.find? (·.identity == id) with
    | none => (.error (.deviceNotFound id.text), w)
    | some record =>
      match w.gate with
      | some gate =>
        if gate.granted then
          let (channel, w) := w.openChannel
          (.ok (record, .channel channel), w)
        else
          let (request, w) := w.showPrompt gate
          (.ok (record, .request request), w)
      | none =>
        let (channel, w) := w.openChannel
        (.ok (record, .channel channel), w)

/-- Where a request stands. -/
def poll (w : World) (r : Request) : (PermissionState × Request) × World :=
  let (settled, slot) := Permission.settle r.settled (w.slot r.prompt)
  ((Permission.stateOf settled, ⟨r.prompt, settled⟩), w.setSlot r.prompt slot)

def write (w : World) (channel : Nat) (chunk : Bytes) : Outcome Unit × World :=
  if w.closed.contains channel then (.error (.ioFailure "channel closed"), w)
  else if w.failWrites then (.error (.ioFailure "broken pipe"), w)
  else (.ok (), { w with chunks := w.chunks ++ [chunk] })

/-- Closes a channel; closing it again does nothing. -/
def close (w : World) (channel : Nat) : World :=
  if w.closed.contains channel then w else { w with closed := w.closed ++ [channel] }

end World

/-- The transport. It takes devices of every sort. -/
def backend (kind : TransportKind) : Backend (StateM World) DeviceIdentity Nat Request where
  kind := kind
  narrow id := some id
  prepare := fun w => (w.prepare, w)
  devices := fun w => (.ok w.devices, w)
  connect id := fun w => w.connect id
  poll r := fun w => w.poll r
  write channel chunk := fun w => w.write channel chunk
  flush _ := fun w => (.ok (), w)
  close channel := fun w => ((), w.close channel)

end ReceiptPrinter.Memory
