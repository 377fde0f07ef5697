/-
What a transport did for each thing that it was asked.

A transport whose machine keeps a record can tell which part of the record
belongs to which request. A passage is one thing asked of the transport,
together with the errands that the machine was sent on for it; a chronicle
is the row of all passages.
-/
import ReceiptPrinter.Record
import ReceiptPrinter.Transport.Backend

namespace ReceiptPrinter

/-- Something asked of a transport; for an attempt to open a device, also
whether it succeeded. -/
inductive Asked (ι : Type) where
  | prepare
  | devices
  | connect (id : ι) (outcome : Outcome Unit)
  | poll
  | write
  | flush
  | close

/-- Whether a device was to be opened. -/
def Asked.isConnect {ι : Type} : Asked ι → Bool
  | connect _ _ => true
  | prepare | devices | poll | write | flush | close => false

/-- Something asked of a transport, and what the machine did for it. -/
structure Passage (ι A : Type) where
  asked : Asked ι
  errands : List A

/-- A transport with a chronicle of what it is asked and of what its machine
does for it. -/
def Backend.chronicled {W A ι κ ρ : Type} (b : Backend (StateM (W × List A)) ι κ ρ) :
    Backend (StateM (W × List (Passage ι A))) ι κ ρ where
  kind := b.kind
  narrow := b.narrow
  prepare := Record.gathering b.prepare fun _ => .mk .prepare
  devices := Record.gathering b.devices fun _ => .mk .devices
  connect id := Record.gathering (b.connect id) fun outcome =>
    .mk (.connect id (outcome.map fun _ => ()))
  poll request := Record.gathering (b.poll request) fun _ => .mk .poll
  write c chunk := Record.gathering (b.write c chunk) fun _ => .mk .write
  flush c := Record.gathering (b.flush c) fun _ => .mk .flush
  close c := Record.gathering (b.close c) fun _ => .mk .close

end ReceiptPrinter
