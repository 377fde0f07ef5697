/-
A printer on the transport that exists only in memory.

Pictures are fetched in a world of their own, beside that of the transport.
Between operations the transport can be provoked: the user answers the
prompt, the adapter is switched on or off, the next open or all writes are
made to fail, and what was written so far is forgotten.
-/
import ReceiptPrinter.Session.Life
import ReceiptPrinter.Transport.Memory

namespace ReceiptPrinter

/-- A step of one world in a world that holds another one beside it. -/
def StateM.inFirst {W F α : Type} (step : StateM W α) : StateM (W × F) α := fun (w, f) =>
  let (a, w) := step w
  (a, (w, f))

/-- A step of the other world. -/
def StateM.inSecond {W F α : Type} (step : StateM F α) : StateM (W × F) α := fun (w, f) =>
  let (a, f) := step f
  (a, (w, f))

/-- A transport in a world that holds something else too. -/
def Backend.beside {W ι κ ρ : Type} (F : Type) (b : Backend (StateM W) ι κ ρ) :
    Backend (StateM (W × F)) ι κ ρ where
  kind := b.kind
  narrow := b.narrow
  prepare := StateM.inFirst b.prepare
  devices := StateM.inFirst b.devices
  connect id := StateM.inFirst (b.connect id)
  poll request := StateM.inFirst (b.poll request)
  write channel chunk := StateM.inFirst (b.write channel chunk)
  flush channel := StateM.inFirst (b.flush channel)
  close channel := StateM.inFirst (b.close channel)

namespace Memory

/-- Something that is done to the transport from outside. -/
inductive Provocation where
  /-- The user answers the prompt. -/
  | answer (granted : Bool)
  /-- The adapter is switched on or off. -/
  | power (on : Bool)
  | failNextOpen (reason : PrinterError)
  | failWrites (fail : Bool)
  /-- What was written so far is forgotten. -/
  | clear

/-- The world after a provocation. -/
def Provocation.apply : Provocation → World → World
  | answer granted, w => w.answer granted
  | power on, w => { w with ready := on }
  | failNextOpen reason, w => { w with armed := some reason }
  | failWrites fail, w => { w with failWrites := fail }
  | clear, w => { w with chunks := [] }

variable {F : Type}

def printer (kind : TransportKind) (settings : Settings)
    (fetch : String → StateM F (Outcome PixelMatrix)) :
    Printer (StateM (World × F)) DeviceIdentity Nat Request where
  backend := (backend kind).beside F
  settings := settings
  fetch locator := StateM.inSecond (fetch locator)

/-- What provocations do to the world of a printer in memory. -/
def provoke (provocation : Provocation) : World × F → World × F := fun (w, f) =>
  (provocation.apply w, f)

end Memory

end ReceiptPrinter
