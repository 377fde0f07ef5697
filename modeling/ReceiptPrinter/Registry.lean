/-
All printers of a machine.

Each transport has one printer and one session for the life of the program;
they share the settings and the way pictures are fetched.
-/
import ReceiptPrinter.Bluetooth.Backend
import ReceiptPrinter.Fetch.Picture
import ReceiptPrinter.Net.Backend
import ReceiptPrinter.Session.Operation
import ReceiptPrinter.Transport.Backend

namespace ReceiptPrinter

/-- A machine, as far as printing is concerned. -/
structure Machine (m : Type → Type) (τ σ : Type) where
  bluetooth : Bluetooth.Host m τ
  net : Net.Host m σ
  sources : Fetch.Sources m

/-- The printers of a machine. -/
structure Registry (m : Type → Type) (τ σ : Type) where
  settings : Settings
  machine : Machine m τ σ

/-- The sessions of a machine's printers. -/
structure Sessions (τ σ : Type) where
  ble : Session BleIdentity (Bluetooth.Channel τ) Empty
  usb : Session UsbIdentity Empty Empty
  net : Session NetIdentity σ Empty

/-- The sessions before anything has happened. -/
def Sessions.fresh {τ σ : Type} : Sessions τ σ := ⟨.fresh, .fresh, .fresh⟩

def Sessions.status {τ σ : Type} (s : Sessions τ σ) : TransportKind → SessionStatus
  | .ble => s.ble.connection.status
  | .usb => s.usb.connection.status
  | .net => s.net.connection.status

/-- An operation on a device of any transport, as one on a device of the
printer's own. -/
def Operation.narrow {m : Type → Type} {ι κ ρ : Type} (p : Printer m ι κ ρ) :
    Operation DeviceIdentity → Outcome (Operation ι)
  | .init => .ok .init
  | .list => .ok .list
  | .select device => (p.accept device).map .select
  | .close => .ok .close
  | .closeIf device => (p.accept device).map .closeIf
  | .print job => .ok (.print job)
  | .status => .ok .status

namespace Registry

variable {m : Type → Type} [Monad m] {τ σ : Type}

def bluetooth (r : Registry m τ σ) : Printer m BleIdentity (Bluetooth.Channel τ) Empty :=
  ⟨Bluetooth.backend r.machine.bluetooth r.settings, r.settings, Fetch.picture r.machine.sources⟩

/-- The USB printer, on a machine that has no access to its bus. -/
def usb (r : Registry m τ σ) : Printer m UsbIdentity Empty Empty :=
  ⟨.absent .usb DeviceIdentity.usb? (.adapterNotReady "USB is not available"), r.settings,
   Fetch.picture r.machine.sources⟩

/-- The network printer. -/
def net (r : Registry m τ σ) : Printer m NetIdentity σ Empty :=
  ⟨Net.backend r.machine.net r.settings, r.settings, Fetch.picture r.machine.sources⟩

/-- Carries out an operation on one of several sessions. -/
def within {ι κ ρ : Type} [DecidableEq ι] (p : Printer m ι κ ρ)
    (part : Sessions τ σ → Session ι κ ρ) (put : Sessions τ σ → Session ι κ ρ → Sessions τ σ)
    (operation : Operation DeviceIdentity) : StateT (Sessions τ σ) m (Outcome Reply) := do
  match operation.narrow p with
  | .error e => return .error e
  | .ok operation =>
    let sessions ← get
    let (outcome, session) ← (p.run operation).run (part sessions)
    set (put sessions session)
    return outcome

/-- Carries out an operation on the printer of a transport. -/
def run (r : Registry m τ σ) (kind : TransportKind) (operation : Operation DeviceIdentity) :
    StateT (Sessions τ σ) m (Outcome Reply) :=
  match kind with
  | .ble => within r.bluetooth (·.ble) (fun s session => { s with ble := session }) operation
  | .usb => within r.usb (·.usb) (fun s session => { s with usb := session }) operation
  | .net => within r.net (·.net) (fun s session => { s with net := session }) operation

end Registry

end ReceiptPrinter
