/-
A printer behind one transport.

A printer works on its session in steps that no other step interrupts.
Selecting a device keeps the connection if it is bound to that device
already; otherwise the old connection is closed before the new one is
opened. A printing step first looks for the open channel: a connection that
waits for permission is opened again once access is granted, and given up
once it is denied.
-/
import ReceiptPrinter.Session.Connection
import ReceiptPrinter.Settings
import ReceiptPrinter.Picture.Matrix

namespace ReceiptPrinter

/-- A printer: its transport, its tunables, and how pictures are fetched. -/
structure Printer (m : Type → Type) (ι κ ρ : Type) where
  backend : Backend m ι κ ρ
  settings : Settings
  fetch : String → m (Outcome PixelMatrix)

/-- A step on a session, which may fail. What it did before it failed stays
done. -/
abbrev Step (m : Type → Type) (ι κ ρ α : Type) :=
  ExceptT PrinterError (StateT (Session ι κ ρ) m) α

namespace Printer

variable {m : Type → Type} [Monad m] {ι κ ρ : Type}

/-- An effect of the transport that cannot fail. -/
def effect {α : Type} (x : m α) : Step m ι κ ρ α := ExceptT.lift (StateT.lift x)

/-- An effect of the transport that can fail. -/
def attempt {α : Type} (x : m (Outcome α)) : Step m ι κ ρ α := ExceptT.mk (StateT.lift x)

def connection : Step m ι κ ρ (Connection ι κ ρ) := return (← get).connection

/-- Replaces the connection. -/
def setConnection (c : Connection ι κ ρ) : Step m ι κ ρ Unit :=
  modify fun session => { session with connection := c }

/-- What callers are told about the session. -/
def status : Step m ι κ ρ SessionStatus := return (← connection).status

-- =============================================== opening and closing

/-- Checks that the transport is usable. Binds nothing. -/
def init (p : Printer m ι κ ρ) : Step m ι κ ρ Unit := do
  attempt p.backend.prepare
  modify fun session => { session with initialized := true }

/-- Checks that the transport is usable, unless that is known. -/
def ensureInit (p : Printer m ι κ ρ) : Step m ι κ ρ Unit := do
  unless (← get).initialized do p.init

/-- Gives up the connection, if there is one. -/
def close (p : Printer m ι κ ρ) : Step m ι κ ρ Unit := do
  match ← connection with
  | .connected _ _ channel =>
    setConnection .ready
    effect (p.backend.close channel)
  | .awaiting _ _ _ => setConnection .ready
  | .ready => return

/-- Opens a device for a session that is bound to nothing. -/
def openDevice (p : Printer m ι κ ρ) (id : ι) : Step m ι κ ρ (DeviceRecord × Link κ ρ) := do
  let (record, link) ← attempt (p.backend.connect id)
  setConnection (.ofLink id record link)
  return (record, link)

/-- Where the request that the session waits for stands. -/
def pollRequest (p : Printer m ι κ ρ) (id : ι) (record : DeviceRecord) (request : ρ) :
    Step m ι κ ρ PermissionState := do
  let (state, request) ← effect (p.backend.poll request)
  setConnection (.awaiting id record request)
  return state

-- ============================================================ devices

/-- The devices that the transport knows. -/
def list (p : Printer m ι κ ρ) : Step m ι κ ρ (List DeviceRecord) := do
  p.ensureInit
  attempt p.backend.devices

/-- The bound device, if it is `id` and needs nothing done: it is connected,
or the user has not answered yet. -/
def reusable? [DecidableEq ι] (p : Printer m ι κ ρ) (id : ι) :
    Step m ι κ ρ (Option DeviceRecord) := do
  match ← connection with
  | .connected current record _ => return if current = id then some record else none
  | .awaiting current record request =>
    if current = id then
      match ← p.pollRequest current record request with
      | .pending => return some record
      | _ => return none
    else return none
  | .ready => return none

/-- Binds a device on a transport that is usable, and gives the record that
describes it. -/
def bindDevice [DecidableEq ι] (p : Printer m ι κ ρ) (id : ι) : Step m ι κ ρ DeviceRecord := do
  match ← p.reusable? id with
  | some record => return record
  | none =>
    p.close
    return (← p.openDevice id).1

/-- Selects a device, and gives the record that describes it. -/
def select [DecidableEq ι] (p : Printer m ι κ ρ) (id : ι) : Step m ι κ ρ DeviceRecord := do
  p.ensureInit
  p.bindDevice id

/-- Gives up the connection if it is bound to `id`, and tells whether it
was. -/
def closeIf [DecidableEq ι] (p : Printer m ι κ ρ) (id : ι) : Step m ι κ ρ Bool := do
  if (← connection).bound? = some id then
    p.close
    return true
  else return false

/-- A device as the transport names it. Devices of other transports cannot
be selected. -/
def accept (p : Printer m ι κ ρ) (device : DeviceIdentity) : Outcome ι :=
  match p.backend.narrow device with
  | some id => .ok id
  | none =>
    .error (.invalidArgument
      s!"{device.text} cannot be used on the {p.backend.kind.name} transport")

-- ============================================================ printing

/-- The open channel. Access that has been granted in the meantime is used,
by opening the device once more. -/
def channel (p : Printer m ι κ ρ) : Step m ι κ ρ κ := do
  match ← connection with
  | .ready => throw .notConnected
  | .connected _ _ channel => return channel
  | .awaiting id record request =>
    match ← p.pollRequest id record request with
    | .pending => throw (.permissionDenied "waiting for the user to grant access")
    | .denied =>
      setConnection .ready
      throw (.permissionDenied "access to the device was refused")
    | .granted =>
      setConnection .ready
      match ← p.openDevice id with
      | (_, .channel channel) => return channel
      | (_, .request _) => throw (.permissionDenied "waiting for the user to grant access")

/-- Checks that a job could be written now. -/
def preflight (p : Printer m ι κ ρ) : Step m ι κ ρ Unit := discard p.channel

/-- Writes a whole job. A job that fails halfway costs the connection. -/
def write (p : Printer m ι κ ρ) (job : Stream) : Step m ι κ ρ Unit := do
  let channel ← p.channel
  match ← effect (p.backend.send channel job) with
  | .ok () => return
  | .error e =>
    p.close
    throw e

end Printer

end ReceiptPrinter
