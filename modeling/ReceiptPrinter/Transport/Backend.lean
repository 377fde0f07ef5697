/-
What a transport must be able to do.

A backend finds devices and opens channels to them. Opening may succeed, it
may fail, or the user must be asked first. A channel takes chunks of bytes
in order. All of this happens in some monad `m`, whose effects are the
backend's own: real devices, or a simulated world.

Backends differ in how they name devices (`ι`), channels (`κ`) and
requests for access (`ρ`). A machine without the transport has a backend of
it all the same (`Backend.absent`).
-/
import ReceiptPrinter.Device.Identity
import ReceiptPrinter.Permission
import ReceiptPrinter.Stream

namespace ReceiptPrinter

/-- What opening a device leads to. -/
inductive Link (κ ρ : Type) where
  | channel (c : κ)
  /-- The user must be asked; open again once access is granted. -/
  | request (r : ρ)

/-- A transport. -/
structure Backend (m : Type → Type) (ι κ ρ : Type) where
  kind : TransportKind
  /-- The device as this transport names it, if it is one of its own. -/
  narrow : DeviceIdentity → Option ι
  /-- Checks that the transport is usable at all. -/
  prepare : m (Outcome Unit)
  devices : m (Outcome (List DeviceRecord))
  connect : ι → m (Outcome (DeviceRecord × Link κ ρ))
  /-- Where a request stands, and the request afterwards. -/
  poll : ρ → m (PermissionState × ρ)
  write : κ → Bytes → m (Outcome Unit)
  flush : κ → m (Outcome Unit)
  close : κ → m Unit

section

variable {m : Type → Type} [Monad m]

/-- Writes chunks in order until one fails. -/
def writeChunks (write : Bytes → m (Outcome Unit)) : List Bytes → m (Outcome Unit)
  | [] => return .ok ()
  | chunk :: rest => do
    match ← write chunk with
    | .ok () => writeChunks write rest
    | .error e => return .error e

/-- Writes every chunk of a job in order, then flushes. -/
def writeStream (write : Bytes → m (Outcome Unit)) (flush : m (Outcome Unit)) (job : Stream) :
    m (Outcome Unit) := do
  match ← writeChunks write job.chunks with
  | .ok () => flush
  | .error e => return .error e

/-- Sends a job through a channel of a backend. -/
def Backend.send {ι κ ρ : Type} (backend : Backend m ι κ ρ) (channel : κ) (job : Stream) :
    m (Outcome Unit) :=
  writeStream (backend.write channel) (backend.flush channel) job

/-- The transport on a machine without it: everything ends in the same
error. -/
def Backend.absent {ι : Type} (kind : TransportKind) (narrow : DeviceIdentity → Option ι)
    (e : PrinterError) : Backend m ι Empty Empty where
  kind := kind
  narrow := narrow
  prepare := return .error e
  devices := return .error e
  connect _ := return .error e
  poll request := request.elim
  write channel := channel.elim
  flush channel := channel.elim
  close channel := channel.elim

end

end ReceiptPrinter
