/-
The network transport.

A printer is a host that takes bytes on a port. The transport knows no
devices beforehand; asking for them starts a search, whose results arrive
as events.
-/
import ReceiptPrinter.OsError
import ReceiptPrinter.Settings
import ReceiptPrinter.Transport.Backend

namespace ReceiptPrinter.Net

/-- Why a host could not be reached. -/
inductive ConnectFault where
  | refused (reason : OsError)
  | timedOut
  deriving DecidableEq, Repr

/-- The wording of a fault. -/
def ConnectFault.message : ConnectFault → String
  | refused reason => reason.message
  | timedOut => "connection timed out"

/-- What the transport needs of the machine it runs on. Its sockets are of
the type `σ`. -/
structure Host (m : Type → Type) (σ : Type) where
  /-- Connects to an address, within some milliseconds. -/
  connect : String → Nat → m (Except ConnectFault σ)
  write : σ → Bytes → m (Except OsError Unit)
  flush : σ → m (Except OsError Unit)
  shutdown : σ → m Unit
  /-- Starts a search in the background, unless one is going on. -/
  search : m Unit

/-- The same machine among other effects. -/
def Host.map {m n : Type → Type} {σ : Type} (lift : {α : Type} → m α → n α) (h : Host m σ) :
    Host n σ where
  connect address ms := lift (h.connect address ms)
  write socket bytes := lift (h.write socket bytes)
  flush socket := lift (h.flush socket)
  shutdown socket := lift (h.shutdown socket)
  search := lift h.search

/-- The error of a host that could not be reached. -/
def ConnectFault.error (fault : ConnectFault) (address : String) : PrinterError :=
  .connectionFailed s!"{address}: {fault.message}"

/-- The record of a network device, which goes by its address. -/
def recordOf (id : NetIdentity) : DeviceRecord := ⟨id.address, .net id⟩

/-- The transport on a host. Nobody is ever asked for access. -/
def backend {m : Type → Type} [Monad m] {σ : Type} (h : Host m σ) (s : Settings) :
    Backend m NetIdentity σ Empty where
  kind := .net
  narrow := DeviceIdentity.net?
  prepare := return .ok ()
  devices := do
    h.search
    return .ok []
  connect id := do
    match ← h.connect id.address s.netConnectTimeoutMs with
    | .ok socket => return .ok (recordOf id, .channel socket)
    | .error fault => return .error (fault.error id.address)
  poll request := request.elim
  write socket chunk := return OsError.outcome (← h.write socket chunk)
  flush socket := return OsError.outcome (← h.flush socket)
  close := h.shutdown

end ReceiptPrinter.Net
