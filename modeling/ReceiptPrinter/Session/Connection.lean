/-
What a session is bound to.

A session has at most one connection. It is ready and bound to nothing; or
it waits until the user grants access to a device; or it is connected and
owns an open channel. The channel lives exactly as long as the connection.
-/
import ReceiptPrinter.Device.Wire
import ReceiptPrinter.Transport.Backend

namespace ReceiptPrinter

/-- What a session is bound to. -/
inductive Connection (ι κ ρ : Type) where
  | ready
  | awaiting (id : ι) (record : DeviceRecord) (request : ρ)
  | connected (id : ι) (record : DeviceRecord) (channel : κ)
  deriving DecidableEq, Repr

namespace Connection

variable {ι κ ρ : Type}

/-- The device that is bound, be it connected or waited for. -/
def bound? : Connection ι κ ρ → Option ι
  | ready => none
  | awaiting id _ _ => some id
  | connected id _ _ => some id

/-- The open channel. -/
def channel? : Connection ι κ ρ → Option κ
  | connected _ _ channel => some channel
  | _ => none

/-- The connection that opening a device leads to. -/
def ofLink (id : ι) (record : DeviceRecord) : Link κ ρ → Connection ι κ ρ
  | .channel channel => connected id record channel
  | .request request => awaiting id record request

end Connection

/-- A session: whether its transport was found usable, and its connection. -/
structure Session (ι κ ρ : Type) where
  initialized : Bool
  connection : Connection ι κ ρ
  deriving DecidableEq, Repr

/-- A session with an open channel is connected. -/
theorem Session.eq_of_channel? {ι κ ρ : Type} {session : Session ι κ ρ} {channel : κ}
    (h : session.connection.channel? = some channel) :
    ∃ initialized id record, session = ⟨initialized, .connected id record channel⟩ := by
  obtain ⟨initialized, c⟩ := session
  cases c with
  | ready => cases h
  | awaiting id record request => cases h
  | connected id record channel' =>
    cases h
    exact ⟨initialized, id, record, rfl⟩

/-- A session in which nothing has happened yet. -/
def Session.fresh {ι κ ρ : Type} : Session ι κ ρ := ⟨false, .ready⟩

/-- What callers are told about a session. -/
inductive SessionStatus where
  | ready
  | awaitingPermission (device : DeviceRecord)
  | connected (device : DeviceRecord)
  deriving DecidableEq, Repr

def Connection.status {ι κ ρ : Type} : Connection ι κ ρ → SessionStatus
  | ready => .ready
  | awaiting _ record _ => .awaitingPermission record
  | connected _ record _ => .connected record

/-- A status as a JSON object: the state, and the device if there is one. -/
def SessionStatus.toJson : SessionStatus → Json
  | ready => .object [("state", .string "ready")]
  | awaitingPermission device =>
    .object [("state", .string "awaitingPermission"), ("device", device.toJson)]
  | connected device => .object [("state", .string "connected"), ("device", device.toJson)]

end ReceiptPrinter
