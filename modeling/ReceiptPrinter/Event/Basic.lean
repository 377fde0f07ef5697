/-
Notifications that belong to no single call: the progress of a network scan
and the coming and going of USB devices.
-/
import ReceiptPrinter.Device.Wire

namespace ReceiptPrinter

/-- A notification. -/
inductive Event where
  | scannerRunning (running : Bool)
  | scannerResolved (found : List NetIdentity)
  | registerError (message : String)
  | deviceAttached
  | deviceDetached (device : UsbIdentity)
  deriving DecidableEq, Repr

namespace Event

/-- The name by which hosts know an event. -/
def name : Event → String
  | scannerRunning _ => "scannerRunning"
  | scannerResolved _ => "scannerResolved"
  | registerError _ => "registerError"
  | deviceAttached => "deviceAttached"
  | deviceDetached _ => "deviceDetached"

/-- What an event carries. -/
def payload? : Event → Option Json
  | scannerRunning running => some (.bool running)
  | scannerResolved found => some (.array (found.map fun id => .object id.members))
  | registerError message => some (.string message)
  | deviceAttached => none
  | deviceDetached device => some (.object device.members)

/-- An event as a JSON object: its name, and its payload if it has one. -/
def toJson (e : Event) : Json :=
  .object (("event", .string e.name) ::
    match e.payload? with
    | some payload => [("payload", payload)]
    | none => [])

end Event

end ReceiptPrinter
