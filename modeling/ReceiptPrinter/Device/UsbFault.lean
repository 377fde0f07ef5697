/-
Faults of USB transfers and what callers are told about them.

Missing access counts as a refused permission, a missing device as a device
not found, and everything else as a failure of the channel.
-/
import ReceiptPrinter.Error

namespace ReceiptPrinter

/-- A fault on the USB bus. -/
inductive UsbFault where
  | io
  | invalidParam
  | access
  | noDevice
  | notFound
  | busy
  | timeout
  | overflow
  | pipe
  | interrupted
  | noMem
  | notSupported
  | badDescriptor
  | other
  deriving DecidableEq, Repr

namespace UsbFault

/-- The wording of a fault. -/
def message : UsbFault → String
  | io => "Input/Output Error"
  | invalidParam => "Invalid parameter"
  | access => "Access denied (insufficient permissions)"
  | noDevice => "No such device (it may have been disconnected)"
  | notFound => "Entity not found"
  | busy => "Resource busy"
  | timeout => "Operation timed out"
  | overflow => "Overflow"
  | pipe => "Pipe error"
  | interrupted => "System call interrupted (perhaps due to signal)"
  | noMem => "Insufficient memory"
  | notSupported => "Operation not supported or unimplemented on this platform"
  | badDescriptor => "Malformed descriptor"
  | other => "Other error"

/-- The error that a fault amounts to. -/
def error (fault : UsbFault) : PrinterError :=
  match fault with
  | access => .permissionDenied fault.message
  | noDevice | notFound => .deviceNotFound fault.message
  | _ => .ioFailure fault.message

end UsbFault

end ReceiptPrinter
