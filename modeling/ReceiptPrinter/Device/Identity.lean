/-
Which device is meant.

An identity names a device on one transport: a Bluetooth address, a pair of
USB numbers, or a host and port. Two identities are equal exactly if they
name the same device on the same transport; that decides whether a live
connection can be used again. A record adds the name under which a device
is shown.
-/
import ReceiptPrinter.Device.Mac
import ReceiptPrinter.Device.Transport
import ReceiptPrinter.Device.Usb

namespace ReceiptPrinter

/-- A network device, by host and port. -/
structure NetIdentity where
  host : String
  port : UInt16
  deriving DecidableEq, Repr

namespace NetIdentity

/-- The port on which most receipt printers listen. -/
def defaultPort : UInt16 := 9100

/-- The device at a host's default port. -/
def atDefaultPort (host : String) : NetIdentity := ⟨host, defaultPort⟩

/-- Host and port with a colon between them. -/
def address (id : NetIdentity) : String := s!"{id.host}:{id.port.toNat}"

end NetIdentity

/-- A device on any transport. -/
inductive DeviceIdentity where
  | ble (id : BleIdentity)
  | usb (id : UsbIdentity)
  | net (id : NetIdentity)
  deriving DecidableEq, Repr

namespace DeviceIdentity

def transport : DeviceIdentity → TransportKind
  | ble _ => .ble
  | usb _ => .usb
  | net _ => .net

/-- A device in one line: the transport, a colon, and the device. -/
def text : DeviceIdentity → String
  | ble id => "ble:" ++ id.mac
  | usb id => "usb:" ++ id.text
  | net id => "net:" ++ id.address

/-- A device on another transport than the wanted one. -/
structure OtherTransport where
  wanted : TransportKind
  found : DeviceIdentity

/-- The error of a device on the wrong transport. -/
def OtherTransport.error (e : OtherTransport) : PrinterError :=
  .invalidArgument s!"expected a {e.wanted.name} identity, got {e.found.text}"

/-- The Bluetooth device that is meant, if it is one. -/
def ble? : DeviceIdentity → Option BleIdentity
  | ble id => some id
  | _ => none

/-- The USB device that is meant, if it is one. -/
def usb? : DeviceIdentity → Option UsbIdentity
  | usb id => some id
  | _ => none

/-- The network device that is meant, if it is one. -/
def net? : DeviceIdentity → Option NetIdentity
  | net id => some id
  | _ => none

/-- What `narrow` makes of a device, or the error that it is on another
transport than `wanted`. -/
def expect {α : Type} (wanted : TransportKind) (narrow : DeviceIdentity → Option α)
    (found : DeviceIdentity) : Outcome α :=
  match narrow found with
  | some id => .ok id
  | none => .error (OtherTransport.error ⟨wanted, found⟩)

end DeviceIdentity

/-- A device with the name under which it is shown. -/
structure DeviceRecord where
  name : String
  identity : DeviceIdentity
  deriving DecidableEq, Repr

end ReceiptPrinter
