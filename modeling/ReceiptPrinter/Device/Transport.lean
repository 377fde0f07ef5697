/-
The ways by which a printer can be reached.
-/
import ReceiptPrinter.Error
import ReceiptPrinter.Text.Upper

namespace ReceiptPrinter

/-- A way to reach a printer: Bluetooth, USB or the network. -/
inductive TransportKind where
  | ble
  | usb
  | net
  deriving DecidableEq, Repr

namespace TransportKind

/-- The short name. -/
def name : TransportKind → String
  | ble => "ble"
  | usb => "usb"
  | net => "net"

def all : List TransportKind := [ble, usb, net]

/-- A text that names no transport, in lower case. -/
structure Unknown where
  text : String

def Unknown.error (e : Unknown) : PrinterError :=
  .invalidArgument s!"unknown transport '{e.text}'"

/-- The transport that a text names; the case of Latin letters does not
count. -/
def ofText (text : String) : Outcome TransportKind :=
  let lower := String.ofList (Text.lowerAscii text.toList)
  match lower with
  | "ble" | "bluetooth" => .ok ble
  | "usb" => .ok usb
  | "net" | "tcp" | "network" => .ok net
  | _ => .error (Unknown.error ⟨lower⟩)

end TransportKind

end ReceiptPrinter
