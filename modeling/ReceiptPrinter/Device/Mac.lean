/-
Bluetooth devices and their addresses.

An address is six groups of two hex digits with single colons between
them. An identity keeps its address in upper case, so that spellings that
differ in letter case name the same device; it may also hold a text that
is no address at all, with which no device can be opened.
-/
import ReceiptPrinter.Bytes
import ReceiptPrinter.Error
import ReceiptPrinter.Text.Basic
import ReceiptPrinter.Text.Upper

namespace ReceiptPrinter

/-- Whether a text is a Bluetooth address. -/
def isMac (text : List Char) : Bool :=
  let groups := Text.splitAt ':' text
  groups.length == 6 &&
    groups.all fun group => group.length == 2 && group.all fun c => (hexValue? c).isSome

/-- A Bluetooth device, by its address in upper case. -/
structure BleIdentity where
  mac : String
  deriving DecidableEq, Repr

namespace BleIdentity

/-- The device with the given address, in any letter case. -/
def ofText (mac : String) : BleIdentity := ⟨String.ofList (Text.upper mac.toList)⟩

/-- A text that should have been an address. -/
structure NotMac where
  text : String

/-- The error of a text that is no address. -/
def NotMac.error (e : NotMac) : PrinterError :=
  .invalidArgument s!"'{e.text}' is not a Bluetooth MAC address"

/-- The device with the given address, which must be one. -/
def parse (mac : String) : Outcome BleIdentity :=
  if isMac mac.toList then .ok (ofText mac) else .error (NotMac.error ⟨mac⟩)

end BleIdentity

end ReceiptPrinter
