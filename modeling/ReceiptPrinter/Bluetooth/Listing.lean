/-
Reading what the Bluetooth tools print.

All of it is read line by line; lines of any other form are skipped.
-/
import ReceiptPrinter.Device.Identity
import ReceiptPrinter.Text.Basic

namespace ReceiptPrinter.Bluetooth

/-- Whether the description of an adapter says that it is switched on. -/
def isPowered (description : List Char) : Bool :=
  (Text.lines description).any fun line => Text.trim line == "Powered: yes".toList

/-- The device on a line: the word `Device`, its address, and its name. A
device without a name goes by its address. -/
def deviceLine? (line : List Char) : Option DeviceRecord := do
  let rest ← Text.afterStart? "Device ".toList (Text.trim line)
  let (mac, name) := (Text.splitOnce? ' ' rest).getD (rest, [])
  guard (isMac mac)
  let name := Text.trim name
  return ⟨String.ofList (if name.isEmpty then mac else name), .ble (.ofText (String.ofList mac))⟩

/-- The devices in a listing, in order. -/
def deviceList (listing : List Char) : List DeviceRecord :=
  (Text.lines listing).filterMap deviceLine?

def channelLine? (line : List Char) : Option UInt8 := do
  let rest ← Text.afterStart? "Channel:".toList (Text.trim line)
  return (← Text.natBelow? 256 (Text.trim rest)).toUInt8

/-- The first channel in a service description. -/
def serviceChannel? (description : List Char) : Option UInt8 :=
  (Text.lines description).findSome? channelLine?

/-- The device node on a line of a binding listing: what stands before the
first colon. -/
def nodeOfLine (line : List Char) : String :=
  "/dev/" ++ String.ofList (Text.trim (((Text.splitAt ':' line).head?).getD []))

/-- The device node bound to an address, in any letter case: that of the
first line on which the address occurs. -/
def binding? (listing : List Char) (mac : List Char) : Option String :=
  ((Text.lines listing).find? fun line =>
    Text.contains (Text.upper mac) (Text.upper line)).map nodeOfLine

end ReceiptPrinter.Bluetooth
