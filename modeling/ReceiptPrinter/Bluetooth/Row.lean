/-
How listings are written.

A listing is a row of lines. In one of paired devices, the line of a device has
the word `Device`, its address in any letter case, and its name; it may be
indented and followed by blanks. In one of bindings, the line of a device has
the name of its node, a colon, the address, and what else is told about it; it
has no colons but this one and those of the address. Lines of any other form may
stand between them. What is to be read off such a row is told here without
reference to the reader.
-/
import ReceiptPrinter.Device.Grammar
import ReceiptPrinter.Device.Identity
import ReceiptPrinter.Text.Basic

namespace ReceiptPrinter.Bluetooth

-- ========================================================= paired devices

/-- The word before an address. -/
def deviceWord : List Char := "Device ".toList

/-- A line of a listing of paired devices. -/
inductive Row where
  | device (before mac name after : List Char)
  | other (line : List Char)

/-- Whether a line, apart from blanks at its ends, has the word and an address,
with a space behind the address or nothing. -/
def NamesDevice (line : List Char) : Prop :=
  ∃ mac, IsAddress mac
    ∧ (Text.trim line = deviceWord ++ mac
        ∨ ∃ rest, Text.trim line = deviceWord ++ mac ++ ' ' :: rest)

/-- The record of a device with an address and a name as they were written. -/
def recordOf (mac name : List Char) : DeviceRecord where
  name := String.ofList (if Text.trim name = [] then mac else Text.trim name)
  identity := .ble ⟨String.ofList (mac.map Char.toUpper)⟩

namespace Row

def line : Row → List Char
  | device before mac name after => before ++ (deviceWord ++ mac ++ ' ' :: name) ++ after
  | other line => line

/-- The record of the line, if it is that of a device. -/
def record? : Row → Option DeviceRecord
  | device _ mac name _ => some (recordOf mac name)
  | other _ => none

/-- A line is one line, and either that of a device or not. -/
def WellFormed : Row → Prop
  | device before mac name after =>
    (∀ c ∈ before ++ after, Text.isBlank c = true ∧ c ≠ '\n') ∧ IsAddress mac ∧ '\n' ∉ name
  | other line => '\n' ∉ line ∧ ¬NamesDevice line

end Row

/-- The lines one after another, with or without the end of the last one. -/
def IsListing (rows : List Row) (text : List Char) : Prop :=
  text = ['\n'].intercalate (rows.map Row.line)
    ∨ text = ['\n'].intercalate (rows.map Row.line) ++ ['\n']

-- =============================================================== bindings

/-- A line of a listing of bindings. -/
inductive Entry where
  | binding (node mac details : List Char)
  | other (line : List Char)

namespace Entry

def line : Entry → List Char
  | binding node mac details => node ++ ':' :: ' ' :: (mac ++ ' ' :: details)
  | other line => line

/-- Whether the line is that of the device with an address, in any letter
case. -/
def Binds (mac : List Char) : Entry → Prop
  | binding _ own _ => Text.lowerAscii own = Text.lowerAscii mac
  | other _ => False

instance (mac : List Char) (entry : Entry) : Decidable (entry.Binds mac) :=
  match entry with
  | binding _ own _ => inferInstanceAs (Decidable (Text.lowerAscii own = Text.lowerAscii mac))
  | other _ => inferInstanceAs (Decidable False)

/-- The name of a node is not empty and has neither colons nor blanks, an address
follows, and no colon comes behind it; a line of any other form has no address on
it. -/
def HasForm : Entry → Prop
  | binding node mac details =>
    (node ≠ [] ∧ ∀ c ∈ node, c ≠ ':' ∧ Text.isBlank c = false) ∧ IsAddress mac ∧ ':' ∉ details
  | other line => ∀ mac, IsAddress mac → ¬mac <:+: line

/-- One line in ASCII, either that of a binding or one without an address. -/
structure WellFormed (entry : Entry) : Prop where
  ascii : ∀ c ∈ entry.line, c.toNat < 128
  single : '\n' ∉ entry.line
  form : entry.HasForm

end Entry

end ReceiptPrinter.Bluetooth
