/-
USB devices, known by vendor and product number.

A device is written as two hex numbers with a colon between them. Any
number of `0x` marks may stand before a number, and after them one plus
sign; leading zeros do not count, and the value must fit sixteen bits.
-/
import ReceiptPrinter.Bytes
import ReceiptPrinter.Error
import ReceiptPrinter.Text.Basic

namespace ReceiptPrinter

/-- A USB device, by vendor and product. -/
structure UsbIdentity where
  vendorId : UInt16
  productId : UInt16
  deriving DecidableEq, Repr

namespace UsbIdentity

/-- The text behind every `0x` at its front. -/
def dropMarks : List Char → List Char
  | '0' :: 'x' :: rest => dropMarks rest
  | text => text

/-- The text behind one plus sign, if there is one. -/
def dropPlus : List Char → List Char
  | '+' :: rest => rest
  | text => text

/-- The value of a row of hex digits, at least one. -/
def hexNumber? (text : List Char) : Option Nat :=
  if text.isEmpty then none
  else (text.mapM hexValue?).map (·.foldl (fun n d => n * 16 + d) 0)

/-- A sixteen-bit number in hex. -/
def word? (text : List Char) : Option UInt16 :=
  match hexNumber? (dropPlus (dropMarks text)) with
  | some n => if n < UInt16.size then some n.toUInt16 else none
  | none => none

/-- A text that should have been a pair of numbers. -/
structure NotPair where
  text : String

/-- The error of a text that is no pair of numbers. -/
def NotPair.error (e : NotPair) : PrinterError :=
  .invalidArgument s!"'{e.text}' is not VID:PID"

/-- The device that a text names. -/
def ofText (text : String) : Outcome UsbIdentity :=
  match Text.splitOnce? ':' text.toList with
  | none => .error (NotPair.error ⟨text⟩)
  | some (vendor, product) =>
    match word? vendor, word? product with
    | some v, some p => .ok ⟨v, p⟩
    | _, _ => .error (NotPair.error ⟨text⟩)

/-- Both numbers with four digits each. -/
def text (id : UsbIdentity) : String :=
  String.ofList (hexDigits 4 id.vendorId.toNat ++ ':' :: hexDigits 4 id.productId.toNat)

end UsbIdentity

end ReceiptPrinter
