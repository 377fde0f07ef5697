/-
How devices are written.

A Bluetooth address is six pairs of hex digits with a colon between any two
of them, and nothing else. A USB device is two numbers in hex with a colon
between them. A number is a row of digits, with as many zeros in front as one
likes, and the mark `0x` may stand before it; `IsWritten` lets more stand
there than that: the mark any number of times, and a plus sign behind it.
Digits may be in either letter case.
-/
import ReceiptPrinter.Device.Usb

namespace ReceiptPrinter

-- ============================================================== addresses

/-- The hex digits, in either letter case. -/
def hexSigns : List Char := "0123456789abcdefABCDEF".toList

/-- Two hex digits. -/
def IsHexPair (group : List Char) : Prop :=
  ∃ high ∈ hexSigns, ∃ low ∈ hexSigns, group = [high, low]

/-- Six pairs of hex digits with single colons between them. -/
def IsAddress (text : List Char) : Prop :=
  ∃ groups : List (List Char), groups.length = 6 ∧ (∀ group ∈ groups, IsHexPair group)
    ∧ text = [':'].intercalate groups

-- ================================================================ numbers

/-- A hex digit in either letter case and its value. -/
def IsHexDigit (c : Char) (value : Nat) : Prop :=
  value < 16 ∧ (c = hexDigit value ∨ c = upperHexDigit value)

/-- A row of hex digits, at least one, and the number that they make. -/
inductive IsHexNumber : List Char → Nat → Prop
  | digit {c : Char} {value : Nat} (h : IsHexDigit c value) : IsHexNumber [c] value
  | append {digits : List Char} {n : Nat} {c : Char} {value : Nat} (hdigits : IsHexNumber digits n)
      (h : IsHexDigit c value) : IsHexNumber (digits ++ [c]) (16 * n + value)

namespace UsbIdentity

/-- A number as it stands in a text: its marks, then a plus sign or none, and
its digits. -/
structure Numeral where
  marks : Nat
  plus : Bool
  digits : List Char

namespace Numeral

/-- The signs before the digits. -/
def decoration (numeral : Numeral) : List Char :=
  (List.replicate numeral.marks ['0', 'x']).flatten ++ if numeral.plus then ['+'] else []

def text (numeral : Numeral) : List Char := numeral.decoration ++ numeral.digits

/-- At most one mark stands before the digits, and nothing else. -/
def Plain (numeral : Numeral) : Prop := numeral.marks ≤ 1 ∧ numeral.plus = false

end Numeral

/-- The two numbers of a device with a colon between them, whatever stands
before their digits. -/
def IsWritten (text : List Char) (id : UsbIdentity) : Prop :=
  ∃ vendor product : Numeral, text = vendor.text ++ ':' :: product.text
    ∧ IsHexNumber vendor.digits id.vendorId.toNat ∧ IsHexNumber product.digits id.productId.toNat

/-- The two numbers of a device with a colon between them and at most one mark
before each. -/
def IsPlainlyWritten (text : List Char) (id : UsbIdentity) : Prop :=
  ∃ vendor product : Numeral, vendor.Plain ∧ product.Plain
    ∧ text = vendor.text ++ ':' :: product.text
    ∧ IsHexNumber vendor.digits id.vendorId.toNat ∧ IsHexNumber product.digits id.productId.toNat

end UsbIdentity

end ReceiptPrinter
