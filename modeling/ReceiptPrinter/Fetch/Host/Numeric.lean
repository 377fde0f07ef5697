/-
Hosts that are given by number.

A host whose last part is a number is an address of four bytes. It has four
parts at most, each decimal, octal behind a zero or hex behind `0x`, and
the last one stands for all the bytes that the others leave over.
-/
import ReceiptPrinter.Bytes
import ReceiptPrinter.Net.Address
import ReceiptPrinter.Text.Basic

namespace ReceiptPrinter.Fetch.Host

/-- The number that digits give in a base of at most sixteen; no digits make
zero. -/
def digitsIn? (base : Nat) (text : List Char) : Option Nat := do
  let digits ← text.mapM hexValue?
  guard (digits.all (· < base))
  return digits.foldl (fun n digit => base * n + digit) 0

/-- The number that a part gives. -/
def part? : List Char → Option Nat
  | [] => none
  | '0' :: 'x' :: digits => digitsIn? 16 digits
  | '0' :: digit :: digits => digitsIn? 8 (digit :: digits)
  | digits => digitsIn? 10 digits

/-- The parts of a name. A dot at its end begins no further one. -/
def parts (name : List Char) : List (List Char) :=
  let all := Text.splitAt '.' name
  if all.getLast? = some [] then all.dropLast else all

/-- Whether the last part of a name is a number, or looks like one. -/
def endsInNumber (name : List Char) : Bool :=
  match (parts name).getLast? with
  | some last => (!last.isEmpty && last.all Char.isDigit) || (part? last).isSome
  | none => false

/-- The address that a name gives by number. -/
def numeric? (name : List Char) : Option Net.Address := do
  let numbers ← (parts name).mapM part?
  let last ← numbers.getLast?
  let octets := numbers.dropLast
  let left := 4 - octets.length
  guard (octets.length < 4 && octets.all (· < 256) && last < 1 <<< (8 * left))
  return .ofNat (octets.foldl (fun n octet => 256 * n + octet) 0 <<< (8 * left) + last)

end ReceiptPrinter.Fetch.Host
