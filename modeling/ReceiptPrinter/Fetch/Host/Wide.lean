/-
Addresses of sixteen bytes, as they stand in brackets.

Such an address is a row of eight numbers, in hex and with colons between
them. One row of zeros may be left out, which two colons show, and the last
two numbers may be written like an address of four bytes. In normal form
the longest row of zeros is left out, the first one of the longest.
-/
import ReceiptPrinter.Fetch.Host.Numeric

namespace ReceiptPrinter.Fetch.Host

-- =============================================================== reading

/-- The number that one to four hex digits give. -/
def piece? (text : List Char) : Option Nat :=
  if 1 ≤ text.length ∧ text.length ≤ 4 then digitsIn? 16 text else none

/-- The numbers of a row without a gap in which an address of four bytes may
stand at the end. -/
def tail? (text : List Char) : Option (List Nat) := do
  let parts := Text.splitAt ':' text
  match Net.Address.ofText? (String.ofList (parts.getLast?.getD [])) with
  | some x =>
    let front ← parts.dropLast.mapM piece?
    return front ++ [256 * x.a.toNat + x.b.toNat, 256 * x.c.toNat + x.host.toNat]
  | none => parts.mapM piece?

/-- What stands before the first two colons in a row and what stands after
them. -/
def splitGap? : List Char → Option (List Char × List Char)
  | ':' :: ':' :: rest => some ([], rest)
  | c :: rest => (splitGap? rest).map fun (before, after) => (c :: before, after)
  | [] => none

/-- The eight numbers of an address. A gap stands for at least one zero. -/
def wide? (text : List Char) : Option (List Nat) :=
  match splitGap? text with
  | none => (tail? text).filter (·.length = 8)
  | some (before, after) => do
    let front ← if before.isEmpty then some [] else (Text.splitAt ':' before).mapM piece?
    let back ← if after.isEmpty then some [] else tail? after
    let count := front.length + back.length
    guard (count < 8)
    return front ++ List.replicate (8 - count) 0 ++ back

-- =============================================================== writing

/-- Where the longest row of zeros begins, the first one of the longest, and
how long it is. -/
def longestZeros (numbers : List Nat) : Nat × Nat :=
  (List.range numbers.length).foldl (fun best start =>
    let count := ((numbers.drop start).takeWhile (· == 0)).length
    if best.2 < count then (start, count) else best) (0, 0)

/-- Numbers in hex with colons between them. -/
def row (numbers : List Nat) : List Char :=
  [':'].intercalate (numbers.map (Nat.toDigits 16))

/-- An address in normal form. A single zero is not left out. -/
def wideText (numbers : List Nat) : List Char :=
  let (start, count) := longestZeros numbers
  if count < 2 then row numbers
  else row (numbers.take start) ++ "::".toList ++ row (numbers.drop (start + count))

end ReceiptPrinter.Fetch.Host
