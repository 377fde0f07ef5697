/-
From a text to the data codewords of a symbol.

The text is cut into segments and these are merged, once for each of the
three widths of segment headers. The first width at which everything fits
counts; the symbol is the smallest that holds as many bits. The segments
are followed by up to four zero bits, by zeros up to a whole byte, and by
two alternating filler bytes.
-/
import ReceiptPrinter.Qr.Scan
import ReceiptPrinter.Qr.Version

namespace ReceiptPrinter.Qr

/-- The lowest `width` bits of a number, highest first. -/
def bitsOf : Nat → Nat → List Bool
  | 0, _ => []
  | width + 1, n => n.testBit width :: bitsOf width n

-- ============================================================== segments

/-- The value of an alphanumeric character. -/
def alphanumericValue (b : UInt8) : Nat :=
  let n := b.toNat
  if 0x30 ≤ n ∧ n ≤ 0x39 then n - 0x30
  else if 0x41 ≤ n ∧ n ≤ 0x5A then n - 0x41 + 10
  else if n = 0x20 then 36
  else if n = 0x24 then 37
  else if n = 0x25 then 38
  else if n = 0x2A then 39
  else if n = 0x2B then 40
  else if n = 0x2D then 41
  else if n = 0x2E then 42
  else if n = 0x2F then 43
  else 44

def digitValue (b : UInt8) : Nat := b.toNat - 0x30

/-- Digits, three in ten bits. -/
def packDigits : Bytes → List Bool
  | a :: b :: c :: rest =>
    bitsOf 10 (digitValue a * 100 + digitValue b * 10 + digitValue c) ++ packDigits rest
  | [a, b] => bitsOf 7 (digitValue a * 10 + digitValue b)
  | [a] => bitsOf 4 (digitValue a)
  | [] => []

/-- Alphanumeric characters, two in eleven bits. -/
def packLetters : Bytes → List Bool
  | a :: b :: rest => bitsOf 11 (alphanumericValue a * 45 + alphanumericValue b) ++ packLetters rest
  | [a] => bitsOf 6 (alphanumericValue a)
  | [] => []

/-- A kanji in thirteen bits, from its two bytes. -/
def kanjiValue (lead trail : UInt8) : Nat :=
  let code := lead.toNat * 256 + trail.toNat
  let index := if code < 0xE040 then code - 0x8140 else code - 0xC140
  index / 256 * 0xC0 + index % 256

/-- Kanji, thirteen bits each. -/
def packKanji : Bytes → List Bool
  | lead :: trail :: rest => bitsOf 13 (kanjiValue lead trail) ++ packKanji rest
  | _ => []

/-- The data bits of a segment. -/
def Segment.payload (s : Segment) : List Bool :=
  match s.mode with
  | .numeric => packDigits s.bytes
  | .alphanumeric => packLetters s.bytes
  | .byte => s.bytes.flatMap fun b => bitsOf 8 b.toNat
  | .kanji => packKanji s.bytes

/-- The bits of a segment: mode, count and data. -/
def Segment.bits (version : Nat) (s : Segment) : List Bool :=
  bitsOf 4 s.mode.indicator ++ bitsOf (s.mode.countBits version) s.count ++ s.payload

-- ============================================================= codewords

/-- A symbol's version and its data codewords. -/
structure Payload where
  version : Nat
  codewords : Bytes
  deriving DecidableEq, Repr

/-- Up to eight bits as a byte, filled up with zeros. -/
def byteOfBits (bits : List Bool) : UInt8 :=
  (bits.foldl (fun n (b : Bool) => n * 2 + b.toNat) 0 <<< (8 - bits.length)).toUInt8

/-- Bits as bytes, the last one filled up with zeros. -/
def bytesOfBits (bits : List Bool) : Bytes :=
  match bits with
  | [] => []
  | b :: rest => byteOfBits ((b :: rest).take 8) :: bytesOfBits (rest.drop 7)
termination_by bits.length
decreasing_by simp only [List.length_drop, List.length_cons]; omega

/-- The filler bytes that bring a symbol to its full length. -/
def filler (count : Nat) : Bytes :=
  (List.range count).map fun i => if i % 2 = 0 then 0xEC else 0x11

/-- The data codewords of a symbol that holds the given bits. -/
def pad (version : Nat) (bits : List Bool) : Bytes :=
  let room := capacity version - bits.length
  let bytes := bytesOfBits (bits ++ List.replicate (min 4 room) false)
  bytes ++ filler (capacity version / 8 - bytes.length)

/-- The versions that stand for the three widths of segment headers. -/
def headerClasses : List Nat := [9, 26, 40]

/-- The segments for headers of the given class and the smallest version
that holds them, if the class has one. -/
def layOut? (segments : List Segment) (headers : Nat) : Option (Nat × List Segment) :=
  let merged := merge headers segments
  let total := totalCost headers merged
  if total ≤ capacity headers then (versionFor? total).map fun version => (version, merged)
  else none

/-- The version and data codewords of a text; none if it is too long. -/
def pack? (text : Bytes) : Option Payload :=
  let segments := scan text
  (headerClasses.findSome? (layOut? segments)).map fun (version, merged) =>
    ⟨version, pad version (merged.flatMap (·.bits version))⟩

end ReceiptPrinter.Qr
