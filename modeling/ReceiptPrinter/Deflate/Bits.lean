/-
Reading bits from bytes, the lowest bit of each byte first.

Data may arrive in pieces, so what was unpacked before reading stopped is
kept, together with how much of the data each byte of it needed.
-/
import ReceiptPrinter.Bytes

namespace ReceiptPrinter.Deflate

-- ================================================================= flaws

/-- Why data cannot be unpacked. -/
inductive Flaw where
  | header
  | blockKind
  /-- The length of a stored block and its check do not agree. -/
  | storedLength
  | literalCount
  | distanceCount
  /-- A length is repeated where there is none, or too often. -/
  | repetition
  | lengthCode
  | literalCode
  | distanceCode
  /-- A word of the literals stands for nothing. -/
  | literal
  /-- A word of the distances stands for nothing. -/
  | distance
  /-- A copy reaches back behind the beginning. -/
  | tooFarBack
  deriving DecidableEq, Repr

/-- The name by which a flaw is reported. -/
def Flaw.name : Flaw → String
  | header => "BadZlibHeader"
  | blockKind => "InvalidBlockType"
  | storedLength => "InvalidUncompressedBlockLength"
  | literalCount => "InvalidHlit"
  | distanceCount => "InvalidHdist"
  | repetition => "InvalidCodeLengthRepeat"
  | lengthCode => "BadCodeLengthHuffmanTree"
  | literalCode => "BadLiteralLengthHuffmanTree"
  | distanceCode => "BadDistanceHuffmanTree"
  | literal => "InvalidLiteralLengthCode"
  | distance => "InvalidDistanceCode"
  | tooFarBack => "DistanceTooFarBack"

/-- Why reading stops before the end. -/
inductive Stop where
  /-- There are no more data. -/
  | starved
  | flawed (flaw : Flaw)
  deriving DecidableEq, Repr

-- =============================================================== reading

/-- How far unpacking has come. -/
structure Progress where
  /-- The packed data. -/
  data : Array UInt8
  /-- The number of bits that have been read. -/
  position : Nat
  /-- What has been unpacked. -/
  bytes : Array UInt8
  /-- How many bits had been read when each byte was known. -/
  known : Array Nat

/-- Unpacking that may stop; what was unpacked before stays. -/
abbrev Unpacker := ExceptT Stop (StateM Progress)

namespace Unpacker

/-- The next bit. -/
def bit : Unpacker Nat := do
  let p ← get
  match p.data[p.position / 8]? with
  | some b =>
    set { p with position := p.position + 1 }
    return b.toNat >>> (p.position % 8) % 2
  | none => throw .starved

/-- A number of `n` bits, the lowest first. -/
def number : Nat → Unpacker Nat
  | 0 => return 0
  | n + 1 => do
    let low ← bit
    return low + 2 * (← number n)

/-- Goes on at the next whole byte. -/
def align : Unpacker Unit :=
  modify fun p => { p with position := (p.position + 7) / 8 * 8 }

/-- The bits that are left, a bound for whatever reads one at a time. -/
def remaining : Unpacker Nat := do
  let p ← get
  return 8 * p.data.size - p.position

/-- Stops if fewer bits are left. -/
def await (bits : Nat) : Unpacker Unit := do
  if (← remaining) < bits then throw .starved

/-- Stops for a flaw unless a condition holds. -/
def require (condition : Bool) (flaw : Flaw) : Unpacker Unit :=
  if condition then return else throw (.flawed flaw)

/-- `n` numbers of three bits. -/
def triples : Nat → Unpacker (List Nat)
  | 0 => return []
  | n + 1 => do
    let first ← number 3
    return first :: (← triples n)

/-- Appends an unpacked byte. -/
def emit (b : UInt8) : Unpacker Unit :=
  modify fun p => { p with bytes := p.bytes.push b, known := p.known.push p.position }

end Unpacker

end ReceiptPrinter.Deflate
