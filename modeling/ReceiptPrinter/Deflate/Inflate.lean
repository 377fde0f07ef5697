/-
Unpacking compressed data.

The data come in blocks. A block is stored as it is, or it consists of
symbols of two prefix codes: single bytes, and copies of what was unpacked
before, given by length and distance. The codes are fixed, or they are
described at the head of the block. A header of two bytes comes first, and
four bytes with a check sum, which is not looked at, come last.
-/
import ReceiptPrinter.Deflate.Code

namespace ReceiptPrinter.Deflate

open Unpacker

-- =============================================================== symbols

/-- The base and the number of further bits of each length symbol. -/
def lengthBases : List (Nat × Nat) :=
  [(3, 0), (4, 0), (5, 0), (6, 0), (7, 0), (8, 0), (9, 0), (10, 0), (11, 1), (13, 1), (15, 1),
   (17, 1), (19, 2), (23, 2), (27, 2), (31, 2), (35, 3), (43, 3), (51, 3), (59, 3), (67, 4),
   (83, 4), (99, 4), (115, 4), (131, 5), (163, 5), (195, 5), (227, 5), (258, 0)]

/-- The base and the number of further bits of each distance symbol. -/
def distanceBases : List (Nat × Nat) :=
  [(1, 0), (2, 0), (3, 0), (4, 0), (5, 1), (7, 1), (9, 2), (13, 2), (17, 3), (25, 3), (33, 4),
   (49, 4), (65, 5), (97, 5), (129, 6), (193, 6), (257, 7), (385, 7), (513, 8), (769, 8),
   (1025, 9), (1537, 9), (2049, 10), (3073, 10), (4097, 11), (6145, 11), (8193, 12),
   (12289, 12), (16385, 13), (24577, 13)]

/-- The value of a symbol with its further bits. -/
def based (bases : List (Nat × Nat)) (flaw : Flaw) (symbol : Nat) : Unpacker Nat :=
  match bases[symbol]? with
  | some (base, bits) => return base + (← number bits)
  | none => throw (.flawed flaw)

/-- Appends a copy of bytes from some distance back. A copy may reach into
itself. -/
def copyBack (distance : Nat) : Nat → Unpacker Unit
  | 0 => return
  | n + 1 => do
    let bytes := (← get).bytes
    emit (bytes.getD (bytes.size - distance) 0)
    copyBack distance n

/-- Unpacks symbols up to the end of a block, at most `fuel`. -/
def symbols (literals distances : Code) : Nat → Unpacker Unit
  | 0 => throw .starved
  | fuel + 1 => do
    let symbol ← literals.read .literal
    if symbol < 256 then
      emit symbol.toUInt8
      symbols literals distances fuel
    else if symbol = 256 then return
    else
      let length ← based lengthBases .literal (symbol - 257)
      let distance ← based distanceBases .distance (← distances.read .distance)
      require (distance ≤ (← get).bytes.size) .tooFarBack
      copyBack distance length
      symbols literals distances fuel

-- ================================================================= codes

/-- The fixed code of literals and lengths. -/
def fixedLiterals : Code :=
  .ofLengths (List.replicate 144 8 ++ List.replicate 112 9 ++ List.replicate 24 7 ++
    List.replicate 8 8)

def fixedDistances : Code := .ofLengths (List.replicate 32 5)

/-- The order in which the lengths of the code for lengths are given. -/
def lengthOrder : List Nat :=
  [16, 17, 18, 0, 8, 7, 9, 6, 10, 5, 11, 4, 12, 3, 13, 2, 14, 1, 15]

/-- Reads code lengths until there are `count`, at most `fuel` symbols. -/
def codeLengths (code : Code) (count : Nat) : Nat → List Nat → Unpacker (List Nat)
  | 0, _ => throw .starved
  | fuel + 1, lengths => do
    if count ≤ lengths.length then return lengths
    await 7
    let symbol ← code.read .lengthCode
    if symbol < 16 then codeLengths code count fuel (lengths ++ [symbol])
    else
      require (symbol != 16 || !lengths.isEmpty) .repetition
      let repeated := if symbol = 16 then lengths.getLast?.getD 0 else 0
      let times ←
        if symbol = 16 then do pure (3 + (← number 2))
        else if symbol = 17 then do pure (3 + (← number 3))
        else do pure (11 + (← number 7))
      require (lengths.length + times ≤ count) .repetition
      codeLengths code count fuel (lengths ++ List.replicate times repeated)

/-- The symbol at which a block ends. -/
def endSymbol : Nat := 256

/-- The codes described at the head of a block. -/
def describedCodes : Unpacker (Code × Code) := do
  await 14
  let literalCount := (← number 5) + 257
  let distanceCount := (← number 5) + 1
  let givenCount := (← number 4) + 4
  require (literalCount ≤ 286) .literalCount
  require (distanceCount ≤ 30) .distanceCount
  let given ← triples givenCount
  let lengthOf := fun symbol => ((lengthOrder.zip given).lookup symbol).getD 0
  let code := Code.ofLengths ((List.range 19).map lengthOf)
  require code.isComplete .lengthCode
  let count := literalCount + distanceCount
  let lengths ← codeLengths code count (count + 1) []
  require (lengths.getD endSymbol 0 != 0) .literalCode
  let literals := Code.ofLengths (lengths.take literalCount)
  require literals.isComplete .lengthCode
  let distances := Code.ofLengths (lengths.drop literalCount)
  require (distances.isTrivial || distances.isComplete) .distanceCode
  return (literals, distances)

-- ================================================================ blocks

/-- Appends bytes that are stored as they are. -/
def storedBytes : Nat → Unpacker Unit
  | 0 => return
  | n + 1 => do
    emit (← number 8).toUInt8
    storedBytes n

def storedBlock : Unpacker Unit := do
  align
  await 32
  let length ← number 16
  let check ← number 16
  require (length + check == 0xFFFF) .storedLength
  storedBytes length

/-- Unpacks the body of a block of the given kind. -/
def block (kind : Nat) : Unpacker Unit := do
  let fuel := (← remaining) + 1
  match kind with
  | 0 => storedBlock
  | 1 => symbols fixedLiterals fixedDistances fuel
  | 2 =>
    let (literals, distances) ← describedCodes
    symbols literals distances fuel
  | _ => throw (.flawed .blockKind)

/-- The bits of the shortest block. -/
def shortestBlock : Nat := 10

/-- Unpacks blocks up to the last one, at most `fuel`. -/
def blocks : Nat → Unpacker Unit
  | 0 => throw .starved
  | fuel + 1 => do
    await shortestBlock
    let final ← bit
    block (← number 2)
    if final = 1 then return else blocks fuel

/-- Reads the header: the method, the size of the window, and a check. -/
def header : Unpacker Unit := do
  await 16
  let first ← number 8
  let second ← number 8
  require (first % 16 == 8 && first / 16 ≤ 7 && second / 32 % 2 == 0 &&
    (256 * first + second) % 31 == 0) .header

/-- Unpacks data with header and check sum. -/
def whole : Unpacker Unit := do
  header
  blocks (8 * (← get).data.size)
  align
  await 32

-- ============================================================= unpacking

/-- What data unpack to. -/
structure Unpacked where
  bytes : Array UInt8
  /-- How many bits of the data each byte needs. -/
  known : Array Nat
  /-- Why the end was not reached, if it was not. -/
  stop : Option Stop
  /-- The number of bits that were read. -/
  position : Nat

def unpack (data : Array UInt8) : Unpacked :=
  let (result, p) := whole.run.run ⟨data, 0, #[], #[]⟩
  let stop := match result with
    | .ok _ => none
    | .error stop => some stop
  ⟨p.bytes, p.known, stop, p.position⟩

/-- The number of bytes that the first bits of the data suffice for. -/
def Unpacked.countBy (u : Unpacked) (bits : Nat) : Nat :=
  (u.known.toList.takeWhile (· ≤ bits)).length

/-- The flaw that shows in the first bits of the data, if any. -/
def Unpacked.flawBy? (u : Unpacked) (bits : Nat) : Option Flaw :=
  match u.stop with
  | some (.flawed flaw) => if u.position ≤ bits then some flaw else none
  | _ => none

end ReceiptPrinter.Deflate
