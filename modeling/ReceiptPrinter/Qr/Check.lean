/-
Codewords of error correction.

The data are split into blocks, the longer ones last. Each block is the
upper part of a polynomial over the field of 256 elements; its check
codewords are the remainder on division by the generator polynomial. All
blocks are then interleaved, data first.
-/
import ReceiptPrinter.Bytes
import ReceiptPrinter.Qr.Version

namespace ReceiptPrinter.Qr

/-- The product of two field elements, which are polynomials modulo
x^8 + x^4 + x^3 + x^2 + 1; `steps` counts the bits of `b` still to come. -/
def fieldMulFrom (a : Nat) : Nat → Nat → Nat → Nat
  | 0, _, product => product
  | steps + 1, b, product =>
    let doubled := product * 2 ^^^ (if 128 ≤ product then 0x11D else 0)
    fieldMulFrom a steps b (doubled ^^^ if b.testBit steps then a else 0)

/-- The product of two field elements. -/
def fieldMul (a b : UInt8) : UInt8 := (fieldMulFrom a.toNat 8 b.toNat 0).toUInt8

/-- The generator polynomial with the given number of roots, without its
leading one: the product of x - 2^i. -/
def generator (count : Nat) : Bytes :=
  ((List.range count).foldl (fun (acc : Bytes × UInt8) _ =>
    let (poly, root) := acc
    (List.zipWith (fun here after => fieldMul here root ^^^ after) poly (poly.drop 1 ++ [0]),
      fieldMul root 2))
    (List.replicate (count - 1) 0 ++ [1], 1)).1

/-- The remainder of the data, shifted up, on division by the generator. -/
def remainder (divisor : Bytes) (data : Bytes) : Bytes :=
  data.foldl (fun rest b =>
    let factor := b ^^^ (rest.head?).getD 0
    List.zipWith (fun low d => low ^^^ fieldMul d factor) (rest.drop 1 ++ [0]) divisor)
    (List.replicate divisor.length 0)

/-- A list cut into pieces of the given lengths. -/
def pieces : List Nat → Bytes → List Bytes
  | [], _ => []
  | n :: lengths, data => data.take n :: pieces lengths (data.drop n)

/-- The lengths of a version's data blocks, the shorter ones first. -/
def blockLengths (version : Nat) : List Nat :=
  let total := capacity version / 8
  let blocks := blockCount version
  List.replicate (blocks - total % blocks) (total / blocks) ++
    List.replicate (total % blocks) (total / blocks + 1)

/-- The first bytes of all blocks, then the second ones, and so on. -/
def interleave (blocks : List Bytes) : Bytes :=
  let longest := (blocks.map List.length).foldl max 0
  (List.range longest).flatMap fun i => blocks.filterMap (·[i]?)

/-- All codewords of a symbol in the order in which they are placed. -/
def codewords (version : Nat) (data : Bytes) : Bytes :=
  let blocks := pieces (blockLengths version) data
  let divisor := generator (checkCount version)
  interleave blocks ++ interleave (blocks.map (remainder divisor))

end ReceiptPrinter.Qr
