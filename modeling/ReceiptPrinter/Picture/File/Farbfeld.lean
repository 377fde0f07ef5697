/-
Pictures in the farbfeld format: the size, then four samples of sixteen
bits for every pixel, all with the high byte first.
-/
import ReceiptPrinter.Bytes
import ReceiptPrinter.Picture.File.Trouble
import ReceiptPrinter.Picture.Sample

namespace ReceiptPrinter.Farbfeld

/-- Why a file holds no picture. -/
inductive Fault where
  /-- The file ends within its header. -/
  | shortHeader
  | signature (beginning : Bytes)
  /-- Not even the size of the picture can be told. -/
  | unbounded (width height : Nat)
  /-- The picture would take too much memory. -/
  | tooLarge
  /-- The file ends within the samples. -/
  | cutShort
  deriving DecidableEq, Repr

def Fault.trouble : Fault → Trouble
  | shortHeader => .form "failed to fill whole buffer"
  | signature beginning =>
    let shown := beginning.map fun b => String.ofList (Nat.toDigits 16 b.toNat)
    .form ("Invalid magic: [" ++ String.intercalate ", " shown ++ "]")
  | unbounded width height =>
    .feature s!"Image dimensions ({width}x{height}) are too large"
  | tooLarge => .tooLarge
  | cutShort => .cutShort

/-- The bytes that every file begins with. -/
def magic : Bytes := utf8 "farbfeld".toList

/-- Samples of two bytes, the high one first. -/
def words : Bytes → List UInt16
  | high :: low :: rest => (256 * high.toNat + low.toNat).toUInt16 :: words rest
  | _ => []

/-- Reads a file. -/
def decode (bytes : Bytes) : Except Fault DecodedImage := do
  require (8 ≤ bytes.length) .shortHeader
  require (magic.isPrefixOf bytes) (.signature (bytes.take 8))
  require (16 ≤ bytes.length) .shortHeader
  let width := Bytes.bigEndian ((bytes.drop 8).take 4)
  let height := Bytes.bigEndian ((bytes.drop 12).take 4)
  require (width * height ≤ mostBytes / 8) (.unbounded width height)
  require (width * height * 8 ≤ mostMemory) .tooLarge
  let body := (bytes.drop 16).take (width * height * 8)
  require (body.length == width * height * 8) .cutShort
  return ⟨width, height, .rgba, .words (words body).toArray⟩

end ReceiptPrinter.Farbfeld
