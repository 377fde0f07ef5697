/-
The header of a PNG file: the size of the picture, the depth of the samples
and what they stand for, and whether rows are interlaced.
-/
import ReceiptPrinter.Picture.File.Png.Fault
import ReceiptPrinter.Picture.File.Trouble
import ReceiptPrinter.Picture.Sample

namespace ReceiptPrinter.Png

/-- What the samples of a pixel stand for. -/
inductive Colour where
  | direct (channels : Channels)
  | palette
  deriving DecidableEq, Repr

namespace Colour

/-- The number of samples of a pixel in the file. -/
def samples : Colour → Nat
  | direct channels => channels.count
  | palette => 1

/-- What a number stands for. -/
def ofNumber? : Nat → Option Colour
  | 0 => some (.direct .gray)
  | 2 => some (.direct .rgb)
  | 3 => some .palette
  | 4 => some (.direct .grayAlpha)
  | 6 => some (.direct .rgba)
  | _ => none

/-- The name under which a fault is reported. -/
def name : Colour → String
  | direct .gray => "Grayscale"
  | direct .rgb => "Rgb"
  | palette => "Indexed"
  | direct .grayAlpha => "GrayscaleAlpha"
  | direct .rgba => "Rgba"

/-- The depths of samples: grey may have any, places in a palette have eight
bits at most, and everything else has at least eight. -/
def allows (colour : Colour) (depth : Nat) : Bool :=
  match colour with
  | direct .gray => true
  | palette => depth ≤ 8
  | direct _ => 8 ≤ depth

end Colour

/-- The depths with the names under which faults are reported. -/
def depthNames : List (Nat × String) :=
  [(1, "One"), (2, "Two"), (4, "Four"), (8, "Eight"), (16, "Sixteen")]

/-- The shape of a picture. -/
structure Header where
  width : Nat
  height : Nat
  /-- Bits per sample. -/
  depth : Nat
  colour : Colour
  interlaced : Bool

namespace Header

/-- The next byte of a chunk. -/
def byte (content : Bytes) (i : Nat) : Except Fault Nat :=
  match content[i]? with
  | some b => .ok b.toNat
  | none => .error (.shortChunk (chunkName "IHDR"))

/-- Reads a header. Of several faults the first one in the file counts. -/
def ofContent (content : Bytes) : Except Fault Header := do
  require (8 ≤ content.length) (.shortChunk (chunkName "IHDR"))
  let width := Bytes.bigEndian (content.take 4)
  let height := Bytes.bigEndian ((content.drop 4).take 4)
  require (0 < width && 0 < height) .size
  let depth ← byte content 8
  let some depthName := depthNames.lookup depth | throw (.depth depth)
  let type ← byte content 9
  let some colour := Colour.ofNumber? type | throw (.colourType type)
  require (colour.allows depth) (.colourDepth colour.name depthName)
  let compression ← byte content 10
  require (compression == 0) (.compression compression)
  let filter ← byte content 11
  require (filter == 0) (.filter filter)
  let interlacing ← byte content 12
  require (interlacing ≤ 1) (.interlacing interlacing)
  return ⟨width, height, depth, colour, interlacing == 1⟩

/-- Bytes of a row with so many pixels. -/
def rowBytes (h : Header) (width : Nat) : Nat := (width * h.colour.samples * h.depth + 7) / 8

/-- How far back the corresponding byte of the pixel before lies. -/
def stride (h : Header) : Nat := max 1 (h.colour.samples * h.depth / 8)

end Header

end ReceiptPrinter.Png
