/-
Pictures in the BMP format.

Rows are filled up to a multiple of four bytes, and unless the header says
otherwise the bottom row comes first.
-/
import ReceiptPrinter.Picture.File.Bmp.Header
import ReceiptPrinter.Picture.File.Trouble
import ReceiptPrinter.Picture.Sample

namespace ReceiptPrinter.Bmp

/-- The bytes that a row takes. -/
def Header.rowSize (h : Header) : Nat := (h.depth * h.width + 31) / 32 * 4

/-- The pixels of a row as numbers. Below a byte the first pixel is in the
highest bits. -/
def Header.pixels (h : Header) (row : Bytes) : List Nat :=
  let row := row.toArray
  (List.range h.width).map fun x =>
    if h.depth < 8 then
      let first := x * h.depth
      (row.getD (first / 8) 0).toNat >>> (8 - h.depth - first % 8) % (1 <<< h.depth)
    else
      let size := h.depth / 8
      Bytes.littleEndian ((List.range size).map fun i => row.getD (size * x + i) 0)

/-- The samples of a pixel. A place behind the last colour of a palette is
black. -/
def Layout.samples (layout : Layout) (pixel : Nat) : Bytes :=
  match layout with
  | palette colours => colours.getD pixel [0, 0, 0]
  | masks red green blue alpha =>
    [red.sample pixel, green.sample pixel, blue.sample pixel] ++
      (alpha.map (·.sample pixel)).toList

/-- The channels of the picture. -/
def Layout.channels : Layout → Channels
  | masks _ _ _ (some _) => .rgba
  | _ => .rgb

/-- Rows of the given size, in the order in which they are stored. -/
def rows (size : Nat) : Nat → Bytes → List Bytes
  | 0, _ => []
  | count + 1, bytes => bytes.take size :: rows size count (bytes.drop size)

/-- Reads a file. -/
def decode (bytes : Bytes) : Except Fault DecodedImage := do
  let h ← Header.read bytes
  let channels := h.layout.channels
  require (h.width * h.height * channels.count ≤ mostMemory) .tooLarge
  let body := bytes.drop h.offset
  require (h.rowSize * h.height ≤ body.length) .cutShort
  let all := (rows h.rowSize h.height body).map fun row => (h.pixels row).flatMap h.layout.samples
  let samples := (if h.topDown then all else all.reverse).flatten
  return ⟨h.width, h.height, channels, .bytes samples.toArray⟩

end ReceiptPrinter.Bmp
