/-
Pictures as bands of dots.

A printer takes a picture in bands of 24 rows. A band is announced by its
number of columns, low byte first; then come its columns from left to
right, three bytes each, stacked downwards, the topmost of eight dots in
the highest bit; a line feed ends it. Rows past the end of the picture are
blank. Before the bands the line spacing is set to the height of a band
and output is centred; afterwards the spacing is restored.
-/
import ReceiptPrinter.Command
import ReceiptPrinter.Picture.Fit
import ReceiptPrinter.Stream

namespace ReceiptPrinter.Raster

/-- The rows of a band. -/
def bandHeight : Nat := 24

/-- A picture with more columns than the band header can count. -/
structure TooWide where
  width : Nat

/-- The error of a picture that is too wide. -/
def TooWide.error (e : TooWide) : PrinterError :=
  .encodingFailed s!"image width {e.width} exceeds column limit"

-- ================================================================= dots

/-- Whether there is a dot in column `x` of row `y`; past the picture there
is none. -/
def dot (image : PixelMatrix) (x y : Nat) : Bool :=
  y < image.height && (image.at? x y).any Pixel.prints

/-- Eight dots as a byte, the first in the highest bit. -/
def packByte (dots : Nat → Bool) : UInt8 :=
  (List.range 8).foldl (fun byte bit => byte * 2 + if dots bit then 1 else 0) 0

/-- One column of the band that starts at row `top`. -/
def columnSlice (image : PixelMatrix) (top x : Nat) : Bytes :=
  [packByte fun bit => dot image x (top + bit),
   packByte fun bit => dot image x (top + 8 + bit),
   packByte fun bit => dot image x (top + 16 + bit)]

/-- All columns of the band that starts at row `top`. -/
def bandData (image : PixelMatrix) (top : Nat) : Bytes :=
  (List.range image.width).flatMap (columnSlice image top)

-- ================================================================ chunks

/-- The number of bands of a picture with the given height. -/
def bandCount (height : Nat) : Nat := (height + (bandHeight - 1)) / bandHeight

/-- What announces a band of `width` columns. -/
def bandHeader (width : Nat) : Bytes :=
  Command.selectBitImageMode ++ Command.wordLowFirst width.toUInt16

/-- The three chunks of the band with the given number. -/
def bandChunks (image : PixelMatrix) (band : Nat) : List Bytes :=
  [bandHeader image.width, bandData image (band * bandHeight), Command.lineFeed]

/-- The chunks before the first band. -/
def opening : List Bytes := [Command.setLineSpace24, Command.centerAlign]

/-- The chunks after the last band. -/
def closing : List Bytes := [Command.setLineSpace32, Command.lineFeed]

/-- The job that prints a picture as it is. -/
def bands (image : PixelMatrix) : Stream :=
  ⟨opening ++ (List.range (bandCount image.height)).flatMap (bandChunks image) ++ closing⟩

/-- The job that prints a picture with no side above `bound`. -/
def encode (picture : PixelMatrix) (bound : Int) : Outcome Stream := do
  let image ← picture.fit bound
  if image.width < UInt16.size then
    .ok (bands image)
  else
    .error (TooWide.error ⟨image.width⟩)

/-- A picture is encoded if it can be fitted and its width can be counted. -/
theorem encode_eq_ok_iff {picture : PixelMatrix} {bound : Int} {stream : Stream} :
    encode picture bound = .ok stream ↔
      ∃ image, picture.fit bound = .ok image ∧ image.width < UInt16.size
        ∧ stream = bands image := by
  unfold encode
  cases hfit : picture.fit bound with
  | error e =>
    constructor
    · intro h
      cases h
    · rintro ⟨image, himage, -⟩
      cases himage
  | ok image =>
    show (if image.width < UInt16.size then _ else _) = _ ↔ _
    by_cases hwidth : image.width < UInt16.size
    · rw [if_pos hwidth]
      constructor
      · intro h
        cases h
        exact ⟨image, rfl, hwidth, rfl⟩
      · rintro ⟨image', himage, -, rfl⟩
        cases himage
        rfl
    · rw [if_neg hwidth]
      constructor
      · intro h
        cases h
      · rintro ⟨image', himage, hwidth', -⟩
        cases himage
        exact absurd hwidth' hwidth

/-- There is always something to write. -/
theorem chunks_ne_nil_of_encode {picture : PixelMatrix} {bound : Int} {stream : Stream}
    (h : encode picture bound = .ok stream) : stream.chunks ≠ [] := by
  obtain ⟨image, -, -, rfl⟩ := encode_eq_ok_iff.mp h
  exact List.cons_ne_nil _ _

end ReceiptPrinter.Raster
