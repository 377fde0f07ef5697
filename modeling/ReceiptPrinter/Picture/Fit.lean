/-
Shrinking a picture until it fits.

The larger side becomes the bound and the other follows in proportion, its
fraction dropped, but never below one pixel. A picture that fits already
is returned as it is; nothing is ever enlarged.
-/
import ReceiptPrinter.Picture.Resample

namespace ReceiptPrinter

/-- Bounds on a side are signed words; zero and below bound nothing. -/
structure BadBound where
  bound : Int

/-- The error of a bound that bounds nothing. -/
def BadBound.error (e : BadBound) : PrinterError :=
  .invalidArgument s!"max dimension must be positive, got {e.bound}"

namespace PixelMatrix

/-- The larger side. -/
def larger (m : PixelMatrix) : Nat := max m.width m.height

/-- A side in proportion: `bound` for the larger side itself, else the side
times `bound / larger` in double precision, truncated, and at least one. -/
def scaledSide (bound larger side : Nat) : Nat :=
  if side = larger then bound
  else
    let scale := bound.toUInt64.toFloat / larger.toUInt64.toFloat
    max 1 (side.toUInt64.toFloat * scale).toUInt64.toNat

/-- A side as the resampler takes it, in 32 bits. -/
def shortSide (side : Nat) : Nat := side % UInt32.size

/-- The picture as the resampler takes it: with sides of 32 bits, the pixels
past them left off, and blank if the buffer does not cover them. -/
def shortened (m : PixelMatrix) : PixelMatrix :=
  let width := shortSide m.width
  let height := shortSide m.height
  if width * height ≤ m.pixels.size then ⟨width, height, m.pixels.extract 0 (width * height)⟩
  else tabulate width height fun _ _ => 0

/-- The picture with no side above `bound`. -/
def fit (m : PixelMatrix) (bound : Int) : Outcome PixelMatrix :=
  if bound ≤ 0 then .error (BadBound.error ⟨bound⟩)
  else
    let limit := bound.toNat
    if m.larger ≤ limit then .ok m
    else
      .ok (Resample.resample m.shortened
        (shortSide (scaledSide limit m.larger m.width))
        (shortSide (scaledSide limit m.larger m.height)))

end PixelMatrix

end ReceiptPrinter
