/-
What can be wrong with a BMP file.
-/
import ReceiptPrinter.Picture.File.Trouble

namespace ReceiptPrinter.Bmp

/-- Why a file holds no picture, or none that can be read. -/
inductive Fault where
  /-- The file ends too early. -/
  | cutShort
  /-- The picture would take too much memory. -/
  | tooLarge
  | signature
  | smallHeader (size : Nat)
  | unknownHeader (size : Nat)
  | negativeWidth (width : Int)
  /-- A side is longer than allowed. -/
  | longSide (width height : Int)
  /-- The height is the lowest number that there is. -/
  | lowestHeight
  /-- There are no pixels. -/
  | empty (width height : Int)
  | planes
  /-- Pictures that begin at the top are never packed. -/
  | packedFromTop (packing : Nat)
  | depth (packing : String) (bits : Nat)
  /-- A kind of packing that is known, but not read. -/
  | foreignPacking (name : String)
  | packing (number : Nat)
  | palette (size depth : Nat)
  | brokenMask
  | longMask
  | missingMask (depth : Nat)
  deriving DecidableEq, Repr

def Fault.trouble : Fault → Trouble
  | cutShort => .cutShort
  | tooLarge => .tooLarge
  | signature => .form "BMP signature not found"
  | smallHeader size => .form s!"Bitmap header too small ({size} bytes)"
  | unknownHeader size => .feature s!"Unknown bitmap header type (size={size})"
  | negativeWidth width => .form s!"Negative width ({width})"
  | longSide width height =>
    .form s!"Image too large (one of ({width}, {height}) > soft limit of 65535)"
  | lowestHeight => .form "Invalid height"
  | empty width height =>
    .feature s!"Image dimensions ({width}x{height} w/3 channels) are too large"
  | planes => .form "More than one plane"
  | packedFromTop number => .form s!"Invalid image type {number} for top-down image."
  | depth name bits => .form s!"Invalid channel bit count for {name}: {bits}"
  | foreignPacking name => .feature name
  | packing number => .form s!"Unknown image compression type {number}"
  | palette size bits =>
    .form s!"Palette size {size} exceeds maximum size for BMP with bit count of {bits}"
  | brokenMask => .form "Non-contiguous bitfield mask"
  | longMask => .form "Invalid bitfield mask"
  | missingMask bits => .form s!"Missing {bits}-bit bitfield mask"

end ReceiptPrinter.Bmp
