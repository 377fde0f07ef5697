/-
Pixels and the question whether one prints.

A pixel is a word of four bytes, from the top: alpha, red, green, blue. A
printer has one colour, so all that matters in the end is `Pixel.prints`:
a pixel becomes a dot when it is fully opaque and darker than the
threshold. Half-transparent black prints nothing.
-/

namespace ReceiptPrinter

/-- A pixel: alpha, red, green and blue from the top byte down. -/
abbrev Pixel := UInt32

namespace Pixel

/-- The pixel with the given channels. -/
def ofChannels (a r g b : UInt8) : Pixel :=
  (a.toUInt32 <<< 24) ||| (r.toUInt32 <<< 16) ||| (g.toUInt32 <<< 8) ||| b.toUInt32

/-- The alpha channel; 255 is fully opaque. -/
def alpha (p : Pixel) : UInt8 := (p >>> 24).toUInt8

/-- The red channel. -/
def red (p : Pixel) : UInt8 := (p >>> 16).toUInt8

/-- The green channel. -/
def green (p : Pixel) : UInt8 := (p >>> 8).toUInt8

/-- The blue channel. -/
def blue (p : Pixel) : UInt8 := p.toUInt8

/-- Opaque black. -/
def black : Pixel := 0xFF000000

/-- Opaque white. -/
def white : Pixel := 0xFFFFFFFF

/-- Opaque grey of the given brightness. -/
def gray (v : UInt8) : Pixel := ofChannels 255 v v v

/-- Brightnesses strictly below this one print. -/
def threshold : UInt32 := 127

/-- The brightness of a pixel, alpha left aside: the weighted sum of its
channels in double precision, its fraction dropped. -/
def luminance (p : Pixel) : UInt32 :=
  (0.299 * p.red.toFloat + 0.587 * p.green.toFloat + 0.114 * p.blue.toFloat).toUInt32

/-- Whether a pixel becomes a dot: fully opaque and darker than the
threshold. -/
def prints (p : Pixel) : Bool :=
  p.alpha == 255 && p.luminance < threshold

end Pixel

end ReceiptPrinter
