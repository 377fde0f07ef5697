/-
Decoded pictures before they become pixel matrices.

A decoder yields samples: one, two, three or four for every pixel, each a
byte, a sixteen-bit word or a single-precision number between zero and
one. `DecodedImage.toMatrix` brings all of them to eight bits a channel.
-/
import ReceiptPrinter.Picture.Matrix

namespace ReceiptPrinter

/-- Which channels the samples of a pixel stand for, in this order. -/
inductive Channels where
  | gray
  | grayAlpha
  | rgb
  | rgba
  deriving DecidableEq, Repr

/-- Samples per pixel. -/
def Channels.count : Channels → Nat
  | gray => 1
  | grayAlpha => 2
  | rgb => 3
  | rgba => 4

/-- The samples of a picture, row by row, those of a pixel side by side. -/
inductive Samples where
  | bytes (values : Array UInt8)
  | words (values : Array UInt16)
  | singles (values : Array Float32)

/-- A picture as a decoder leaves it. -/
structure DecodedImage where
  width : Nat
  height : Nat
  channels : Channels
  samples : Samples

namespace Samples

/-- A sixteen-bit sample in eight bits, to the nearest. -/
def narrowWord (v : UInt16) : UInt8 := ((v.toUInt32 + 128) / 257).toUInt8

/-- A sample between zero and one in eight bits, to the nearest; halves go
up, and what lies outside is clamped. -/
def narrowSingle (v : Float32) : UInt8 :=
  ((if v < 0 then (0 : Float32) else if 1 < v then 1 else v) * 255).round.toUInt8

/-- The sample with the given index in eight bits; zero past the end. -/
def byteAt (s : Samples) (i : Nat) : UInt8 :=
  match s with
  | bytes values => values.getD i 0
  | words values => narrowWord (values.getD i 0)
  | singles values => narrowSingle (values.getD i 0)

end Samples

namespace DecodedImage

/-- The pixel whose samples begin at index `i`. Grey counts for all three
colours, and without an alpha sample a pixel is opaque. -/
def pixelAt (image : DecodedImage) (i : Nat) : Pixel :=
  let v := image.samples.byteAt
  match image.channels with
  | .gray => Pixel.ofChannels 255 (v i) (v i) (v i)
  | .grayAlpha => Pixel.ofChannels (v (i + 1)) (v i) (v i) (v i)
  | .rgb => Pixel.ofChannels 255 (v i) (v (i + 1)) (v (i + 2))
  | .rgba => Pixel.ofChannels (v (i + 3)) (v i) (v (i + 1)) (v (i + 2))

/-- The picture as a pixel matrix, alpha kept. -/
def toMatrix (image : DecodedImage) : PixelMatrix :=
  PixelMatrix.tabulate image.width image.height fun x y =>
    image.pixelAt ((y * image.width + x) * image.channels.count)

end DecodedImage

end ReceiptPrinter
