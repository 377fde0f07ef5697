/-
Resampling a picture to other sides with a triangle kernel.

Each side is treated on its own, rows first. A pixel of the result is the
weighted mean of the source pixels within reach of its centre; the reach
is one source pixel, or the ratio of the sides where the picture shrinks.
All four channels are treated alike, nothing is clamped between the two
passes, and the arithmetic is single precision in the order written here:
the answers depend on the last bit.
-/
import ReceiptPrinter.Picture.Matrix

namespace ReceiptPrinter.Resample

-- =============================================================== weights

/-- A machine word in single precision. -/
def single (n : Nat) : Float32 := n.toUInt64.toFloat32

/-- The triangle kernel: one at the centre, zero from distance one on. -/
def kernel (x : Float32) : Float32 :=
  if x.abs < 1 then 1 - x.abs else 0

/-- What one place of the result is made of: the first source place and one
weight for it and each that follows. -/
structure Taps where
  first : Nat
  weights : List Float32

/-- The larger of two single-precision numbers. -/
def larger (a b : Float32) : Float32 := if a < b then b else a

/-- The taps of place `out` when a side of `source` places becomes `target`
places. -/
def taps (source target out : Nat) : Taps :=
  let ratio := single source / single target
  let reach := larger ratio 1
  let centre := (single out + 0.5) * ratio
  let left := (max 0 (min (centre - reach).floor.toInt64.toInt (source - 1 : Int))).toNat
  let right := (max (left + 1 : Int) (min (centre + reach).ceil.toInt64.toInt source)).toNat
  let centre := centre - 0.5
  let raw := (List.range (right - left)).map fun i => kernel ((single (left + i) - centre) / reach)
  let total := raw.foldl (· + ·) 0
  ⟨left, raw.map (· / total)⟩

-- ================================================================ passes

/-- The four channels of a place between the passes. -/
structure Colour where
  red : Float32
  green : Float32
  blue : Float32
  alpha : Float32

namespace Colour

/-- No colour, fully transparent. -/
def zero : Colour := ⟨0, 0, 0, 0⟩

/-- Adds a colour with a weight. -/
def addScaled (sum c : Colour) (w : Float32) : Colour :=
  ⟨sum.red + c.red * w, sum.green + c.green * w, sum.blue + c.blue * w, sum.alpha + c.alpha * w⟩

/-- The channels of a pixel. -/
def ofPixel (p : Pixel) : Colour :=
  ⟨single p.red.toNat, single p.green.toNat, single p.blue.toNat, single p.alpha.toNat⟩

/-- A channel as a byte: clamped, then rounded, halves upwards. -/
def channel (v : Float32) : UInt8 :=
  (if v < 0 then (0 : Float32) else if 255 < v then 255 else v).round.toUInt8

/-- The pixel nearest to a colour. -/
def toPixel (c : Colour) : Pixel :=
  Pixel.ofChannels (channel c.alpha) (channel c.red) (channel c.green) (channel c.blue)

end Colour

/-- The weighted sum that `taps` asks for, `get` giving the source places. -/
def blend (t : Taps) (get : Nat → Colour) : Colour :=
  (t.weights.foldl (fun (acc : Colour × Nat) w => (acc.1.addScaled (get acc.2) w, acc.2 + 1))
    (Colour.zero, t.first)).1

/-- The picture at the new sides. A picture with an empty side becomes fully
transparent; one that has the wanted sides already is left alone. -/
def resample (m : PixelMatrix) (width height : Nat) : PixelMatrix :=
  if m.width = 0 ∨ m.height = 0 then
    PixelMatrix.tabulate width height fun _ _ => 0
  else if m.width = width ∧ m.height = height then
    m
  else
    let source := m.pixels.map Colour.ofPixel
    let down := Array.ofFn fun y : Fin height => taps m.height height y
    let between := Array.ofFn fun i : Fin (m.width * height) =>
      blend (down.getD (i.val / m.width) ⟨0, []⟩)
        fun y => source.getD (y * m.width + i.val % m.width) Colour.zero
    let across := Array.ofFn fun x : Fin width => taps m.width width x
    PixelMatrix.tabulate width height fun x y =>
      (blend (across.getD x ⟨0, []⟩)
        fun i => between.getD (y * m.width + i) Colour.zero).toPixel

end ReceiptPrinter.Resample
