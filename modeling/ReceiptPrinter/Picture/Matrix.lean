/-
Rectangles of pixels.

A `PixelMatrix` is stored row by row from the top left corner. The number of
its places has to be a machine word: over sides with more places the program
stops, whatever is to be made of them, and it stops over a picture that is to
be drawn and is larger than anything that can be allocated. `ofPixels?` and
`ofFn?` give nothing there. `PixelMatrix.Filled` says that the buffer really
holds one pixel for every place; `PixelMatrix.tabulate` builds such a matrix
from a function of the place.
-/
import ReceiptPrinter.Error
import ReceiptPrinter.Picture.Pixel

namespace ReceiptPrinter

/-- A picture: its sides and its pixels, row by row. -/
structure PixelMatrix where
  width : Nat
  height : Nat
  pixels : Array Pixel
  deriving DecidableEq

namespace PixelMatrix

/-- The buffer holds exactly one pixel for every place. -/
def Filled (m : PixelMatrix) : Prop := m.pixels.size = m.width * m.height

/-- The pixel in column `x` of row `y`. A column past the right edge runs on
into the next row; there is no pixel past the end of the buffer. -/
def at? (m : PixelMatrix) (x y : Nat) : Option Pixel := m.pixels[y * m.width + x]?

/-- The number of places, if it is a machine word. -/
def places? (width height : Nat) : Option Nat :=
  if width * height < UInt64.size then some (width * height) else none

/-- A buffer that does not fit its sides. -/
structure WrongLength where
  held : Nat
  width : Nat
  height : Nat

/-- The error of a buffer that does not fit its sides. -/
def WrongLength.error (e : WrongLength) : PrinterError :=
  let expected := e.width * e.height
  .invalidArgument
    s!"pixel buffer holds {e.held} values, expected {e.width}x{e.height} = {expected}"

/-- The matrix over a given buffer, whose length must be the number of
places. -/
def ofPixels? (width height : Nat) (pixels : Array Pixel) : Option (Outcome PixelMatrix) :=
  (places? width height).map fun places =>
    if pixels.size = places then .ok ⟨width, height, pixels⟩
    else .error (WrongLength.error ⟨pixels.size, width, height⟩)

/-- The matrix whose pixel in column `x` of row `y` is `f x y`. -/
def tabulate (width height : Nat) (f : Nat → Nat → Pixel) : PixelMatrix :=
  ⟨width, height, Array.ofFn fun i : Fin (width * height) => f (i.val % width) (i.val / width)⟩

/-- An allocation has fewer bytes than this. -/
def allocationLimit : Nat := UInt64.size / 2

/-- The matrix that is drawn place by place. Room for its pixels, four bytes
each, is taken before the first is drawn. -/
def ofFn? (width height : Nat) (f : Nat → Nat → Pixel) : Option PixelMatrix :=
  (places? width height).bind fun places =>
    if 4 * places < allocationLimit then some (tabulate width height f) else none

@[simp] theorem width_tabulate (width height : Nat) (f : Nat → Nat → Pixel) :
    (tabulate width height f).width = width := rfl

@[simp] theorem height_tabulate (width height : Nat) (f : Nat → Nat → Pixel) :
    (tabulate width height f).height = height := rfl

theorem filled_tabulate (width height : Nat) (f : Nat → Nat → Pixel) :
    (tabulate width height f).Filled := by
  simp [Filled, tabulate]

/-- The place of column `x` in row `y` lies inside the buffer. -/
theorem index_lt {width height x y : Nat} (hx : x < width) (hy : y < height) :
    y * width + x < width * height := by
  have : (y + 1) * width ≤ height * width := Nat.mul_le_mul_right width hy
  rw [Nat.mul_comm width height]
  rw [Nat.succ_mul] at this
  omega

theorem at?_tabulate {width height : Nat} (f : Nat → Nat → Pixel) {x y : Nat}
    (hx : x < width) (hy : y < height) :
    (tabulate width height f).at? x y = some (f x y) := by
  have hpos : 0 < width := by omega
  have hmod : (y * width + x) % width = x := by
    rw [Nat.mul_comm, Nat.mul_add_mod, Nat.mod_eq_of_lt hx]
  have hdiv : (y * width + x) / width = y := by
    rw [Nat.mul_comm, Nat.mul_add_div hpos, Nat.div_eq_of_lt hx, Nat.add_zero]
  simp [at?, tabulate, index_lt hx hy, hmod, hdiv]

/-- In a full buffer there is a pixel for every place. -/
theorem Filled.exists_at? {m : PixelMatrix} (h : m.Filled) {x y : Nat} (hx : x < m.width)
    (hy : y < m.height) : ∃ pixel, m.at? x y = some pixel :=
  ⟨_, Array.getElem?_eq_getElem (Nat.lt_of_lt_of_eq (index_lt hx hy) h.symm)⟩

/-- One row, from the left. -/
def row (m : PixelMatrix) (y : Nat) : List Pixel :=
  (m.pixels.extract (y * m.width) ((y + 1) * m.width)).toList

end PixelMatrix

end ReceiptPrinter
