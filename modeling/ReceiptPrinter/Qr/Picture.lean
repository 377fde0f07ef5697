/-
QR symbols as pictures.

A symbol is drawn with a light margin of one module on every side and then
enlarged by the largest whole factor that fits the wanted side. What is
left over is split evenly; an odd pixel goes to the right and the bottom.
-/
import ReceiptPrinter.Picture.Matrix
import ReceiptPrinter.Qr.Symbol

namespace ReceiptPrinter.Qr

/-- The light margin on every side, in modules. -/
def marginModules : Nat := 1

/-- The largest side of a picture. -/
def maxSide : Nat := 4096

/-- Why a text cannot be drawn as a QR symbol. -/
inductive Refusal where
  | notPositive (side : Int)
  | tooLarge (side : Int)
  | textTooLong
  | doesNotFit (modules side : Nat)
  deriving DecidableEq, Repr

/-- The error of a text that cannot be drawn. -/
def Refusal.error : Refusal → PrinterError
  | notPositive side => .encodingFailed s!"QR size must be positive, got {side}"
  | tooLarge side => .encodingFailed s!"QR size {side} exceeds the {maxSide} dot limit"
  | textTooLong => .encodingFailed "QR code generation failed: data too long"
  | doesNotFit modules side =>
    .encodingFailed s!"QR symbol needs {modules} modules, does not fit in {side} pixels"

/-- Where a symbol stands in a picture and how large its modules are. -/
structure Placing where
  scale : Nat
  origin : Nat
  deriving DecidableEq, Repr

/-- The placing of a symbol with `modules` on a side in a picture of the
given side. -/
def placing (modules side : Nat) : Placing :=
  let total := modules + 2 * marginModules
  let scale := side / total
  ⟨scale, (side - total * scale) / 2 + marginModules * scale⟩

/-- A symbol drawn into a square picture. -/
def draw (s : Symbol) (side : Nat) : PixelMatrix :=
  let p := placing s.side side
  let stop := p.origin + s.side * p.scale
  PixelMatrix.tabulate side side fun x y =>
    if x < p.origin ∨ y < p.origin ∨ stop ≤ x ∨ stop ≤ y then Pixel.white
    else if s.dark ((x - p.origin) / p.scale) ((y - p.origin) / p.scale) then Pixel.black
    else Pixel.white

/-- The picture of a text, `side` pixels wide and high. -/
def picture (text : Bytes) (side : Int) : Except Refusal PixelMatrix :=
  if side ≤ 0 then .error (.notPositive side)
  else if maxSide < side then .error (.tooLarge side)
  else
    match Symbol.ofText? text with
    | none => .error .textTooLong
    | some s =>
      let total := s.side + 2 * marginModules
      if side.toNat < total then .error (.doesNotFit total side.toNat)
      else .ok (draw s side.toNat)

/-- The picture of a text, as an operation that can fail. -/
def encode (text : Bytes) (side : Int) : Outcome PixelMatrix :=
  match picture text side with
  | .ok m => .ok m
  | .error refusal => .error refusal.error

end ReceiptPrinter.Qr
