/-
The rows of a PNG picture.

Each row is stored as differences to the bytes before and above, behind the
number of the filter that tells which. Interlaced pictures come in seven
passes, each with a part of the columns and rows.
-/
import ReceiptPrinter.Picture.File.Png.Header

namespace ReceiptPrinter.Png

-- =============================================================== filters

/-- Of left, above and above left, the one nearest to left plus above minus
above left. -/
def nearest (left above corner : UInt8) : UInt8 :=
  let estimate : Int := (left.toNat : Int) + above.toNat - corner.toNat
  let off := fun (v : UInt8) => (estimate - v.toNat).natAbs
  if off left ≤ off above ∧ off left ≤ off corner then left
  else if off above ≤ off corner then above
  else corner

/-- What is added to a stored byte, if there is such a filter. -/
def prediction? (filter : Nat) : Option (UInt8 → UInt8 → UInt8 → UInt8) :=
  match filter with
  | 0 => some fun _ _ _ => 0
  | 1 => some fun left _ _ => left
  | 2 => some fun _ above _ => above
  | 3 => some fun left above _ => ((left.toNat + above.toNat) / 2).toUInt8
  | 4 => some nearest
  | _ => none

/-- Restores a row from what is stored and the row above. -/
def restoreRow (prediction : UInt8 → UInt8 → UInt8 → UInt8) (stride : Nat) (above : Array UInt8)
    (stored : Bytes) : Array UInt8 :=
  stored.foldl (fun row b =>
    let i := row.size
    let back := fun (line : Array UInt8) => if i < stride then 0 else line.getD (i - stride) 0
    row.push (b + prediction (back row) (above.getD i 0) (back above))) #[]

-- ================================================================ passes

/-- A pass: the first column and row, and the steps from one to the next. -/
structure Pass where
  x : Nat
  y : Nat
  dx : Nat
  dy : Nat

/-- The only pass of a picture that is not interlaced. -/
def plainPass : Pass := ⟨0, 0, 1, 1⟩

/-- The passes of an interlaced picture. -/
def interlacedPasses : List Pass :=
  [⟨0, 0, 8, 8⟩, ⟨4, 0, 8, 8⟩, ⟨0, 4, 4, 8⟩, ⟨2, 0, 4, 4⟩, ⟨0, 2, 2, 4⟩, ⟨1, 0, 2, 2⟩, ⟨0, 1, 1, 2⟩]

namespace Pass

/-- The number of places from `start` on in steps below `size`. -/
def places (start step size : Nat) : Nat := (size + step - 1 - start) / step

/-- The columns of a pass. -/
def width (p : Pass) (h : Header) : Nat := places p.x p.dx h.width

/-- The rows of a pass; a pass without columns has none. -/
def height (p : Pass) (h : Header) : Nat := if p.width h = 0 then 0 else places p.y p.dy h.height

/-- Whether a pixel belongs to a pass. -/
def holds (p : Pass) (x y : Nat) : Bool :=
  p.x ≤ x && (x - p.x) % p.dx == 0 && p.y ≤ y && (y - p.y) % p.dy == 0

/-- Bytes of a pass, with the filter numbers. -/
def size (p : Pass) (h : Header) : Nat := p.height h * (h.rowBytes (p.width h) + 1)

end Pass

/-- The passes of a picture. -/
def Header.passes (h : Header) : List Pass :=
  if h.interlaced then interlacedPasses else [plainPass]

-- ================================================================== rows

/-- Restores so many rows of `width` bytes: the rows, and what is left or why
it ends. `missing` is the fault if the stored bytes do not suffice, and
`check` looks whether a restored row can be used. -/
def restoreRows (missing : Fault) (check : Except Fault Unit) (width stride : Nat) :
    Nat → Array UInt8 → Bytes → Except Fault (List (Array UInt8) × Bytes)
  | 0, _, stored => .ok ([], stored)
  | rows + 1, above, stored => do
    match stored with
    | [] => throw missing
    | filter :: rest =>
      require (width ≤ rest.length) missing
      let some prediction := prediction? filter.toNat | throw (.filter filter.toNat)
      let row := restoreRow prediction stride above (rest.take width)
      check
      let (below, rest) ← restoreRows missing check width stride rows row (rest.drop width)
      return (row :: below, rest)

/-- Restores the rows of passes, those of each pass together. -/
def restorePasses (missing : Fault) (check : Except Fault Unit) (h : Header) :
    List Pass → Bytes → Except Fault (List (Array (Array UInt8)))
  | [], _ => .ok []
  | p :: rest, stored => do
    let (rows, stored) ←
      restoreRows missing check (h.rowBytes (p.width h)) h.stride (p.height h) #[] stored
    return rows.toArray :: (← restorePasses missing check h rest stored)

-- =============================================================== samples

/-- The sample with the given index in a row. -/
def sampleAt (depth : Nat) (row : Array UInt8) (i : Nat) : Nat :=
  if depth = 16 then 256 * (row.getD (2 * i) 0).toNat + (row.getD (2 * i + 1) 0).toNat
  else
    let perByte := 8 / depth
    (row.getD (i / perByte) 0).toNat >>> (8 - depth * (i % perByte + 1)) % (1 <<< depth)

/-- The samples of a pixel, taken from the pass that holds it. -/
def pixelSamples (h : Header) (passes : List (Pass × Array (Array UInt8))) (x y : Nat) :
    List Nat :=
  match passes.find? fun (p, _) => p.holds x y with
  | none => []
  | some (p, rows) =>
    let row := rows.getD ((y - p.y) / p.dy) #[]
    let count := h.colour.samples
    (List.range count).map fun i => sampleAt h.depth row ((x - p.x) / p.dx * count + i)

/-- The samples of all pixels, row by row. -/
def pixels (h : Header) (passes : List (Pass × Array (Array UInt8))) : List (List Nat) :=
  (List.range h.height).flatMap fun y => (List.range h.width).map fun x =>
    pixelSamples h passes x y

end ReceiptPrinter.Png
