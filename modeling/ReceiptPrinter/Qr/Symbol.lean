/-
The layout of a symbol.

Some modules of a symbol never change: the three finder patterns with
their light borders, the timing patterns, the alignment patterns, the
version numbers and one dark module. Around the finders stand the format
bits, which name the mask. All other modules hold the codewords, placed in
columns of two from the right, upwards and downwards in turn, and inverted
where the mask says so; what the codewords leave over is light before
masking. The mask is the first of eight with the least penalty.
-/
import ReceiptPrinter.Qr.Check
import ReceiptPrinter.Qr.Pack

namespace ReceiptPrinter.Qr

/-- A square of modules, row by row; dark ones are true. -/
structure Symbol where
  side : Nat
  modules : Array Bool
  deriving DecidableEq

/-- Whether the module in column `x` of row `y` is dark. -/
def Symbol.dark (s : Symbol) (x y : Nat) : Bool := s.modules.getD (y * s.side + x) false

-- ======================================================== fixed patterns

/-- The larger of the distances in x and y. -/
def ring (x y cx cy : Nat) : Nat := max (max x cx - min x cx) (max y cy - min y cy)

/-- A finder pattern with its border: rings around a centre. -/
def finder? (x y cx cy : Nat) : Option Bool :=
  let r := ring x y cx cy
  if r ≤ 4 then some (r != 2 && r != 4) else none

/-- The finder pattern that a module belongs to. -/
def finderAt? (side x y : Nat) : Option Bool :=
  (finder? x y 3 3).or ((finder? x y (side - 4) 3).or (finder? x y 3 (side - 4)))

/-- The alignment pattern that a module belongs to. The three that would
touch a finder are left out. -/
def alignmentAt? (centres : List Nat) (side x y : Nat) : Option Bool := do
  let cx ← centres.find? fun c => max x c - min x c ≤ 2
  let cy ← centres.find? fun c => max y c - min y c ≤ 2
  let last := side - 7
  if (cx = 6 ∧ cy = 6) ∨ (cx = last ∧ cy = 6) ∨ (cx = 6 ∧ cy = last) then none
  else some (ring x y cx cy != 1)

/-- The timing pattern that a module belongs to. -/
def timingAt? (x y : Nat) : Option Bool :=
  if y = 6 then some (x % 2 == 0) else if x = 6 then some (y % 2 == 0) else none

/-- A number followed by its remainder of `degree` bits on division by a
polynomial over the field of two elements. -/
def withChecks (degree polynomial n : Nat) : Nat :=
  let rest := (List.range degree).foldl (fun rest _ =>
    rest * 2 ^^^ (rest >>> (degree - 1)) * polynomial) n
  n <<< degree ^^^ rest % (1 <<< degree)

/-- The version bit that a module holds, in symbols from version 7 on. -/
def versionAt? (version side x y : Nat) : Option Bool :=
  if version < 7 then none
  else
    let bits := withChecks 12 0x1F25 version
    if side - 11 ≤ x ∧ x ≤ side - 9 ∧ y ≤ 5 then some (bits.testBit (y * 3 + (x - (side - 11))))
    else if side - 11 ≤ y ∧ y ≤ side - 9 ∧ x ≤ 5 then
      some (bits.testBit (x * 3 + (y - (side - 11))))
    else none

/-- The format bits of a mask at the lowest level of error correction. -/
def formatBits (mask : Nat) : Nat := withChecks 10 0x537 (8 + mask) ^^^ 0x5412

/-- The number of the format bit that a module holds; each is there twice. -/
def formatIndex? (side x y : Nat) : Option Nat :=
  if x = 8 ∧ y ≤ 5 then some y
  else if x = 8 ∧ y = 7 then some 6
  else if x = 8 ∧ y = 8 then some 7
  else if x = 7 ∧ y = 8 then some 8
  else if y = 8 ∧ x ≤ 5 then some (14 - x)
  else if y = 8 ∧ side - 8 ≤ x ∧ x < side then some (side - 1 - x)
  else if x = 8 ∧ side - 7 ≤ y ∧ y < side then some (y + 15 - side)
  else none

/-- A module that never changes, format bits apart. -/
def fixedAt? (version : Nat) (centres : List Nat) (x y : Nat) : Option Bool :=
  let side := sideOf version
  if x = 8 ∧ y = side - 8 then some true
  else
    (finderAt? side x y).or ((alignmentAt? centres side x y).or
      ((timingAt? x y).or (versionAt? version side x y)))

/-- What a module is for. -/
inductive Role where
  | fixed (dark : Bool)
  | format (index : Nat)
  | data
  deriving DecidableEq, Repr

/-- What the module in column `x` of row `y` is for. -/
def roleAt (version : Nat) (centres : List Nat) (x y : Nat) : Role :=
  match formatIndex? (sideOf version) x y with
  | some index => .format index
  | none =>
    match fixedAt? version centres x y with
    | some dark => .fixed dark
    | none => .data

/-- What every module is for, row by row. -/
def roles (version : Nat) : Array Role :=
  let side := sideOf version
  let centres := alignmentCentres version
  Array.ofFn fun i : Fin (side * side) => roleAt version centres (i.val % side) (i.val / side)

-- ============================================================= placement

/-- All modules in the order in which codewords are placed, as indices. The
column of the timing pattern is passed over. -/
def placementOrder (side : Nat) : List Nat :=
  (List.range ((side - 1) / 2)).flatMap fun pair =>
    let right := side - 1 - 2 * pair
    let right := if right ≤ 6 then right - 1 else right
    let downwards := (List.range side).flatMap fun y => [y * side + right, y * side + right - 1]
    if pair % 2 = 0 then
      (List.range side).flatMap fun k =>
        let y := side - 1 - k
        [y * side + right, y * side + right - 1]
    else downwards

/-- The data bits in their modules; all other modules are light. -/
def placed (side : Nat) (roles : Array Role) (codewords : Bytes) : Array Bool :=
  let places := (placementOrder side).filter fun i => roles.getD i (.fixed false) = .data
  let bits := codewords.flatMap fun b => bitsOf 8 b.toNat
  (places.zip bits).foldl (fun modules (i, bit) => modules.setIfInBounds i bit)
    (Array.replicate (side * side) false)

/-- Whether a mask inverts the module in column `x` of row `y`. -/
def inverts (mask x y : Nat) : Bool :=
  match mask with
  | 0 => (x + y) % 2 == 0
  | 1 => y % 2 == 0
  | 2 => x % 3 == 0
  | 3 => (x + y) % 3 == 0
  | 4 => (x / 3 + y / 2) % 2 == 0
  | 5 => x * y % 2 + x * y % 3 == 0
  | 6 => (x * y % 2 + x * y % 3) % 2 == 0
  | _ => ((x + y) % 2 + x * y % 3) % 2 == 0

/-- The symbol with the given mask. -/
def masked (side : Nat) (roles : Array Role) (data : Array Bool) (mask : Nat) : Symbol :=
  let format := formatBits mask
  ⟨side, Array.ofFn fun i : Fin (side * side) =>
    match roles.getD i .data with
    | .fixed dark => dark
    | .format index => format.testBit index
    | .data => data.getD i false != inverts mask (i.val % side) (i.val / side)⟩

-- =============================================================== penalty

/-- Runs of five or more equal modules in a line. -/
def runPenaltyFrom : Option Bool → Nat → List Bool → Nat
  | _, length, [] => if 5 ≤ length then length - 2 else 0
  | last, length, b :: rest =>
    if last = some b then runPenaltyFrom last (length + 1) rest
    else (if 5 ≤ length then length - 2 else 0) + runPenaltyFrom (some b) 1 rest

/-- Runs of five or more equal modules in a line. -/
def runPenalty (line : List Bool) : Nat := runPenaltyFrom none 0 line

/-- The dark and light modules in the middle of a finder pattern. -/
def finderCore : List Bool := [true, false, true, true, true, false, true]

/-- Finder cores in a line, those that have four light modules on one side;
`before` are the modules already passed, in reverse. -/
def corePenaltyFrom (before : List Bool) : List Bool → Nat
  | [] => 0
  | b :: rest =>
    (if finderCore.isPrefixOf (b :: rest) ∧
        (!(before.take 4).any id ∨ !((rest.drop 6).take 4).any id) then 40 else 0) +
      corePenaltyFrom (b :: before) rest

/-- Two by two squares of equal modules in two neighbouring lines. -/
def blockPenalty : List Bool → List Bool → Nat
  | a :: b :: above, c :: d :: below =>
    (if a = b ∧ a = c ∧ a = d then 3 else 0) + blockPenalty (b :: above) (d :: below)
  | _, _ => 0

/-- The penalty of all lines in one direction. -/
def linePenalty (lines : List (List Bool)) : Nat :=
  (lines.map runPenalty).foldl (· + ·) 0 + ((lines.map (corePenaltyFrom [])).foldl (· + ·) 0 - 360)

/-- How unpleasant a symbol is for a scanner. -/
def Symbol.penalty (s : Symbol) : Nat :=
  let side := List.range s.side
  let rows := side.map fun y => side.map fun x => s.dark x y
  let columns := side.map fun x => side.map fun y => s.dark x y
  let blocks := (List.zipWith blockPenalty rows (rows.drop 1)).foldl (· + ·) 0
  let share := (s.modules.toList.count true) * 200 / s.modules.size
  linePenalty rows + linePenalty columns + blocks + (max share 100 - min share 100)

/-- The better of two symbols; the first if they are alike. -/
def better (a b : Symbol × Nat) : Symbol × Nat := if b.2 < a.2 then b else a

/-- The symbol that holds the given codewords. -/
def Symbol.ofCodewords (version : Nat) (all : Bytes) : Symbol :=
  let side := sideOf version
  let roles := roles version
  let data := placed side roles all
  let rated := fun mask =>
    let s := masked side roles data mask
    (s, s.penalty)
  ((List.range 7).foldl (fun best mask => better best (rated (mask + 1))) (rated 0)).1

/-- The symbol of a text; none if the text is too long. -/
def Symbol.ofText? (text : Bytes) : Option Symbol :=
  (pack? text).map fun payload =>
    ofCodewords payload.version (codewords payload.version payload.codewords)

end ReceiptPrinter.Qr
