/-
The shortest decimal form of a double.

`shortest m q` finds the fewest digits that single out the number m * 2^q
among all doubles, and of those the nearest to it. Everything is exact
arithmetic on natural numbers: a number is a fraction, and the reals that
round to it form an interval whose ends belong to it when m is even.
-/

namespace ReceiptPrinter.Shortest

/-- A decimal: its digits as one number, and the power of ten that the last
of them stands for. -/
structure Decimal where
  digits : Nat
  exponent : Int
  deriving DecidableEq, Repr

/-- A non-negative fraction. -/
structure Ratio where
  num : Nat
  den : Nat

namespace Ratio

/-- The fraction m * 2^q. -/
def binary (m : Nat) (q : Int) : Ratio :=
  if q < 0 then ⟨m, 1 <<< q.natAbs⟩ else ⟨m <<< q.natAbs, 1⟩

/-- The fraction d * 10^k. -/
def decimal (d : Nat) (k : Int) : Ratio :=
  if k < 0 then ⟨d, Nat.pow 10 k.natAbs⟩ else ⟨d * Nat.pow 10 k.natAbs, 1⟩

/-- Whether one fraction is below another. -/
def lt (a b : Ratio) : Bool := a.num * b.den < b.num * a.den

/-- Whether one fraction is at most another. -/
def le (a b : Ratio) : Bool := a.num * b.den ≤ b.num * a.den

/-- The distance of two fractions. -/
def distance (a b : Ratio) : Ratio :=
  let x := a.num * b.den
  let y := b.num * a.den
  ⟨max x y - min x y, a.den * b.den⟩

/-- The whole multiples of 10^k in a fraction. -/
def wholePowers (a : Ratio) (k : Int) : Nat :=
  if k < 0 then a.num * Nat.pow 10 k.natAbs / a.den else a.num / (a.den * Nat.pow 10 k.natAbs)

end Ratio

/-- The reals that round to a double. -/
structure Interval where
  lower : Ratio
  upper : Ratio
  closed : Bool

/-- Whether a fraction lies in an interval. -/
def Interval.holds (i : Interval) (a : Ratio) : Bool :=
  if i.closed then i.lower.le a && a.le i.upper else i.lower.lt a && a.lt i.upper

/-- The reals that round to m * 2^q. Below a power of two the doubles are
twice as dense, which `atPower` says. -/
def roundingInterval (m : Nat) (q : Int) (atPower : Bool) : Interval :=
  ⟨if atPower then Ratio.binary (4 * m - 1) (q - 2) else Ratio.binary (2 * m - 1) (q - 1),
   Ratio.binary (2 * m + 1) (q - 1), m % 2 == 0⟩

/-- The exponent of the leading digit of a positive fraction. -/
def leadingExponent (a : Ratio) : Int :=
  let digits (n : Nat) : Int := (Nat.toDigits 10 n).length
  let guess := digits a.num - digits a.den
  if (Ratio.decimal 1 guess).le a then guess else guess - 1

/-- The nearest decimal of `n` digits within the interval, if there is one. -/
def withDigits? (value : Ratio) (interval : Interval) (lead : Int) (n : Nat) : Option Decimal :=
  let k := lead - (n : Int) + 1
  let below := value.wholePowers k
  let candidates := [below, below + 1].filter fun d => interval.holds (Ratio.decimal d k)
  match candidates with
  | [] => none
  | [d] => some ⟨d, k⟩
  | d :: e :: _ =>
    let near := (value.distance (Ratio.decimal e k)).lt (value.distance (Ratio.decimal d k))
    some ⟨if near then e else d, k⟩

/-- The shortest decimal that rounds to m * 2^q, for positive m. Seventeen
digits always suffice. -/
def shortest (m : Nat) (q : Int) (atPower : Bool) : Decimal :=
  let value := Ratio.binary m q
  let interval := roundingInterval m q atPower
  let lead := leadingExponent value
  ((List.range 17).findSome? fun n => withDigits? value interval lead (n + 1)).getD ⟨0, 0⟩

/-- Drops the zeros at the end of a decimal. -/
def trimZeros : Nat → Decimal → Decimal
  | 0, d => d
  | fuel + 1, d =>
    if d.digits ≠ 0 ∧ d.digits % 10 = 0 then trimZeros fuel ⟨d.digits / 10, d.exponent + 1⟩ else d

/-- The sign of a finite double and the shortest decimal for its size; zero
has no digits. -/
def ofFloat (f : Float) : Bool × Decimal :=
  let bits := f.toBits.toNat
  let negative := bits.testBit 63
  let field := bits >>> 52 % (1 <<< 11)
  let fraction := bits % (1 <<< 52)
  if field = 0 ∧ fraction = 0 then (negative, ⟨0, 0⟩)
  else
    let m := if field = 0 then fraction else fraction + (1 <<< 52)
    let q : Int := ((max field 1 : Nat) : Int) - 1075
    (negative, trimZeros 20 (shortest m q (fraction = 0 ∧ 1 < field)))

-- ================================================================= text

/-- How a number is written out in a message: positionally when its leading
digit stands between the fifth place behind the point and the sixteenth
before it, otherwise with an exponent of at least two digits and a sign. A
positional number always shows a point. -/
def floatText (f : Float) : String :=
  let (negative, d) := ofFloat f
  let sign := if negative then "-" else ""
  if d.digits = 0 then sign ++ "0.0"
  else
    let digits := Nat.toDigits 10 d.digits
    let count : Int := digits.length
    let point := count + d.exponent
    let zeros := fun (n : Int) => List.replicate n.toNat '0'
    let body :=
      if 0 ≤ d.exponent ∧ point ≤ 16 then digits ++ zeros d.exponent ++ ['.', '0']
      else if 0 < point ∧ point ≤ 16 then
        digits.take point.toNat ++ ['.'] ++ digits.drop point.toNat
      else if -5 < point ∧ point ≤ 0 then ['0', '.'] ++ zeros (-point) ++ digits
      else
        let e := point - 1
        let shown := Nat.toDigits 10 e.natAbs
        digits.take 1 ++ (if digits.length = 1 then [] else '.' :: digits.drop 1) ++
          ['e', if e < 0 then '-' else '+'] ++ (if shown.length < 2 then '0' :: shown else shown)
    sign ++ String.ofList body

end ReceiptPrinter.Shortest
