/-
Letters beyond ASCII, written with ASCII letters and digits.

The ASCII characters of a label come first, with a hyphen behind them. The
others follow in the order of their code points, and of their places where
these are the same. Each is given by a number: how many pairs of a code
point and a place lie between it and the one before. Numbers are written
with 36 digits, lowest first; the threshold of a place tells whether the
number goes on, and thresholds move with the numbers that were written.
-/
import ReceiptPrinter.Text.Basic

namespace ReceiptPrinter.Fetch.Host.Punycode

-- =============================================================== numbers

/-- The digit of a value below 36. -/
def digit (value : Nat) : Char := Char.ofNat (if value < 26 then 97 + value else 22 + value)

/-- The value of a digit. -/
def value? (c : Char) : Option Nat :=
  if 'a' ≤ c ∧ c ≤ 'z' then some (c.toNat - 97)
  else if '0' ≤ c ∧ c ≤ '9' then some (c.toNat - 22)
  else none

/-- The least digit that goes on at a place; places are counted in steps
of 36. -/
def threshold (place bias : Nat) : Nat := max 1 (min 26 (place - bias))

theorem threshold_bounds (place bias : Nat) :
    1 ≤ threshold place bias ∧ threshold place bias ≤ 26 := by
  unfold threshold
  omega

/-- A number in digits, from a place on. -/
def digits (bias place n : Nat) : List Char :=
  let t := threshold place bias
  if n < t then [digit n]
  else digit (t + (n - t) % (36 - t)) :: digits bias (place + 36) ((n - t) / (36 - t))
termination_by n
decreasing_by
  have := threshold_bounds place bias
  exact Nat.lt_of_le_of_lt (Nat.div_le_self ..) (by omega)

/-- Reads a number from a place on, where a digit weighs so much; what
follows it. -/
def number? (bias : Nat) : Nat → Nat → List Char → Option (Nat × List Char)
  | _, _, [] => none
  | place, weight, c :: rest => do
    let value ← value? c
    let t := threshold place bias
    if value < t then return (value * weight, rest)
    let (n, rest) ← number? bias (place + 36) (weight * (36 - t)) rest
    return (value * weight + n, rest)

/-- The bias that fits numbers of a size; `place` is where it stands for a
small one. -/
def biasOf (place n : Nat) : Nat :=
  if n ≤ 455 then place + 36 * n / (n + 38) else biasOf (place + 36) (n / 35)
termination_by n
decreasing_by omega

/-- The bias behind a number, when so many characters have been told. -/
def nextBias (first : Bool) (n count : Nat) : Nat :=
  let n := if first then n / 700 else n / 2
  biasOf 0 (n + n / count)

-- =============================================================== writing

/-- Whether a character is ASCII. -/
def isPlain (c : Char) : Bool := c.toNat < 128

/-- How far the writing has come: the text so far, the pairs since the last
character, the bias, and the number of characters told. -/
structure Pen where
  text : List Char
  skipped : Nat
  bias : Nat
  count : Nat

/-- Goes past a place of the label when characters like `mark` are written;
`plain` is the number of ASCII characters. -/
def Pen.pass (plain mark : Nat) (pen : Pen) (c : Char) : Pen :=
  if c.toNat < mark then { pen with skipped := pen.skipped + 1 }
  else if c.toNat = mark then
    ⟨pen.text ++ digits pen.bias 36 pen.skipped, 0,
      nextBias (pen.count == plain) pen.skipped (pen.count + 1), pen.count + 1⟩
  else pen

/-- Writes the characters of the code points, which are in order; `next` is
the first code point that has not been looked at. -/
def Pen.write (label : List Char) (plain : Nat) : List Nat → Nat → Pen → Pen
  | [], _, pen => pen
  | mark :: marks, next, pen =>
    let pen := { pen with skipped := pen.skipped + (mark - next) * (pen.count + 1) }
    let pen := label.foldl (Pen.pass plain mark) pen
    Pen.write label plain marks (mark + 1) { pen with skipped := pen.skipped + 1 }

/-- A label in ASCII. -/
def encode (label : List Char) : List Char :=
  let plain := label.filter isPlain
  let marks := ((label.filter (!isPlain ·)).map Char.toNat).mergeSort.eraseDups
  let start := if plain.isEmpty then [] else plain ++ ['-']
  (Pen.write label plain.length marks 128 ⟨start, 0, 72, plain.length⟩).text

-- =============================================================== reading

/-- Puts in the characters that are told, at most `fuel`. `at_` is the place
where counting goes on, `point` the code point. -/
def insertAll? : Nat → Nat → Nat → Nat → List Char → List Char → Option (List Char)
  | _, _, _, _, label, [] => some label
  | 0, _, _, _, _, _ => none
  | fuel + 1, bias, point, at_, label, code => do
    let (n, code) ← number? bias 36 1 code
    let count := label.length + 1
    let point := point + (at_ + n) / count
    let place := (at_ + n) % count
    guard (Nat.isValidChar point)
    insertAll? fuel (nextBias (at_ == 0) n count) point (place + 1)
      (label.take place ++ Char.ofNat point :: label.drop place) code

/-- The label that a text stands for. -/
def decode? (text : List Char) : Option (List Char) :=
  let (plain, code) := match Text.splitOnce? '-' text.reverse with
    | some (code, plain) => (plain.reverse, code.reverse)
    | none => ([], text)
  if plain.all isPlain then insertAll? code.length 72 128 0 plain code else none

end ReceiptPrinter.Fetch.Host.Punycode
