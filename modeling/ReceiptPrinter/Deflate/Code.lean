/-
Prefix codes given by the lengths of their words.

The words of one length are consecutive numbers, in the order of their
symbols, and shorter words come before longer ones. So the lengths alone
determine the code. Words are read with the highest bit first.
-/
import ReceiptPrinter.Deflate.Bits

namespace ReceiptPrinter.Deflate

/-- A prefix code: the number of words of each length from one bit on, and
all symbols in the order of their words. -/
structure Code where
  counts : List Nat
  symbols : Array Nat

namespace Code

/-- The longest word, in bits. -/
def longest : Nat := 15

/-- The code whose words have the given lengths; symbols of length zero have
no word. -/
def ofLengths (lengths : List Nat) : Code where
  counts := (List.range longest).map fun n => lengths.count (n + 1)
  symbols := ((List.range longest).flatMap fun n =>
    (lengths.zipIdx.filter fun entry => entry.1 == n + 1).map (·.2)).toArray

/-- How much of all rows of bits begins with a word, in parts of the longest
word. -/
def share (c : Code) : Nat :=
  c.counts.zipIdx.foldl (fun all (count, n) => all + count <<< (longest - 1 - n)) 0

/-- Whether every row of bits begins with exactly one word. -/
def isComplete (c : Code) : Bool := c.share == 1 <<< longest

/-- Whether there is no word, or a single one of one bit. -/
def isTrivial (c : Code) : Bool :=
  c.symbols.isEmpty || (c.symbols.size == 1 && c.counts.head? == some 1)

/-- Reads one word; a row of bits that is none is a flaw. `word` holds the
bits so far, `first` is the first word of their length, and `index` the
place of its symbol. -/
def readFrom (symbols : Array Nat) (flaw : Flaw) : List Nat → Nat → Nat → Nat → Unpacker Nat
  | [], _, _, _ => throw (.flawed flaw)
  | count :: rest, word, first, index => do
    let word := 2 * word + (← Unpacker.bit)
    let first := 2 * first
    if word < first + count then
      match symbols[index + (word - first)]? with
      | some symbol => return symbol
      | none => throw (.flawed flaw)
    else if index + count = symbols.size then throw (.flawed flaw)
    else readFrom symbols flaw rest word (first + count) (index + count)

/-- Reads one symbol. -/
def read (c : Code) (flaw : Flaw) : Unpacker Nat :=
  if c.symbols.isEmpty then throw (.flawed flaw) else readFrom c.symbols flaw c.counts 0 0 0

end Code

end ReceiptPrinter.Deflate
