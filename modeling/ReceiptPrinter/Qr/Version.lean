/-
The forty sizes of QR symbols at the lowest level of error correction.

A version fixes the side of the symbol, the number of data bits, and how
the codewords are split into blocks with codewords of error correction.
-/

namespace ReceiptPrinter.Qr

/-- The modules on a side. -/
def sideOf (version : Nat) : Nat := 17 + 4 * version

/-- The data bits of each version, from the first. -/
def capacities : List Nat :=
  [152, 272, 440, 640, 864, 1088, 1248, 1552, 1856, 2192, 2592, 2960, 3424, 3688, 4184, 4712,
   5176, 5768, 6360, 6888, 7456, 8048, 8752, 9392, 10208, 10960, 11744, 12248, 13048, 13880,
   14744, 15640, 16568, 17528, 18448, 19472, 20528, 21616, 22496, 23648]

/-- The data bits of a version. -/
def capacity (version : Nat) : Nat := capacities.getD (version - 1) 0

/-- The codewords of error correction in every block of each version. -/
def checkCounts : List Nat :=
  [7, 10, 15, 20, 26, 18, 20, 24, 30, 18, 20, 24, 26, 30, 22, 24, 28, 30, 28, 28, 28, 28, 30,
   30, 26, 28, 30, 30, 30, 30, 30, 30, 30, 30, 30, 30, 30, 30, 30, 30]

/-- The codewords of error correction in every block of a version. -/
def checkCount (version : Nat) : Nat := checkCounts.getD (version - 1) 0

/-- The blocks of each version. -/
def blockCounts : List Nat :=
  [1, 1, 1, 1, 1, 2, 2, 2, 2, 4, 4, 4, 4, 4, 6, 6, 6, 6, 7, 8, 8, 9, 9, 10, 12, 12, 12, 13, 14,
   15, 16, 17, 18, 19, 19, 20, 21, 22, 24, 25]

def blockCount (version : Nat) : Nat := blockCounts.getD (version - 1) 1

/-- The smallest version that holds the given number of bits. -/
def versionFor? (bits : Nat) : Option Nat :=
  (capacities.findIdx? (bits ≤ ·)).map (· + 1)

/-- The rows and columns on which alignment patterns are centred. -/
def alignmentCentres (version : Nat) : List Nat :=
  if version ≤ 1 then []
  else
    let count := version / 7 + 2
    let step := if version = 32 then 26 else (version * 4 + count * 2 + 1) / (count * 2 - 2) * 2
    6 :: (List.range (count - 1)).map fun i => sideOf version - 7 - (count - 2 - i) * step

end ReceiptPrinter.Qr
