/-
What can be wrong with a PNG file.

Chunks are named by four bytes, and the letter case of each says something
about the chunk: whether a reader must know it, whether it is private,
whether the name is reserved, and whether the chunk may be copied into a
changed file.
-/
import ReceiptPrinter.Deflate.Bits
import ReceiptPrinter.Picture.File.Trouble
import ReceiptPrinter.Text.Shown

namespace ReceiptPrinter.Png

-- ================================================================= names

abbrev ChunkName := Bytes

/-- The name with the given letters. -/
def chunkName (letters : String) : ChunkName := utf8 letters.toList

/-- Whether the letter of a name with the given index is a small one. -/
def isSmall (name : ChunkName) (i : Nat) : Bool := (name.getD i 0).toNat / 32 % 2 == 1

/-- Whether a reader must know the chunk. -/
def isCritical (name : ChunkName) : Bool := !isSmall name 0

/-- A name with what its letter case says. -/
def described (name : ChunkName) : String :=
  let letters := String.ofList (name.flatMap fun b => Text.shownNameChar (Char.ofNat b.toNat))
  s!"ChunkType \x7B type: {letters}, critical: {isCritical name}, " ++
    s!"private: {isSmall name 1}, reserved: {isSmall name 2}, safecopy: {isSmall name 3} \x7D"

-- ================================================================ faults

/-- Why a file holds no picture. -/
inductive Fault where
  /-- The file ends too early. -/
  | cutShort
  /-- The picture would take too much memory. -/
  | tooLarge
  | signature
  /-- A chunk comes before the header. -/
  | early (chunk : ChunkName)
  | checkSum (chunk : ChunkName) (stated computed : UInt32)
  | shortChunk (chunk : ChunkName)
  | unknownChunk (chunk : ChunkName)
  | secondChunk (chunk : ChunkName)
  /-- A chunk goes on with data that have not begun. -/
  | restart (chunk : ChunkName)
  | size
  | depth (bits : Nat)
  | colourType (number : Nat)
  | colourDepth (colour depth : String)
  | compression (number : Nat)
  | filter (number : Nat)
  | interlacing (number : Nat)
  /-- There are no data of the picture at all. -/
  | noData
  /-- The data do not suffice for all rows. -/
  | fewData
  | packing (flaw : Deflate.Flaw)
  /-- The packed data end too early. -/
  | packingCut
  | noPalette
  deriving DecidableEq, Repr

/-- A number in hex with its mark. -/
def hexText (n : UInt32) : String := "0x" ++ String.ofList (Nat.toDigits 16 n.toNat)

def Fault.trouble : Fault → Trouble
  | cutShort => .endsEarly
  | tooLarge => .tooLarge
  | signature => .form "Invalid PNG signature."
  | early chunk => .form s!"{described chunk} chunk appeared before IHDR chunk"
  | checkSum chunk stated computed =>
    .form (s!"CRC error: expected {hexText stated} have {hexText computed} while decoding " ++
      s!"{described chunk} chunk.")
  | shortChunk chunk => .form s!"Chunk is too short: {described chunk}"
  | unknownChunk chunk => .form s!"Unrecognized critical chunk: {described chunk}"
  | secondChunk chunk => .form s!"Chunk {described chunk} is duplicated."
  | restart chunk => .form s!"Unexpected restart of {described chunk} chunk sequence"
  | size => .form "Invalid image dimensions"
  | depth bits => .form s!"Invalid bit depth {bits}."
  | colourType number => .form s!"Invalid color type {number}."
  | colourDepth colour bits =>
    .form s!"Invalid color/depth combination in header: {colour}/{bits}"
  | compression number => .form s!"Unknown compression method {number}."
  | filter number => .form s!"Unknown filter method {number}."
  | interlacing number => .form s!"Unknown interlace method {number}."
  | noData => .form "IDAT or fDAT chunk is missing."
  | fewData => .form "IDAT or fDAT chunk does not have enough data for image."
  | packing flaw => .form s!"Corrupt deflate stream. {flaw.name}"
  | packingCut => .form "Corrupt deflate stream. InsufficientInput"
  | noPalette => .form "Missing palette of indexed image."

end ReceiptPrinter.Png
