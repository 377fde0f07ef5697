/-
The header of a BMP file: the size of the picture, and how the bits of a
pixel make a colour.

Numbers go low byte first. The bits of a pixel are either a place in a
palette, or they hold the channels one beside the other; a mask tells which
bits belong to a channel.
-/
import ReceiptPrinter.Bytes
import ReceiptPrinter.Picture.File.Bmp.Fault
import ReceiptPrinter.Picture.File.Trouble

namespace ReceiptPrinter.Bmp

-- =============================================================== numbers

/-- The number of `size` bytes at an offset. -/
def field (bytes : Bytes) (offset size : Nat) : Except Fault Nat :=
  let all := (bytes.drop offset).take size
  if all.length < size then .error .cutShort else .ok (Bytes.littleEndian all)

/-- The number of four bytes at an offset, with a sign. -/
def signedField (bytes : Bytes) (offset : Nat) : Except Fault Int := do
  let n ← field bytes offset 4
  return n.toUInt32.toInt32.toInt

-- ================================================================= masks

/-- The bits of a pixel that belong to a channel, eight of them at most. -/
structure Mask where
  /-- The lowest bit. -/
  shift : Nat
  count : Nat
  deriving DecidableEq, Repr

namespace Mask

/-- The channel in a pixel, stretched to eight bits. -/
def sample (mask : Mask) (pixel : Nat) : UInt8 :=
  let top := (1 <<< mask.count) - 1
  ((510 * (pixel >>> mask.shift % (1 <<< mask.count)) + top) / (2 * top)).toUInt8

/-- The mask that a number of so many bits gives; none if no bit is set. Of
more than eight bits the highest ones count. -/
def ofNat (depth bits : Nat) : Except Fault (Option Mask) :=
  match (List.range 32).find? bits.testBit with
  | none => .ok none
  | some shift => do
    let count := ((List.range 32).takeWhile fun i => bits.testBit (shift + i)).length
    require (bits == ((1 <<< count) - 1) <<< shift) .brokenMask
    require (count + shift ≤ depth) .longMask
    return some (if 8 < count then ⟨shift + (count - 8), 8⟩ else ⟨shift, count⟩)

end Mask

-- ================================================================ layout

/-- What the bits of a pixel stand for. -/
inductive Layout where
  /-- A place among colours, which are red first. -/
  | palette (colours : Array Bytes)
  | masks (red green blue : Mask) (alpha : Option Mask)
  deriving Repr

namespace Layout

/-- Sixteen bits, with five for each colour. -/
def sixteen : Layout := .masks ⟨10, 5⟩ ⟨5, 5⟩ ⟨0, 5⟩ none

/-- A byte for each colour. -/
def full : Layout := .masks ⟨16, 8⟩ ⟨8, 8⟩ ⟨0, 8⟩ none

/-- Reads so many masks, one after another. -/
def readMasks (bytes : Bytes) (depth : Nat) : Nat → Nat → Except Fault (List (Option Mask))
  | _, 0 => .ok []
  | offset, count + 1 => do
    let bits ← field bytes offset 4
    return (← Mask.ofNat depth bits) :: (← readMasks bytes depth (offset + 4) count)

end Layout

/-- What a header says. -/
structure Header where
  width : Nat
  height : Nat
  /-- Whether the first row is the top one. -/
  topDown : Bool
  /-- Bits per pixel. -/
  depth : Nat
  layout : Layout
  /-- Where the rows begin. -/
  offset : Nat

namespace Header

/-- The colours of a palette; each takes three or four bytes, blue first. -/
def colours (bytes : Bytes) (offset each : Nat) (count : Nat) : Except Fault (Array Bytes) := do
  let all := (bytes.drop offset).take (count * each)
  require (all.length == count * each) .cutShort
  let all := all.toArray
  return (Array.range count).map fun i =>
    [all.getD (each * i + 2) 0, all.getD (each * i + 1) 0, all.getD (each * i) 0]

/-- Why there are no pixels in a picture of a size, if there are none. -/
def checkSize (width height : Int) : Except Fault Unit :=
  require (0 < width && 0 < height) (.empty width height)

/-- The old form of the header. -/
def readOld (bytes : Bytes) (offset : Nat) : Except Fault Header := do
  let width ← field bytes 18 2
  let height ← field bytes 20 2
  checkSize width height
  require ((← field bytes 22 2) == 1) .planes
  let depth ← field bytes 24 2
  let layout ←
    if depth == 24 then pure .full
    else if [1, 4, 8].contains depth then Layout.palette <$> colours bytes 26 3 (1 <<< depth)
    else throw (.depth "RGB" depth)
  return ⟨width, height, false, depth, layout, offset⟩

/-- How pixels are laid out, by the number of the packing. `size` is that of
the header. -/
def readLayout (bytes : Bytes) (size depth packing : Nat) : Except Fault Layout := do
  match packing with
  | 0 =>
    require ([1, 2, 4, 8, 16, 24, 32].contains depth) (.depth "RGB" depth)
    let stated ← field bytes 46 4
    require (54 ≤ bytes.length) .cutShort
    if depth ≤ 8 then
      require (stated ≤ 1 <<< depth) (.palette stated depth)
      let count := if stated = 0 then 1 <<< depth else stated
      return .palette (← colours bytes (14 + size) 4 count)
    else return if depth = 16 then .sixteen else .full
  | 1 =>
    require (depth == 8) (.depth "RLE8" depth)
    throw (.foreignPacking "RLE8 compression")
  | 2 =>
    require (depth == 4) (.depth "RLE4" depth)
    throw (.foreignPacking "RLE4 compression")
  | 3 =>
    require (depth == 16 || depth == 32) (.depth "bitfields" depth)
    require (54 ≤ bytes.length) .cutShort
    let count := if size < 56 then 3 else 4
    require (54 + 4 * count ≤ bytes.length) .cutShort
    match ← Layout.readMasks bytes depth 54 count with
    | some red :: some green :: some blue :: rest =>
      return .masks red green blue rest.head?.join
    | _ => throw (.missingMask depth)
  | 4 => throw (.foreignPacking "JPEG compression")
  | 5 => throw (.foreignPacking "PNG compression")
  | 11 | 12 | 13 => throw (.foreignPacking "CMYK format")
  | _ => throw (.packing packing)

/-- The longest that a side may be. -/
def longest : Int := 65535

/-- The newer forms of the header, of the given size. A height below zero
means that the top row comes first. -/
def readNew (bytes : Bytes) (offset size : Nat) : Except Fault Header := do
  let width ← signedField bytes 18
  let stated ← signedField bytes 22
  require (0 ≤ width) (.negativeWidth width)
  require (width ≤ longest && stated ≤ longest) (.longSide width stated)
  require (stated != Int32.minValue.toInt) .lowestHeight
  let topDown := decide (stated < 0)
  checkSize width stated.natAbs
  require ((← field bytes 26 2) == 1) .planes
  let depth ← field bytes 28 2
  let packing ← field bytes 30 4
  require (!topDown || packing == 0 || packing == 3) (.packedFromTop packing)
  let layout ← readLayout bytes size depth packing
  return ⟨width.natAbs, stated.natAbs, topDown, depth, layout, offset⟩

/-- Reads the header of a file. -/
def read (bytes : Bytes) : Except Fault Header := do
  require ((← field bytes 0 2) == 0x4D42) .signature
  require (14 ≤ bytes.length) .cutShort
  let offset ← field bytes 10 4
  let size ← field bytes 14 4
  if size == 12 then readOld bytes offset
  else if [40, 52, 56, 108, 124].contains size then readNew bytes offset size
  else throw (if size < 12 then .smallHeader size else .unknownHeader size)

end Header

end ReceiptPrinter.Bmp
