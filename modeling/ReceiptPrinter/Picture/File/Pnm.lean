/-
Pictures in the portable formats: bitmaps, grey maps, pixel maps, and maps
of any channels, in plain text or packed.

Samples below the full range are stretched to it, and samples of more than
eight bits take two bytes. What follows the last sample does not matter.
-/
import ReceiptPrinter.Picture.File.Trouble
import ReceiptPrinter.Picture.File.Pnm.Header

namespace ReceiptPrinter.Pnm

-- ================================================================= plain

/-- Reads so many dots, one of them black; blanks between them may be left
out. `done` are the samples before. -/
def plainDots : Nat → Array Nat → Bytes → Except Fault (Array Nat)
  | 0, done, _ => .ok done
  | _ + 1, _, [] => .error .fewSamples
  | count + 1, done, b :: rest =>
    if isSpace b then plainDots (count + 1) done rest
    else if b.toNat = 0x30 then plainDots count (done.push 1) rest
    else if b.toNat = 0x31 then plainDots count (done.push 0) rest
    else .error (.rasterByte b)

/-- Reads so many numbers, none above `limit`; `done` are those before. -/
def plainNumbers (limit : Nat) : Nat → Array Nat → Bytes → Except Fault (Array Nat)
  | 0, done, _ => .ok done
  | count + 1, done, bytes => do
    let bytes := bytes.dropWhile isSpace
    let text := bytes.takeWhile (!isSpace ·)
    require (!text.isEmpty) .fewSamples
    let n ← number .sample limit 0 (letters text)
    plainNumbers limit count (done.push n) (bytes.drop text.length)

-- ================================================================ packed

/-- The dots of a packed bitmap row: eight to a byte, the first one in the
highest bit, and one for black. -/
def rowDots (width : Nat) (row : Bytes) : List Nat :=
  let row := row.toArray
  (List.range width).map fun x => 1 - (row.getD (x / 8) 0).toNat >>> (7 - x % 8) % 2

/-- The dots of packed bitmap rows. -/
def packedDots (width : Nat) : Nat → Bytes → List Nat
  | 0, _ => []
  | rows + 1, bytes =>
    let size := (width + 7) / 8
    rowDots width (bytes.take size) ++ packedDots width rows (bytes.drop size)

/-- Numbers of two bytes, the high one first. -/
def pairs : Bytes → List Nat
  | high :: low :: rest => (256 * high.toNat + low.toNat) :: pairs rest
  | _ => []

/-- The first bytes, if there are so many. -/
def firstBytes (count : Nat) (bytes : Bytes) : Except Fault Bytes :=
  if bytes.length < count then .error .cutShort else .ok (bytes.take count)

-- =============================================================== samples

/-- Reads the samples behind a header. -/
def samples (h : Header) (bytes : Bytes) : Except Fault (Array Nat) := do
  let count := h.width * h.height * h.channels.count
  match h.raster with
  | .plainDots => plainDots count #[] bytes
  | .packedDots =>
    let rows ← firstBytes ((h.width + 7) / 8 * h.height) bytes
    return (packedDots h.width h.height rows).toArray
  | .plain => plainNumbers (if h.isWide then 65535 else 255) count #[] bytes
  | .packed =>
    if h.isWide then return (pairs (← firstBytes (2 * count) bytes)).toArray
    else return ((← firstBytes count bytes).map UInt8.toNat).toArray
  | .packedBits =>
    let all := (← firstBytes count bytes).map UInt8.toNat
    match all.find? (1 < ·) with
    | some value => throw (.sampleBound value)
    | none => return all.toArray

/-- How far samples are stretched. -/
def factor (full top : Nat) : Float32 := (Nat.toFloat full).toFloat32 / (Nat.toFloat top).toFloat32

/-- A sample stretched, to the nearest. -/
def stretched (factor : Float32) (v : Nat) : Float32 := ((Nat.toFloat v).toFloat32 * factor).round

/-- A picture of samples up to `top`. What would be above the full range is
cut off. -/
def ofSamples (h : Header) (all : Array Nat) : DecodedImage :=
  ⟨h.width, h.height, h.channels,
   if h.isWide then
     .words (all.map fun v =>
       if h.top = 65535 then v.toUInt16 else (stretched (factor 65535 h.top) v).toUInt16)
   else
     .bytes (all.map fun v =>
       if h.top = 255 then v.toUInt8 else (stretched (factor 255 h.top) v).toUInt8)⟩

/-- Reads a file. -/
def decode (bytes : Bytes) : Except Fault DecodedImage := do
  let (h, bytes) ← Header.read bytes
  let pixelBytes := h.channels.count * (if h.isWide then 2 else 1)
  require (h.width * h.height ≤ mostBytes / pixelBytes) (.unbounded h.width h.height)
  require (h.width * h.height * pixelBytes ≤ mostMemory) .tooLarge
  return ofSamples h (← samples h bytes)

end ReceiptPrinter.Pnm
