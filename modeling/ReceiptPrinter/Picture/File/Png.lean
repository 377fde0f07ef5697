/-
Pictures in the PNG format.

The rows of the picture are packed, and the packed data are spread over a
row of chunks. They are looked at chunk by chunk: what is wrong with a row
counts before what is wrong with later chunks, and once all rows are there
the rest of the data only has to be in order as chunks.
-/
import ReceiptPrinter.Deflate.Inflate
import ReceiptPrinter.Picture.File.Trouble
import ReceiptPrinter.Picture.File.Png.Chunk
import ReceiptPrinter.Picture.File.Png.Row

namespace ReceiptPrinter.Png

/-- The bytes that every file begins with. -/
def signature : Bytes := [0x89, 0x50, 0x4E, 0x47, 0x0D, 0x0A, 0x1A, 0x0A]

/-- What follows the signature, which is read in two halves. -/
def afterSignature (bytes : Bytes) : Except Fault Bytes := do
  require (4 ≤ bytes.length) .cutShort
  require (bytes.take 4 == signature.take 4) .signature
  require (8 ≤ bytes.length) .cutShort
  require (bytes.take 8 == signature) .signature
  return bytes.drop 8

-- ================================================================ supply

/-- How many unpacked bytes come from pieces when so many are needed, and the
fault that comes behind them, if any. The pieces go on where `bits` bits
have been supplied, and `fault` ends them. Once there are enough bytes no
further piece is unpacked. -/
def supply (u : Deflate.Unpacked) (needed : Nat) (fault : Option Fault) :
    Nat → List Bytes → Nat × Option Fault
  | bits, [] =>
    (u.countBy bits, some (fault.getD (if u.stop.isSome then .packingCut else .fewData)))
  | bits, piece :: rest =>
    let more := bits + 8 * piece.length
    match u.flawBy? more with
    | some flaw => (u.countBy bits, some (.packing flaw))
    | none =>
      if needed ≤ u.countBy more then (u.countBy more, fault) else supply u needed fault more rest

-- =============================================================== samples

/-- A sample of a lower depth in eight bits. -/
def widen (depth sample : Nat) : UInt8 := (sample * 255 / ((1 <<< depth) - 1)).toUInt8

/-- Samples of a depth as the samples of a decoded picture. -/
def toSamples (depth : Nat) (all : List Nat) : Samples :=
  if depth = 16 then .words (all.map Nat.toUInt16).toArray
  else .bytes (all.map (widen depth)).toArray

/-- The same channels with alpha. -/
def withAlpha : Channels → Channels
  | .gray | .grayAlpha => .grayAlpha
  | .rgb | .rgba => .rgba

/-- A picture whose samples are colours. One colour may be transparent. -/
def direct (h : Header) (channels : Channels) (pixels : List (List Nat))
    (clear : Option (List Nat)) : DecodedImage :=
  match clear with
  | none => ⟨h.width, h.height, channels, toSamples h.depth pixels.flatten⟩
  | some clear =>
    let all := pixels.flatMap fun pixel =>
      pixel ++ [if pixel == clear then 0 else (1 <<< h.depth) - 1]
    ⟨h.width, h.height, withAlpha channels, toSamples h.depth all⟩

/-- The colour with the given index in a palette; black past its end. -/
def paletteColour (palette : Array UInt8) (i : Nat) : Bytes :=
  [palette.getD (3 * i) 0, palette.getD (3 * i + 1) 0, palette.getD (3 * i + 2) 0]

/-- A picture whose samples are places in a palette. Alpha may be given for
the first places, but not for more places than there are. -/
def indexed (h : Header) (palette : Bytes) (pixels : List (List Nat))
    (clear : Option (List Nat)) : DecodedImage :=
  let colours := palette.toArray
  let places := pixels.flatten
  match clear with
  | none => ⟨h.width, h.height, .rgb, .bytes (places.flatMap (paletteColour colours)).toArray⟩
  | some alphas =>
    let alphas := if alphas.length ≤ palette.length / 3 then alphas.toArray else #[]
    let all := places.flatMap fun i => paletteColour colours i ++ [(alphas.getD i 255).toUInt8]
    ⟨h.width, h.height, .rgba, .bytes all.toArray⟩

-- =============================================================== picture

/-- Channels of the decoded picture. -/
def channelsOf (h : Header) (front : Front) : Channels :=
  let channels := match h.colour with
    | .direct channels => channels
    | .palette => .rgb
  if front.clear.isSome then withAlpha channels else channels

/-- Whether a row can be used: places in a palette need one. -/
def usable (h : Header) (front : Front) : Except Fault Unit :=
  require (h.colour != .palette || front.palette.isSome) .noPalette

/-- Reads a file. -/
def decode (bytes : Bytes) : Except Fault DecodedImage := do
  let bytes ← afterSignature bytes
  let (h, front, length, bytes) ← Front.read bytes
  let size := h.width * h.height * (channelsOf h front).count * (if h.depth = 16 then 2 else 1)
  require (size ≤ mostMemory) .tooLarge
  let run := dataOf (bytes.length + 1) length bytes
  let u := Deflate.unpack run.pieces.flatten.toArray
  let needed := (h.passes.map (·.size h)).foldl (· + ·) 0
  let (count, fault) := supply u needed run.fault 0 run.pieces
  let stored := u.bytes.toList.take (min count needed)
  let rows ← restorePasses (fault.getD .fewData) (usable h front) h h.passes stored
  match fault with
  | some fault => throw fault
  | none =>
    let pixels := pixels h (h.passes.zip rows)
    return match h.colour with
      | .direct channels => direct h channels pixels front.clear
      | .palette => indexed h (front.palette.getD []) pixels front.clear

end ReceiptPrinter.Png
