/-
Formats of picture files that are recognised, but not read.

A file of such a format is looked at as far as it takes to tell whether it
is one. If it is, it counts as a file that ends too early, since nothing is
read behind its beginning.
-/
import ReceiptPrinter.Bytes
import ReceiptPrinter.Picture.File.Trouble

namespace ReceiptPrinter

/-- A format that is recognised, but not read. -/
inductive ForeignFormat where
  | jpeg
  | gif
  | webp
  | tiff
  | tga
  | dds
  | ico
  | hdr
  | openExr
  | avif
  | qoi
  deriving DecidableEq, Repr

/-- What is found out about a file of such a format. -/
inductive ForeignFault where
  /-- The file ends before it is known what it is. -/
  | cutShort
  /-- The file begins as that of another format. -/
  | beginning (seen : Bytes)
  /-- What follows the beginning is of another format. -/
  | continuation (seen : Bytes)
  | iconPlanes
  | iconDepth
  | noIcon
  /-- The file is of the format as far as it is looked at. -/
  | unread
  deriving DecidableEq, Repr

namespace ForeignFormat

def name : ForeignFormat → String
  | jpeg => "Jpeg"
  | gif => "Gif"
  | webp => "WebP"
  | tiff => "Tiff"
  | tga => "Tga"
  | dds => "Dds"
  | ico => "Ico"
  | hdr => "Hdr"
  | openExr => "OpenExr"
  | avif => "Avif"
  | qoi => "Qoi"

-- ============================================================== beginnings

/-- Just these bytes. -/
def exactly (text : String) : List (Option UInt8) := (utf8 text.toList).map some

/-- The ways in which a file of a format may begin, if that tells it from
files of other formats. Bytes that may be anything are left out. -/
def beginnings : ForeignFormat → List (List (Option UInt8))
  | jpeg => [[some 0xFF, some 0xD8, some 0xFF]]
  | gif => [exactly "GIF89a", exactly "GIF87a"]
  | webp => [exactly "RIFF" ++ [none, none, none, none] ++ exactly "WEBP"]
  | tiff => [exactly "MM\x00*", exactly "II*\x00"]
  | tga => []
  | dds => [exactly "DDS "]
  | ico => [exactly "\x00\x00\x01\x00"]
  | hdr => [exactly "#?RADIANCE"]
  | openExr => [exactly "v/1\x01"]
  | avif => [exactly "\x00\x00" ++ [none, none] ++ exactly "ftypavif"]
  | qoi => [exactly "qoif"]

/-- Whether bytes begin in a given way. -/
def starts : List (Option UInt8) → Bytes → Bool
  | [], _ => true
  | _ :: _, [] => false
  | expected :: more, b :: rest => (expected.all (· == b)) && starts more rest

def all : List ForeignFormat :=
  [jpeg, gif, webp, tiff, tga, dds, ico, hdr, openExr, avif, qoi]

/-- The format that bytes show by how they begin. -/
def ofBytes? (bytes : Bytes) : Option ForeignFormat :=
  all.find? fun format => format.beginnings.any (starts · bytes)

-- ============================================================ examination

/-- Looks at so many bytes together, and whether they begin in one of some
ways. -/
def look (count : Nat) (texts : List Bytes) (bytes : Bytes) : Except ForeignFault Unit := do
  require (count ≤ bytes.length) .cutShort
  require (texts.any (·.isPrefixOf bytes)) (.beginning (bytes.take count))

/-- The same with bytes that follow the beginning. -/
def lookOn (count : Nat) (texts : List Bytes) (bytes : Bytes) : Except ForeignFault Unit := do
  require (count ≤ bytes.length) .cutShort
  require (texts.any (·.isPrefixOf bytes)) (.continuation (bytes.take count))

/-- Looks at so many entries of icons. Two numbers of each must not exceed
256. -/
def lookAtIcons : Nat → Bytes → Except ForeignFault Unit
  | 0, _ => .ok ()
  | count + 1, bytes => do
    require (6 ≤ bytes.length) .cutShort
    require (Bytes.littleEndian ((bytes.drop 4).take 2) ≤ 256) .iconPlanes
    require (8 ≤ bytes.length) .cutShort
    require (Bytes.littleEndian ((bytes.drop 6).take 2) ≤ 256) .iconDepth
    require (16 ≤ bytes.length) .cutShort
    lookAtIcons count (bytes.drop 16)

/-- Looks at a file that should be of a format. -/
def examine (format : ForeignFormat) (bytes : Bytes) : Except ForeignFault Unit := do
  match format with
  | jpeg => look 2 [[0xFF, 0xD8]] bytes
  | gif => look 6 [utf8 "GIF89a".toList, utf8 "GIF87a".toList] bytes
  | webp =>
    look 8 [utf8 "RIFF".toList] bytes
    lookOn 4 [utf8 "WEBP".toList] (bytes.drop 8)
  | tiff =>
    look 0 [utf8 "II".toList, utf8 "MM".toList] bytes
    let numbers : List Bytes :=
      if bytes.head? = some 0x49 then [[42, 0], [43, 0]] else [[0, 42], [0, 43]]
    lookOn 2 numbers (bytes.drop 2)
  | tga => look 18 [[]] bytes
  | dds => look 4 [utf8 "DDS ".toList] bytes
  | ico =>
    look 6 [[]] bytes
    let count := Bytes.littleEndian ((bytes.drop 4).take 2)
    lookAtIcons count (bytes.drop 6)
    require (0 < count) .noIcon
  | hdr => look 10 [utf8 "#?RADIANCE".toList] bytes
  | openExr => look 4 [[0x76, 0x2F, 0x31, 0x01]] bytes
  | avif => return
  | qoi => look 14 [utf8 "qoif".toList] bytes

/-- Why a file is not read. -/
def fault (format : ForeignFormat) (bytes : Bytes) : ForeignFault :=
  match format.examine bytes with
  | .ok () => .unread
  | .error fault => fault

-- ================================================================ wording

/-- Bytes in a row, each written in some base. -/
def row (base : Nat) (bytes : Bytes) : String :=
  let shown := bytes.map fun b => String.ofList (Nat.toDigits base b.toNat)
  "[" ++ String.intercalate ", " shown ++ "]"

/-- What is said of a file that ends before it is known what it is. -/
def short : ForeignFormat → Trouble
  | jpeg => .form "I/O errors Generic I/O error: Cannot satisfy read\n"
  | gif => .endsEarly
  | openExr => .form "invalid: reference to missing bytes"
  | qoi => .form "i/o error: failed to fill whole buffer"
  | _ => .cutShort

/-- What is said of a file that begins as that of another format. The first
four bytes matter at most. -/
def misnamed (seen : Bytes) : ForeignFormat → String
  | jpeg =>
    let digits := (Nat.toDigits 16 (Bytes.bigEndian seen)).map Char.toUpper
    "Error parsing image. Illegal start bytes:" ++ String.ofList digits
  | gif => "malformed GIF header"
  | webp => "Invalid Chunk header: " ++ row 16 (seen.take 4)
  | tiff => "Format error: TIFF signature not found."
  | dds => "DDS signature not found"
  | hdr => "Radiance HDR signature not found"
  | openExr => "invalid: file identifier missing"
  | qoi => "invalid magic: expected 1903126886, got " ++ row 10 (seen.take 4)
  | tga | ico | avif => ""

/-- What is said of a file that goes on as that of another format. -/
def misled (seen : Bytes) : ForeignFormat → String
  | webp => "Invalid WebP signature: " ++ row 16 seen
  | _ => "Format error: TIFF signature invalid."

/-- The trouble that a fault in a file of a format is. -/
def trouble (format : ForeignFormat) : ForeignFault → Trouble
  | .cutShort => format.short
  | .beginning seen => .form (misnamed seen format)
  | .continuation seen => .form (misled seen format)
  | .iconPlanes => .form "ICO image entry has a too large color planes/hotspot value"
  | .iconDepth => .form "ICO image entry has a too large bits per pixel/hotspot value"
  | .noIcon => .form "ICO directory contains no image"
  | .unread => if format = .hdr then .form "EOF in header" else format.short

/-- The wording of a fault in a file of a format. -/
def message (format : ForeignFormat) (fault : ForeignFault) : String :=
  if format = .avif then s!"The image format {format.name} is not supported"
  else (format.trouble fault).message format.name

end ForeignFormat

end ReceiptPrinter
