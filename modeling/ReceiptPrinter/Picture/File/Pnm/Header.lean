/-
Headers of the portable formats.

In the six plain formats the header is a row of words; a number sign begins
a comment that lasts to the end of the line, and the line end belongs to
it. The seventh format has a header in lines, each with a name of its own.
-/
import ReceiptPrinter.Picture.File.Pnm.Fault
import ReceiptPrinter.Picture.File.Trouble
import ReceiptPrinter.Picture.Sample
import ReceiptPrinter.Text.Basic
import ReceiptPrinter.Text.Lossy

namespace ReceiptPrinter.Pnm

/-- How samples are stored. -/
inductive Raster where
  /-- Dots as characters, one for black. -/
  | plainDots
  /-- Dots as bits, one for black. -/
  | packedDots
  /-- Numbers in decimal. -/
  | plain
  /-- Bytes, or pairs of them. -/
  | packed
  /-- A byte for each dot, one for white. -/
  | packedBits
  deriving DecidableEq, Repr

/-- What a header says. -/
structure Header where
  width : Nat
  height : Nat
  channels : Channels
  /-- The highest sample. -/
  top : Nat
  raster : Raster

/-- Whether samples take two bytes. -/
def Header.isWide (h : Header) : Bool := 256 ≤ h.top

-- =============================================================== numbers

/-- Whether a byte separates words. -/
def isSpace (b : UInt8) : Bool := b.toNat == 0x20 || (9 ≤ b.toNat && b.toNat ≤ 13)

/-- The number that digits give, at most `limit`. Of several faults the first
one counts. -/
def number (purpose : Purpose) (limit : Nat) : Nat → List Char → Except Fault Nat
  | n, [] => .ok n
  | n, c :: rest =>
    match Text.digit? c with
    | none => .error (.notDigit purpose)
    | some d =>
      if limit < 10 * n + d then .error (.overflow purpose)
      else number purpose limit (10 * n + d) rest

/-- The characters of bytes below 128. -/
def letters (bytes : Bytes) : List Char := bytes.map fun b => Char.ofNat b.toNat

/-- The highest number of a header. -/
def highest : Nat := UInt32.size - 1

-- ================================================================= words

/-- The next word of a header, and what follows the separator behind it.
Comments are left out, even inside a word. -/
def word (inComment : Bool) (done : Bytes) : Bytes → Except Fault (Bytes × Bytes)
  | [] => if done.isEmpty then .error .endsEarly else .ok (done.reverse, [])
  | b :: rest =>
    if inComment then word (b.toNat != 10 && b.toNat != 13) done rest
    else if b.toNat = 0x23 then word true done rest
    else if isSpace b then
      if done.isEmpty then word false done rest else .ok (done.reverse, rest)
    else if 128 ≤ b.toNat then .error (.headerByte b)
    else word false (b :: done) rest

/-- The next number of a header, and what follows it. -/
def headerNumber (bytes : Bytes) : Except Fault (Nat × Bytes) := do
  let (text, rest) ← word false [] bytes
  return (← number .preamble highest 0 (letters text), rest)

def bitmapHeader (raster : Raster) (bytes : Bytes) : Except Fault (Header × Bytes) := do
  let (width, bytes) ← headerNumber bytes
  let (height, bytes) ← headerNumber bytes
  return (⟨width, height, .gray, 1, raster⟩, bytes)

/-- The header of a grey map or pixel map. -/
def mapHeader (channels : Channels) (raster : Raster) (bytes : Bytes) :
    Except Fault (Header × Bytes) := do
  let (width, bytes) ← headerNumber bytes
  let (height, bytes) ← headerNumber bytes
  let (top, bytes) ← headerNumber bytes
  require (top < 65536) (.highTop top)
  return (⟨width, height, channels, top, raster⟩, bytes)

-- ================================================================= lines

/-- What the lines of a header have said so far. -/
structure Lines where
  height : Option Nat
  width : Option Nat
  depth : Option Nat
  top : Option Nat
  kind : Option String

namespace Lines

/-- The number of a line that has not come before. -/
def value (before : Option Nat) (name : String) (text : List Char) :
    Except Fault (Option Nat) := do
  require before.isNone (.secondLine name)
  let digits := Text.trim text
  require (!digits.isEmpty) (.notDigit (.line name))
  return some (← number (.line name) highest 0 digits)

/-- The name of a line and the rest of it. A line that begins with a blank
has no name. -/
def split (line : List Char) : List Char × List Char :=
  if line.head?.any Text.isBlank then ([], Text.trimFront line)
  else line.span (!Text.isBlank ·)

/-- What is known behind another line, the last one aside. -/
def withLine (lines : Lines) (name : String) (text : List Char) : Except Fault Lines :=
  match name with
  | "HEIGHT" => return { lines with height := ← value lines.height name text }
  | "WIDTH" => return { lines with width := ← value lines.width name text }
  | "DEPTH" => return { lines with depth := ← value lines.depth name text }
  | "MAXVAL" => return { lines with top := ← value lines.top name text }
  | "TUPLTYPE" =>
    let word := String.ofList (Text.trim text)
    let kind := match lines.kind with
      | some kind => kind ++ " " ++ word
      | none => word
    return { lines with kind := some kind }
  | _ => throw (.unknownLine name)

/-- Reads lines up to the one that ends the header, at most `fuel`: what they
say, and what follows. -/
def read : Nat → Lines → Bytes → Except Fault (Lines × Bytes)
  | 0, _, _ => .error .openHeader
  | fuel + 1, lines, bytes => do
    require (!bytes.isEmpty) .openHeader
    let body := bytes.takeWhile (·.toNat != 10)
    let rest := bytes.drop (body.length + 1)
    let text := Text.lossy body
    require (utf8 text == body) .notText
    if text.head? == some '#' then return ← read fuel lines rest
    require (text.all (·.toNat < 128)) .lineNotAscii
    let (name, value) := split text
    if name == "ENDHDR".toList then return (lines, rest)
    read fuel (← lines.withLine (String.ofList name) value) rest

/-- The channels that a number of samples per pixel stands for. -/
def channelsOf? : Nat → Option Channels
  | 1 => some .gray
  | 2 => some .grayAlpha
  | 3 => some .rgb
  | 4 => some .rgba
  | _ => none

/-- The channels of a kind of picture, and whether its samples are dots. -/
def kinds : List (String × Channels × Bool) :=
  [("BLACKANDWHITE", .gray, true), ("BLACKANDWHITE_ALPHA", .grayAlpha, true),
   ("GRAYSCALE", .gray, false), ("GRAYSCALE_ALPHA", .grayAlpha, false),
   ("RGB", .rgb, false), ("RGB_ALPHA", .rgba, false)]

/-- The fault of a header without all lines. -/
def missing (lines : Lines) : Fault :=
  .missingLine lines.height lines.width lines.depth lines.top

/-- The header that lines give. -/
def header (lines : Lines) : Except Fault Header := do
  let some height := lines.height | throw lines.missing
  let some width := lines.width | throw lines.missing
  let some depth := lines.depth | throw lines.missing
  let some top := lines.top | throw lines.missing
  match lines.kind with
  | none =>
    let some channels := channelsOf? depth | throw .unknownKind
    require (top < 65536) .unknownKind
    return ⟨width, height, channels, top, .packed⟩
  | some kind =>
    let some (channels, dots) := kinds.lookup kind | throw (.foreignKind kind)
    let fits := depth == channels.count && (if dots then top == 1 else top < 65536)
    let fault := if channels = .rgb ∨ channels = .rgba then Fault.depth depth kind
      else .depthOrTop depth top kind
    require fits fault
    return ⟨width, height, channels, top, if dots then .packedBits else .packed⟩

end Lines

/-- The header in lines, behind the signature. -/
def lineHeader (bytes : Bytes) : Except Fault (Header × Bytes) :=
  match bytes with
  | [] => .error .endsEarly
  | b :: rest => do
    require (b.toNat == 10) (.notLine b)
    let (lines, rest) ← Lines.read (rest.length + 1) ⟨none, none, none, none, none⟩ rest
    return (← lines.header, rest)

/-- Reads the header of a file. -/
def Header.read (bytes : Bytes) : Except Fault (Header × Bytes) :=
  match bytes with
  | first :: second :: rest =>
    if first.toNat ≠ 0x50 then .error (.signature first second)
    else
      match Char.ofNat second.toNat with
      | '1' => bitmapHeader .plainDots rest
      | '2' => mapHeader .gray .plain rest
      | '3' => mapHeader .rgb .plain rest
      | '4' => bitmapHeader .packedDots rest
      | '5' => mapHeader .gray .packed rest
      | '6' => mapHeader .rgb .packed rest
      | '7' => lineHeader rest
      | _ => .error (.signature first second)
  | _ => .error .cutShort

end ReceiptPrinter.Pnm
