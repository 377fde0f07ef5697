/-
What can be wrong with a file in one of the portable formats.
-/
import ReceiptPrinter.Picture.File.Trouble
import ReceiptPrinter.Text.Shown

namespace ReceiptPrinter.Pnm

/-- What a number is read for. -/
inductive Purpose where
  | preamble
  | sample
  /-- A line of a header in lines. -/
  | line (name : String)
  deriving DecidableEq, Repr

/-- The wording of a purpose. -/
def Purpose.text : Purpose → String
  | preamble => "number in preamble"
  | sample => "sample"
  | line name => name

/-- Why a file holds no picture. -/
inductive Fault where
  /-- The packed samples end too early. -/
  | cutShort
  /-- The header ends too early. -/
  | endsEarly
  /-- A line of the header is not text. -/
  | notText
  /-- The picture would take too much memory. -/
  | tooLarge
  /-- Not even the size of the picture can be told. -/
  | unbounded (width height : Nat)
  | signature (first second : UInt8)
  | headerByte (b : UInt8)
  | notDigit (purpose : Purpose)
  | overflow (purpose : Purpose)
  | highTop (top : Nat)
  | fewSamples
  | rasterByte (b : UInt8)
  | sampleBound (value : Nat)
  | notLine (b : UInt8)
  | lineNotAscii
  | openHeader
  | secondLine (name : String)
  | unknownLine (name : String)
  | missingLine (height width depth top : Option Nat)
  | depthOrTop (depth top : Nat) (kind : String)
  | depth (depth : Nat) (kind : String)
  | unknownKind
  | foreignKind (kind : String)
  deriving DecidableEq, Repr

/-- A byte in hex with its mark. -/
def hexByte (b : UInt8) : String :=
  "0x" ++ String.ofList [upperHexDigit (b.toNat / 16), upperHexDigit (b.toNat % 16)]

def quoted (text : String) : String := String.ofList (Text.shown text.toList)

/-- A number that may be missing. -/
def optional : Option Nat → String
  | some n => s!"Some({n})"
  | none => "None"

def Fault.trouble : Fault → Trouble
  | cutShort => .cutShort
  | endsEarly => .endsEarly
  | notText => .notText
  | tooLarge => .tooLarge
  | unbounded width height =>
    .feature s!"Image dimensions ({width}x{height}) are too large"
  | foreignKind kind => .feature s!"Tuple type {quoted kind}"
  | signature first second =>
    .form s!"Expected magic constant for PNM: P1..P7, got [{hexByte first}, {hexByte second}]"
  | headerByte b => .form s!"Non-ASCII character {hexByte b} in header"
  | notDigit purpose =>
    .form s!"Non-ASCII-digit character when parsing number in {purpose.text}"
  | overflow purpose => .form s!"Overflow when parsing integer in {purpose.text}"
  | highTop top => .form s!"Image MAXVAL exceeds 65535: {top}"
  | fewSamples => .form "Not enough data was provided to the Decoder to decode the image"
  | rasterByte b => .form s!"Unexpected character {hexByte b} within sample raster"
  | sampleBound value => .form s!"Sample value outside of bounds: {value}"
  | notLine b => .form s!"Expected newline after P7 magic, got {hexByte b}"
  | lineNotAscii => .form "Non-ASCII line in PAM header"
  | openHeader => .form "Unexpected end of PNM header"
  | secondLine name => .form s!"Duplicate {name} line"
  | unknownLine name => .form s!"Unknown header line with identifier {quoted name}"
  | missingLine height width count top =>
    .form (s!"Header line missing: have height={optional height}, width={optional width}, " ++
      s!"depth={optional count}, maxval={optional top}")
  | depthOrTop count top kind =>
    .form s!"Invalid depth ({count}) or maxval ({top}) for tuple type {kind}"
  | depth count kind => .form s!"Invalid depth ({count}) for tuple type {kind}"
  | unknownKind => .form "Tuple type not recognized"

end ReceiptPrinter.Pnm
