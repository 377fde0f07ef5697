/-
Reading JSON from a text, token by token.

A reader consumes a part of the text or fails; after a failure it still
stands where it stopped. The readers here know the small things: blanks,
the three literals, quoted texts and numbers.

A whole number that outgrows 64 bits is read as a double: the digits that
still fit are kept, the rest only move the decimal point.
-/
import ReceiptPrinter.Json.Failure
import ReceiptPrinter.Json.Value

namespace ReceiptPrinter.Json

/-- A reader of a part of a JSON text. -/
abbrev Reader := ExceptT Failure (StateM (List Char))

namespace Reader

-- =============================================================== basics

def runOn {α : Type} (r : Reader α) (text : List Char) : Except Failure α × List Char :=
  StateT.run (ExceptT.run r) text

/-- What has not been consumed yet. -/
def rest : Reader (List Char) := get

/-- Fails at the place that has been reached. -/
def failHere {α : Type} (cause : Cause) : Reader α := do
  throw ⟨cause, some ⟨← rest, false⟩⟩

/-- Fails at the next character. -/
def failAtNext {α : Type} (cause : Cause) : Reader α := do
  throw ⟨cause, some ⟨← rest, true⟩⟩

/-- The next character, left in place. -/
def peek : Reader (Option Char) := return (← rest).head?

/-- Drops the next character. -/
def skip : Reader Unit := modify List.tail

/-- Takes the next character. -/
def next : Reader (Option Char) := do
  let c ← peek
  skip
  return c

/-- Whether a character may stand between tokens. -/
def isGap (c : Char) : Bool := c = ' ' ∨ c = '\n' ∨ c = '\t' ∨ c = '\r'

/-- Drops blanks and shows what comes after them. -/
def peekToken : Reader (Option Char) := do
  modify (List.dropWhile isGap)
  peek

/-- A failure that has no place yet gets the place that has been reached. -/
def placed {α : Type} (r : Reader α) : Reader α :=
  tryCatch r fun f => do
    match f.place with
    | some _ => throw f
    | none => throw { f with place := some ⟨← rest, false⟩ }

/-- The remaining letters of a literal. -/
def literal : List Char → Reader Unit
  | [] => return ()
  | c :: cs => do
    match ← next with
    | none => failHere .eofInValue
    | some d => if c = d then literal cs else failHere .expectedIdent

-- ================================================================ quotes

/-- The value of four hex digits. -/
def hexQuad? (a b c d : Char) : Option Nat := do
  return (((← hexValue? a) * 16 + (← hexValue? b)) * 16 + (← hexValue? c)) * 16 + (← hexValue? d)

/-- The code of an escape whose `\u` has been consumed. Four bytes are
looked at, whatever they are. -/
def hexEscape : Reader Nat := do
  let text ← rest
  if (utf8 (text.take 4)).length < 4 then
    set ([] : List Char)
    failHere .eofInString
  else
    match text with
    | a :: b :: c :: d :: after =>
      set after
      match hexQuad? a b c d with
      | some code => return code
      | none => failHere .invalidEscape
    | _ => failHere .invalidEscape

/-- The character of an escape of one letter. -/
def shortEscape? (c : Char) : Option Char :=
  match c with
  | '"' => some '"'
  | '\\' => some '\\'
  | '/' => some '/'
  | 'b' => some (Char.ofNat 8)
  | 'f' => some (Char.ofNat 12)
  | 'n' => some '\n'
  | 'r' => some '\r'
  | 't' => some '\t'
  | _ => none

/-- One expected character inside an escape. -/
def escapeMark (mark : Char) : Reader Unit := do
  match ← next with
  | none => failHere .eofInString
  | some c => if c = mark then return () else failHere .endOfHexEscape

/-- The character of an escape whose `\u` has been consumed. Characters
beyond sixteen bits are written as two escapes in a row. -/
def unicodeEscape : Reader Char := do
  let high ← hexEscape
  if 0xDC00 ≤ high ∧ high ≤ 0xDFFF then failHere .loneSurrogate
  if high < 0xD800 ∨ 0xDBFF < high then return Char.ofNat high
  escapeMark '\\'
  escapeMark 'u'
  let low ← hexEscape
  if low < 0xDC00 ∨ 0xDFFF < low then failHere .loneSurrogate
  return Char.ofNat (0x10000 + (high - 0xD800) * 0x400 + (low - 0xDC00))

/-- The character of an escape whose backslash has been consumed. -/
def escaped : Reader Char := do
  match ← next with
  | none => failHere .eofInString
  | some 'u' => unicodeEscape
  | some c =>
    match shortEscape? c with
    | some d => return d
    | none => failHere .invalidEscape

/-- The text up to the closing quote, which is consumed; `fuel` bounds its
length. -/
def quotedWithin : Nat → Reader (List Char)
  | 0 => failHere .eofInString
  | fuel + 1 => do
    match ← peek with
    | none => failHere .eofInString
    | some '"' => skip; return []
    | some '\\' => skip; return (← escaped) :: (← quotedWithin fuel)
    | some c =>
      skip
      if c.toNat < 32 then failHere .controlCharacter
      else return c :: (← quotedWithin fuel)

/-- The text behind an opening quote, up to the closing one. -/
def quoted : Reader String := do
  return String.ofList (← quotedWithin ((← rest).length + 1))

-- =============================================================== numbers

/-- The digits that come next, consumed. -/
def digits : Reader (List Nat) := do
  let text ← rest
  set (text.dropWhile Char.isDigit)
  return (text.takeWhile Char.isDigit).map fun c => c.toNat - 48

/-- Whether one digit more would not fit 64 bits. -/
def overflows (significand digit : Nat) : Bool := UInt64.size ≤ significand * 10 + digit

/-- The significand with as many of the digits as fit, and the digits that
did not. -/
def absorb : Nat → List Nat → Nat × List Nat
  | significand, [] => (significand, [])
  | significand, d :: ds =>
    if overflows significand d then (significand, d :: ds) else absorb (significand * 10 + d) ds

/-- Powers of ten as doubles. -/
def powerOfTen (k : Nat) : Float := Float.ofScientific 1 false k

/-- The significand times ten to the power, in double arithmetic: one
multiplication, or divisions by at most 1e308 each. -/
def scaled : Nat → Float → Int → Option Float
  | 0, f, _ => some f
  | fuel + 1, f, exponent =>
    if exponent.natAbs ≤ 308 then
      if 0 ≤ exponent then
        let g := f * powerOfTen exponent.natAbs
        if g.isInf then none else some g
      else some (f / powerOfTen exponent.natAbs)
    else if f == 0.0 then some f
    else if 0 ≤ exponent then none
    else scaled fuel (f / powerOfTen 308) (exponent + 308)

/-- A double from its parts. -/
def assemble (positive : Bool) (significand : Nat) (exponent : Int) : Reader Number := do
  match scaled (exponent.natAbs / 308 + 2) significand.toUInt64.toFloat exponent with
  | some f => return .float (if positive then f else -f)
  | none => failHere .numberOutOfRange

/-- Exponents are signed words of 32 bits and stick at the ends. -/
def clampExponent (e : Int) : Int := max Int32.minValue.toInt (min Int32.maxValue.toInt e)

/-- The exponent part, the `e` being next. An exponent past 31 bits makes
the number zero or too large. -/
def exponentPart (positive : Bool) (significand : Nat) (start : Int) : Reader Number := do
  skip
  let positiveExponent ← do
    match ← peek with
    | some '+' => skip; pure true
    | some '-' => skip; pure false
    | _ => pure true
  match ← peek with
  | none => failHere .eofInValue
  | some c =>
    if !c.isDigit then
      skip
      failHere .invalidNumber
    let size : Nat := (← digits).foldl (fun n d => n * 10 + d) 0
    if Int32.maxValue.toInt < size then
      if significand ≠ 0 ∧ positiveExponent then failHere .numberOutOfRange
      else return .float (if positive then 0.0 else -0.0)
    else
      let shift : Int := if positiveExponent then size else -size
      assemble positive significand (clampExponent (start + shift))

/-- What follows the last digit of a number's mantissa. -/
def afterMantissa (positive : Bool) (significand : Nat) (exponent : Int) : Reader Number := do
  match ← peek with
  | some 'e' | some 'E' => exponentPart positive significand exponent
  | _ => assemble positive significand exponent

/-- The decimals, the point being next. -/
def decimalPart (positive : Bool) (significand : Nat) (before : Int) : Reader Number := do
  skip
  let ds ← digits
  let (total, lost) := absorb significand ds
  if ds.isEmpty then
    match ← peek with
    | none => failAtNext .eofInValue
    | some _ => failAtNext .invalidNumber
  afterMantissa positive total (before - ((ds.length - lost.length : Nat) : Int))

/-- A number whose sign has been consumed. -/
def unsigned (positive : Bool) : Reader Number := do
  match ← peek with
  | none => failHere .eofInValue
  | some c =>
    if !c.isDigit then
      skip
      failHere .invalidNumber
    let ds ←
      if c = '0' then do
        skip
        match ← peek with
        | some d => if d.isDigit then failAtNext .invalidNumber else pure [0]
        | none => pure [0]
      else digits
    let (significand, lost) := absorb 0 ds
    match ← peek with
    | some '.' => decimalPart positive significand lost.length
    | some 'e' | some 'E' => exponentPart positive significand lost.length
    | _ =>
      if !lost.isEmpty then assemble positive significand lost.length
      else if positive then return .int significand
      else if significand = 0 ∨ Int64.minValue.toInt.natAbs < significand then
        return .float (-significand.toUInt64.toFloat)
      else return .int (-significand)

def number : Reader Number := do
  match ← peek with
  | some '-' => skip; unsigned false
  | _ => unsigned true

end Reader

end ReceiptPrinter.Json
