/-
Passing over a value that nobody asked for.

Only the grammar is checked. A number may be as large as it likes, nesting
as deep, and an escape may name half of a surrogate pair.
-/
import ReceiptPrinter.Json.Reader

namespace ReceiptPrinter.Json.Reader

/-- Passes over a quoted text whose opening quote has been consumed; `fuel`
bounds its length. -/
def skipQuotedWithin : Nat → Reader Unit
  | 0 => failHere .eofInString
  | fuel + 1 => do
    match ← next with
    | none => failHere .eofInString
    | some '"' => return ()
    | some '\\' =>
      match ← next with
      | none => failHere .eofInString
      | some 'u' => discard hexEscape
      | some c => if (shortEscape? c).isNone then failHere .invalidEscape
      skipQuotedWithin fuel
    | some c =>
      if c.toNat < 32 then failHere .controlCharacter
      else skipQuotedWithin fuel

/-- Passes over a quoted text whose opening quote has been consumed. -/
def skipQuoted : Reader Unit := do
  skipQuotedWithin ((← rest).length + 1)

/-- Passes over the exponent of a number, the `e` being next. -/
def skipExponent : Reader Unit := do
  skip
  match ← peek with
  | some '+' | some '-' => skip
  | _ => pure ()
  match ← next with
  | some c => if c.isDigit then discard digits else failHere .invalidNumber
  | none => failHere .invalidNumber

/-- Passes over the decimals of a number, the point being next. -/
def skipDecimals : Reader Unit := do
  skip
  if (← digits).isEmpty then failAtNext .invalidNumber
  match ← peek with
  | some 'e' | some 'E' => skipExponent
  | _ => pure ()

/-- Passes over a number without its sign. -/
def skipUnsigned : Reader Unit := do
  match ← next with
  | none => failHere .invalidNumber
  | some '0' =>
    match ← peek with
    | some d => if d.isDigit then failAtNext .invalidNumber
    | none => pure ()
  | some c => if c.isDigit then discard digits else failHere .invalidNumber
  match ← peek with
  | some '.' => skipDecimals
  | some 'e' | some 'E' => skipExponent
  | _ => pure ()

mutual

/-- Passes over one value. -/
def skipValueWithin : Nat → Reader Unit
  | 0 => failAtNext .expectedValue
  | fuel + 1 => do
    match ← peekToken with
    | none => failAtNext .eofInValue
    | some 'n' => skip; literal ['u', 'l', 'l']
    | some 't' => skip; literal ['r', 'u', 'e']
    | some 'f' => skip; literal ['a', 'l', 's', 'e']
    | some '-' => skip; skipUnsigned
    | some '"' => skip; skipQuoted
    | some '[' => skip; skipItems fuel true
    | some '{' => skip; skipMembers fuel true
    | some c => if c.isDigit then skipUnsigned else failAtNext .expectedValue

/-- Passes over the remaining elements of an array and its bracket. -/
def skipItems : Nat → Bool → Reader Unit
  | 0, _ => failAtNext .expectedValue
  | fuel + 1, first => do
    match ← peekToken with
    | none => failAtNext .eofInArray
    | some ']' => skip
    | some c =>
      if !first then
        if c = ',' then skip else failAtNext .expectedCommaOrBracket
      skipValueWithin fuel
      skipItems fuel false

/-- Passes over the remaining members of an object and its brace. -/
def skipMembers : Nat → Bool → Reader Unit
  | 0, _ => failAtNext .expectedValue
  | fuel + 1, first => do
    match ← peekToken with
    | none => failAtNext .eofInObject
    | some '}' => skip
    | some c =>
      if !first then
        if c = ',' then skip else failAtNext .expectedCommaOrBrace
      match ← peekToken with
      | none => failAtNext .eofInObject
      | some '"' => skip
      | some _ => failAtNext .keyNotString
      skipQuoted
      match ← peekToken with
      | none => failAtNext .eofInObject
      | some ':' => skip
      | some _ => failAtNext .expectedColon
      skipValueWithin fuel
      skipMembers fuel false

end

/-- Passes over one value, however deep. -/
def skipValue : Reader Unit := do
  skipValueWithin (2 * (← rest).length + 2)

end ReceiptPrinter.Json.Reader
