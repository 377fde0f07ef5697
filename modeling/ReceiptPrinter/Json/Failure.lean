/-
What can be wrong with a JSON text.

A failure has a cause and, once it is known, the place: the part of the
text that had not been consumed yet. Faults of grammar are noticed at a
character that has only been looked at; `Place.seen` counts it in. Faults
of content (a value of the wrong type, a missing field) get their place
from the value that they concern.
-/
import ReceiptPrinter.Bytes

namespace ReceiptPrinter.Json

/-- Why a text could not be read. -/
inductive Cause where
  | eofInArray
  | eofInObject
  | eofInString
  | eofInValue
  | expectedColon
  | expectedCommaOrBracket
  | expectedCommaOrBrace
  | expectedIdent
  | expectedValue
  | invalidEscape
  | invalidNumber
  | numberOutOfRange
  | controlCharacter
  | keyNotString
  | loneSurrogate
  | trailingComma
  | trailingCharacters
  | endOfHexEscape
  | tooDeep
  /-- The text is well-formed but does not say what was wanted. -/
  | content (message : String)
  deriving DecidableEq, Repr

/-- The wording of a cause. -/
def Cause.message : Cause → String
  | eofInArray => "EOF while parsing a list"
  | eofInObject => "EOF while parsing an object"
  | eofInString => "EOF while parsing a string"
  | eofInValue => "EOF while parsing a value"
  | expectedColon => "expected `:`"
  | expectedCommaOrBracket => "expected `,` or `]`"
  | expectedCommaOrBrace => "expected `,` or `\x7d`"
  | expectedIdent => "expected ident"
  | expectedValue => "expected value"
  | invalidEscape => "invalid escape"
  | invalidNumber => "invalid number"
  | numberOutOfRange => "number out of range"
  | controlCharacter => "control character (\\u0000-\\u001F) found while parsing a string"
  | keyNotString => "key must be a string"
  | loneSurrogate => "lone leading surrogate in hex escape"
  | trailingComma => "trailing comma"
  | trailingCharacters => "trailing characters"
  | endOfHexEscape => "unexpected end of hex escape"
  | tooDeep => "recursion limit exceeded"
  | content message => message

/-- Where reading stopped. -/
structure Place where
  unread : List Char
  /-- Whether the next byte was what caused the trouble. -/
  seen : Bool
  deriving DecidableEq, Repr

/-- A fault in a text. -/
structure Failure where
  cause : Cause
  place : Option Place
  deriving DecidableEq, Repr

/-- Line and column of a place, both counted from the start of the text;
columns are bytes. -/
def Place.lineColumn (p : Place) (text : List Char) : Nat × Nat :=
  let total := (utf8 text).length
  let index := min total (total - (utf8 p.unread).length + if p.seen then 1 else 0)
  let before := (utf8 text).take index
  (1 + before.count 10, (before.reverse.takeWhile (· != 10)).length)

/-- The wording of a failure together with its place in the text. -/
def Failure.report (f : Failure) (text : List Char) : String :=
  match f.place with
  | none => f.cause.message
  | some p =>
    let (line, column) := p.lineColumn text
    s!"{f.cause.message} at line {line} column {column}"

end ReceiptPrinter.Json
