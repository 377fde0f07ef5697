/-
Names of hosts.

Names are told apart by what their characters become, in composed form. In
a request a name goes in ASCII: a label with other characters is encoded,
and one that is encoded already must be what encoding would make.
-/
import ReceiptPrinter.Fetch.Host.Folding
import ReceiptPrinter.Fetch.Host.Punycode
import ReceiptPrinter.Text.Composed
import ReceiptPrinter.Text.Cursive

namespace ReceiptPrinter.Fetch.Host

/-- A part of a name: its characters, and how it is written in ASCII. -/
structure Label where
  letters : List Char
  ascii : List Char

/-- What an encoded label begins with. -/
def encodedMark : List Char := "xn--".toList

/-- The longest label that is encoded. -/
def longestLabel : Nat := 1000

/-- The longest label that is decoded, without its mark. -/
def longestCode : Nat := 2000

/-- The characters of a name as they count. -/
def fold? (text : List Char) : Option (List Char) := do
  return Text.composed (← text.mapM foldChar?).flatten

/-- Whether characters may make a label: no mark comes first, and joiners
stand where they make a difference. -/
def isLabel (letters : List Char) : Bool :=
  !letters.head?.any Text.isMark && Text.joinsWell [] letters

/-- Reads a folded label. -/
def label? (text : List Char) : Option Label := do
  match Text.afterStart? encodedMark text with
  | some code =>
    guard (code.length ≤ longestCode)
    let letters ← Punycode.decode? code
    guard (!letters.all Punycode.isPlain && fold? letters == some letters && isLabel letters)
    return ⟨letters, text⟩
  | none =>
    guard (isLabel text)
    if text.all Punycode.isPlain then return ⟨text, text⟩
    guard (text.length ≤ longestLabel)
    return ⟨text, encodedMark ++ Punycode.encode text⟩

/-- Whether no name may hold a character. -/
def isForbidden (c : Char) : Bool :=
  c.toNat ≤ 0x20 || c.toNat == 0x7F || "#%/:<>?@[\\]^|".toList.contains c

def ascii? (name : List Char) : Option (List Char) := do
  let labels ← (Text.splitAt '.' (← fold? name)).mapM label?
  let turns := labels.any fun label => label.letters.any fun c => (Text.direction c).turns
  guard (!turns || labels.all fun label => Text.isOneWay label.letters)
  let text := ['.'].intercalate (labels.map (·.ascii))
  guard (!text.any isForbidden)
  return text

end ReceiptPrinter.Fetch.Host
