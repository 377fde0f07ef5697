/-
JSON values, and how they are written.

An object keeps its members in the order in which they were given. Whole
numbers within 64 bits stay whole; every other number is a double.
-/
import ReceiptPrinter.Bytes
import ReceiptPrinter.Number.Shortest

namespace ReceiptPrinter

/-- A number as it stands in a JSON text. -/
inductive Json.Number where
  | int (n : Int)
  | float (f : Float)

inductive Json where
  | null
  | bool (b : Bool)
  | number (n : Json.Number)
  | string (s : String)
  | array (items : List Json)
  | object (members : List (String × Json))

namespace Json

/-- A whole number as a value. -/
def nat (n : Nat) : Json := .number (.int n)

-- ============================================================== writing

/-- A character inside a quoted text: quotes and backslashes are escaped,
and so are control characters, some of which have short escapes. -/
def escape (c : Char) : List Char :=
  if c = '"' then ['\\', '"']
  else if c = '\\' then ['\\', '\\']
  else if c = '\n' then ['\\', 'n']
  else if c = '\r' then ['\\', 'r']
  else if c = '\t' then ['\\', 't']
  else if c.toNat = 8 then ['\\', 'b']
  else if c.toNat = 12 then ['\\', 'f']
  else if c.toNat < 32 then ['\\', 'u'] ++ hexDigits 4 c.toNat
  else [c]

def quote (text : List Char) : List Char := '"' :: text.flatMap escape ++ ['"']

/-- A number as it is written. -/
def Number.write : Number → List Char
  | .int n => (toString n).toList
  | .float f => (Shortest.floatText f).toList

mutual

/-- The compact text of a value. -/
def write : Json → List Char
  | null => ['n', 'u', 'l', 'l']
  | bool true => ['t', 'r', 'u', 'e']
  | bool false => ['f', 'a', 'l', 's', 'e']
  | number n => n.write
  | string s => quote s.toList
  | array items => '[' :: writeItems items ++ [']']
  | object members => '{' :: writeMembers members ++ ['}']

/-- The elements of an array, with commas between them. -/
def writeItems : List Json → List Char
  | [] => []
  | [v] => write v
  | v :: rest => write v ++ ',' :: writeItems rest

/-- The members of an object, with commas between them. -/
def writeMembers : List (String × Json) → List Char
  | [] => []
  | [(key, v)] => quote key.toList ++ ':' :: write v
  | (key, v) :: rest => quote key.toList ++ ':' :: write v ++ ',' :: writeMembers rest

end

end Json

end ReceiptPrinter
