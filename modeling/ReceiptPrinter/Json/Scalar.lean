/-
Reading a single value of a wanted type.

A `Scalar` says which whole numbers, texts and truth values stand for a
value of the type. Anything else is a fault of content that names what was
found and what was expected; a number of the right sort outside the range
is told apart from a value of the wrong sort. Doubles stand for nothing.
-/
import ReceiptPrinter.Json.Read
import ReceiptPrinter.Text.Shown

namespace ReceiptPrinter.Json

/-- What a value is taken for. -/
inductive Verdict (α : Type) where
  | accepted (a : α)
  /-- The right sort of value, but out of range. -/
  | outOfRange
  | wrongType
  /-- Refused with a message of its own. -/
  | refused (message : String)

/-- How values of a type are written in JSON. -/
structure Scalar (α : Type) where
  expecting : String
  ofInt : Int → Verdict α
  ofText : String → Verdict α
  ofBool : Bool → Verdict α

namespace Scalar

def word (expecting : String) (low high : Int) : Scalar Int where
  expecting := expecting
  ofInt n := if low ≤ n ∧ n ≤ high then .accepted n else .outOfRange
  ofText _ := .wrongType
  ofBool _ := .wrongType

/-- Words without a sign, of the given number of bits. -/
def unsigned (expecting : String) (bits : Nat) : Scalar Nat where
  expecting := expecting
  ofInt n := if 0 ≤ n ∧ n.toNat < 1 <<< bits then .accepted n.toNat else .outOfRange
  ofText _ := .wrongType
  ofBool _ := .wrongType

def text : Scalar String where
  expecting := "a string"
  ofInt _ := .wrongType
  ofText s := .accepted s
  ofBool _ := .wrongType

/-- A truth value. -/
def bool : Scalar Bool where
  expecting := "a boolean"
  ofInt _ := .wrongType
  ofText _ := .wrongType
  ofBool b := .accepted b

/-- One of several names. -/
def oneOf {α : Type} (choices : List (String × α)) : Scalar α where
  expecting := "variant identifier"
  ofInt _ := .wrongType
  ofText s :=
    match choices.lookup s with
    | some a => .accepted a
    | none =>
      let names := String.intercalate ", " (choices.map fun (name, _) => s!"`{name}`")
      .refused s!"unknown variant `{s}`, expected one of {names}"
  ofBool _ := .wrongType

end Scalar

-- ============================================================ complaints

/-- How a value is named in a complaint. -/
def describe : Json → String
  | .null => "null"
  | .bool b => s!"boolean `{b}`"
  | .number (.int n) => s!"integer `{n}`"
  | .number (.float f) => s!"floating point `{Shortest.floatText f}`"
  | .string s => "string " ++ String.ofList (Text.shown s.toList)
  | .array _ => "sequence"
  | .object _ => "map"

/-- The complaint about a value of the wrong sort. -/
def wrongType (found : Json) (expecting : String) : Cause :=
  .content s!"invalid type: {found.describe}, expected {expecting}"

/-- The complaint about a number out of range. -/
def outOfRange (found : Json) (expecting : String) : Cause :=
  .content s!"invalid value: {found.describe}, expected {expecting}"

def settle {α : Type} (v : Verdict α) (found : Json) (expecting : String) :
    Except Cause α :=
  match v with
  | .accepted a => .ok a
  | .outOfRange => .error (outOfRange found expecting)
  | .wrongType => .error (wrongType found expecting)
  | .refused message => .error (.content message)

/-- The scalar that a value in memory stands for. -/
def Scalar.ofValue {α : Type} (s : Scalar α) (found : Json) : Except Cause α :=
  let verdict :=
    match found with
    | .number (.int n) => s.ofInt n
    | .string t => s.ofText t
    | .bool b => s.ofBool b
    | _ => .wrongType
  settle verdict found s.expecting

namespace Reader

/-- The next value, as far as it must be read to be named: brackets are left
unread, and what stands for an array or an object is empty. -/
def glance : Reader Json := do
  match ← peekToken with
  | none => failAtNext .eofInValue
  | some '[' => return .array []
  | some '{' => return .object []
  | some _ => value 0

/-- Fails with a fault of content. -/
def complain {α : Type} (cause : Cause) : Reader α := throw ⟨cause, none⟩

/-- A value of a scalar type. -/
def scalar {α : Type} (s : Scalar α) : Reader α := placed do
  match s.ofValue (← glance) with
  | .ok a => return a
  | .error cause => complain cause

end Reader

end ReceiptPrinter.Json
