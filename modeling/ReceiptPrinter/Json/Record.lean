/-
Reading a record from a JSON object or array.

A record has named fields in a fixed order. As an object its members may
come in any order; unknown ones are passed over, repeated ones refused. As
an array the values stand in field order. A record under construction of
type `σ` says which of its fields are given already; a lenient record
needs none of them.

`Shape.read` takes a record from a text, `Shape.ofValue` from a value in
memory; they agree on everything but superfluous array elements, where a
text is said to have trailing characters.
-/
import ReceiptPrinter.Json.Scalar
import ReceiptPrinter.Json.Skip

namespace ReceiptPrinter.Json

/-- One field of a record under construction. -/
structure Field (σ : Type) where
  name : String
  given : σ → Bool
  read : σ → Reader σ
  ofValue : σ → Json → Except Cause σ

/-- A field that holds a scalar. -/
def Field.scalar {σ α : Type} (name : String) (given : σ → Bool) (s : Scalar α)
    (store : σ → α → σ) : Field σ where
  name := name
  given := given
  read r := return store r (← Reader.scalar s)
  ofValue r v := return store r (← s.ofValue v)

namespace Reader

/-- The remaining elements of an array of scalars. -/
def scalarsWithin {α : Type} (s : Scalar α) : Nat → Bool → Reader (List α)
  | 0, _ => failAtNext .expectedValue
  | fuel + 1, first => do
    if ← hasElement first then
      let a ← scalar s
      return a :: (← scalarsWithin s fuel false)
    else return []

/-- An array of scalars. -/
def scalars {α : Type} (s : Scalar α) : Reader (List α) := placed do
  match ← peekToken with
  | some '[' =>
    skip
    closedBy closeArray (scalarsWithin s ((← rest).length + 1) true)
  | _ => complain (wrongType (← glance) "a sequence")

end Reader

/-- A field that holds a list of scalars. -/
def Field.scalars {σ α : Type} (name : String) (given : σ → Bool) (s : Scalar α)
    (store : σ → List α → σ) : Field σ where
  name := name
  given := given
  read r := return store r (← Reader.scalars s)
  ofValue r v :=
    match v with
    | .array items => return store r (← items.mapM s.ofValue)
    | _ => .error (wrongType v "a sequence")

/-- How a record is written in JSON. -/
structure Shape (σ : Type) where
  title : String
  fields : List (Field σ)
  lenient : Bool

/-- A count of elements in words. -/
def elementCount (n : Nat) : String := if n = 1 then "1 element" else s!"{n} elements"

/-- The complaint about an array that is too short. -/
def tooShort (given : Nat) (title : String) (wanted : Nat) : Cause :=
  .content s!"invalid length {given}, expected {title} with {elementCount wanted}"

/-- The complaint about an array that is too long. -/
def tooLong (given wanted : Nat) : Cause :=
  .content s!"invalid length {given}, expected {elementCount wanted} in sequence"

/-- The complaint about a field given twice. -/
def duplicateField (name : String) : Cause := .content s!"duplicate field `{name}`"

/-- The complaint about a field not given. -/
def missingField (name : String) : Cause := .content s!"missing field `{name}`"

namespace Shape

variable {σ : Type}

/-- The first field that is not given, unless none is needed. -/
def missing? (shape : Shape σ) (record : σ) : Option (Field σ) :=
  if shape.lenient then none else shape.fields.find? (!·.given record)

/-- The field with the given name. -/
def field? (shape : Shape σ) (name : String) : Option (Field σ) :=
  shape.fields.find? (·.name == name)

-- ========================================================= from a text

/-- The elements of an array, one for every field. -/
def readElements (shape : Shape σ) : List (Field σ) → Nat → σ → Reader σ
  | [], _, record => return record
  | field :: fields, index, record => do
    if ← Reader.hasElement (index == 0) then
      shape.readElements fields (index + 1) (← field.read record)
    else if shape.lenient then return record
    else Reader.complain (tooShort index shape.title shape.fields.length)

/-- The members of an object. -/
def readMembers (shape : Shape σ) : Nat → Bool → σ → Reader σ
  | 0, _, _ => Reader.failAtNext .expectedValue
  | fuel + 1, first, record => do
    if ← Reader.hasKey first then
      match shape.field? (← Reader.key) with
      | some field =>
        if field.given record then Reader.complain (duplicateField field.name)
        Reader.colon
        shape.readMembers fuel false (← field.read record)
      | none =>
        Reader.colon
        Reader.skipValue
        shape.readMembers fuel false record
    else
      match shape.missing? record with
      | some field => Reader.complain (missingField field.name)
      | none => return record

/-- A record, starting from `blank`. -/
def read (shape : Shape σ) (blank : σ) : Reader σ := Reader.placed do
  match ← Reader.peekToken with
  | some '[' =>
    Reader.skip
    Reader.closedBy Reader.closeArray (shape.readElements shape.fields 0 blank)
  | some '{' =>
    Reader.skip
    Reader.closedBy Reader.closeObject
      (shape.readMembers ((← Reader.rest).length + 1) true blank)
  | _ => Reader.complain (wrongType (← Reader.glance) shape.title)

-- ======================================================= from a value

/-- The elements of an array in memory, one for every field. -/
def ofElements (shape : Shape σ) (total : Nat) :
    List (Field σ) → List Json → σ → Except Cause σ
  | [], [], record => .ok record
  | [], _ :: _, _ => .error (tooLong total shape.fields.length)
  | _ :: _, [], record =>
    if shape.lenient then .ok record
    else .error (tooShort total shape.title shape.fields.length)
  | field :: fields, v :: values, record => do
    shape.ofElements total fields values (← field.ofValue record v)

/-- The members of an object in memory. -/
def ofMembers (shape : Shape σ) : List (String × Json) → σ → Except Cause σ
  | [], record =>
    match shape.missing? record with
    | some field => .error (missingField field.name)
    | none => .ok record
  | (name, v) :: members, record =>
    match shape.field? name with
    | some field => do
      if field.given record then throw (duplicateField field.name)
      shape.ofMembers members (← field.ofValue record v)
    | none => shape.ofMembers members record

/-- A record that a value in memory stands for, starting from `blank`. -/
def ofValue (shape : Shape σ) (blank : σ) (v : Json) : Except Cause σ :=
  match v with
  | .array items => shape.ofElements items.length shape.fields items blank
  | .object members => shape.ofMembers members blank
  | _ => .error (wrongType v shape.title)

end Shape

end ReceiptPrinter.Json
