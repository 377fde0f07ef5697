/-
Reading arrays, objects and whole values.

`hasElement` and `hasKey` say whether another element or member follows,
dealing with the commas between them; `closeArray` and `closeObject` take
the closing bracket. `value` reads any value into memory, down to a depth
of 127 brackets.
-/
import ReceiptPrinter.Json.Reader

namespace ReceiptPrinter.Json.Reader

/-- Whether another element follows. -/
def hasElement (first : Bool) : Reader Bool := do
  match ← peekToken with
  | none => failAtNext .eofInArray
  | some ']' => return false
  | some c =>
    if first then return true
    if c = ',' then
      skip
      match ← peekToken with
      | none => failAtNext .eofInValue
      | some ']' => failAtNext .trailingComma
      | some _ => return true
    else failAtNext .expectedCommaOrBracket

/-- Whether another member follows; if so, its opening quote is next. -/
def hasKey (first : Bool) : Reader Bool := do
  match ← peekToken with
  | none => failAtNext .eofInObject
  | some '}' => return false
  | some c =>
    if first then
      if c = '"' then return true else failAtNext .keyNotString
    else if c = ',' then
      skip
      match ← peekToken with
      | none => failAtNext .eofInValue
      | some '"' => return true
      | some '}' => failAtNext .trailingComma
      | some _ => failAtNext .keyNotString
    else failAtNext .expectedCommaOrBrace

/-- The key of a member, its opening quote being next. -/
def key : Reader String := do
  skip
  quoted

/-- The colon between a key and its value. -/
def colon : Reader Unit := do
  match ← peekToken with
  | none => failAtNext .eofInObject
  | some ':' => skip
  | some _ => failAtNext .expectedColon

/-- The bracket that ends an array. -/
def closeArray : Reader Unit := do
  match ← peekToken with
  | none => failAtNext .eofInArray
  | some ']' => skip
  | some ',' =>
    skip
    if (← peekToken) = some ']' then failAtNext .trailingComma else failAtNext .trailingCharacters
  | some _ => failAtNext .trailingCharacters

/-- The brace that ends an object. -/
def closeObject : Reader Unit := do
  match ← peekToken with
  | none => failAtNext .eofInObject
  | some '}' => skip
  | some ',' => failAtNext .trailingComma
  | some _ => failAtNext .trailingCharacters

/-- Reads what stands between two brackets and then the closing one. Of two
failures the inner one counts. -/
def closedBy {α : Type} (close : Reader Unit) (inner : Reader α) : Reader α := do
  let result ← tryCatch (Except.ok <$> inner) fun f => pure (Except.error f)
  let closed ← tryCatch (Except.ok <$> close) fun f => pure (Except.error f)
  match result, closed with
  | .ok a, .ok () => return a
  | .error f, _ => throw f
  | .ok _, .error f => throw f

mutual

/-- One value, with at most `depth` brackets around its innermost part. -/
def valueWithin : Nat → Nat → Reader Json
  | 0, _ => failAtNext .expectedValue
  | fuel + 1, depth => do
    match ← peekToken with
    | none => failAtNext .eofInValue
    | some 'n' => skip; literal ['u', 'l', 'l']; return .null
    | some 't' => skip; literal ['r', 'u', 'e']; return .bool true
    | some 'f' => skip; literal ['a', 'l', 's', 'e']; return .bool false
    | some '"' => skip; return .string (← quoted)
    | some '[' =>
      if depth = 0 then failAtNext .tooDeep
      skip
      return .array (← closedBy closeArray (elementsWithin fuel (depth - 1) true))
    | some '{' =>
      if depth = 0 then failAtNext .tooDeep
      skip
      return .object (← closedBy closeObject (membersWithin fuel (depth - 1) true))
    | some c =>
      if c = '-' ∨ c.isDigit then return .number (← number) else failAtNext .expectedValue

/-- The remaining elements of an array. -/
def elementsWithin : Nat → Nat → Bool → Reader (List Json)
  | 0, _, _ => failAtNext .expectedValue
  | fuel + 1, depth, first => do
    if ← hasElement first then
      let v ← valueWithin fuel depth
      return v :: (← elementsWithin fuel depth false)
    else return []

/-- The remaining members of an object. -/
def membersWithin : Nat → Nat → Bool → Reader (List (String × Json))
  | 0, _, _ => failAtNext .expectedValue
  | fuel + 1, depth, first => do
    if ← hasKey first then
      let k ← key
      colon
      let v ← valueWithin fuel depth
      return (k, v) :: (← membersWithin fuel depth false)
    else return []

end

/-- The brackets that may be open at once. -/
def depthLimit : Nat := 127

/-- One value, with at most `depth` brackets around its innermost part. -/
def value (depth : Nat) : Reader Json := do
  valueWithin (2 * (← rest).length + 2) depth

/-- Nothing but blanks may follow. -/
def atEnd : Reader Unit := do
  match ← peekToken with
  | none => return ()
  | some _ => failAtNext .trailingCharacters

/-- What a text says as a whole. -/
def document {α : Type} (r : Reader α) (text : List Char) : Except Failure α :=
  (runOn (do let a ← r; atEnd; return a) text).1

end ReceiptPrinter.Json.Reader
