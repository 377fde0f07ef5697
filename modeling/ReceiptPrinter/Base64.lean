/-
Base64 in the standard alphabet.

Padding may be there or not, and the bits that a last group leaves over are
ignored. Everything up to the last group is strict: a padding sign there
is as wrong as any other sign outside the alphabet. Faults give the offset
of the sign, or how many signs there are when the last group is too short.
A text may hold blanks anywhere; they are removed before decoding and do
not count in offsets.
-/
import ReceiptPrinter.Bytes

namespace ReceiptPrinter.Base64

/-- Why a text is not base64. -/
inductive Fault where
  | symbol (byte : UInt8) (offset : Nat)
  | length (count : Nat)
  deriving DecidableEq, Repr

/-- The wording of a fault. -/
def Fault.message : Fault → String
  | symbol byte offset => s!"Invalid symbol {byte.toNat}, offset {offset}."
  | length count => s!"Invalid input length: {count}"

/-- The value of a sign of the alphabet. -/
def value? (b : UInt8) : Option Nat :=
  let n := b.toNat
  if 0x41 ≤ n ∧ n ≤ 0x5A then some (n - 0x41)
  else if 0x61 ≤ n ∧ n ≤ 0x7A then some (n - 0x61 + 26)
  else if 0x30 ≤ n ∧ n ≤ 0x39 then some (n - 0x30 + 52)
  else if n = 0x2B then some 62
  else if n = 0x2F then some 63
  else none

/-- The padding sign. -/
def padding : UInt8 := 0x3D

/-- The value of a sign at an offset. -/
def valueAt (b : UInt8) (offset : Nat) : Except Fault Nat :=
  match value? b with
  | some v => .ok v
  | none => .error (.symbol b offset)

/-- The bytes of a group of two, three or four values. -/
def groupBytes : List Nat → Bytes
  | [a, b] => [(a * 4 + b / 16).toUInt8]
  | [a, b, c] => [(a * 4 + b / 16).toUInt8, (b % 16 * 16 + c / 4).toUInt8]
  | [a, b, c, d] =>
    [(a * 4 + b / 16).toUInt8, (b % 16 * 16 + c / 4).toUInt8, (c % 4 * 64 + d).toUInt8]
  | _ => []

/-- The values of the last group, whose signs begin at `offset`; `index`
counts the signs already seen and `pad?` is the first padding sign. -/
def lastValues (offset : Nat) : Nat → Option Nat → Bytes → Except Fault (List Nat)
  | _, _, [] => .ok []
  | index, pad?, b :: rest =>
    if b = padding then
      if index < 2 then .error (.symbol b (offset + index))
      else lastValues offset (index + 1) (pad?.or (some index)) rest
    else
      match pad? with
      | some first => .error (.symbol padding (offset + first))
      | none => do
        let v ← valueAt b (offset + index)
        return v :: (← lastValues offset (index + 1) none rest)

/-- The last group, of one to four signs. -/
def lastGroup (offset : Nat) (group : Bytes) : Except Fault Bytes := do
  let values ← lastValues offset 0 none group
  if values.length < 2 then throw (.length (offset + values.length))
  return groupBytes values

def groupsFrom (offset : Nat) : Bytes → Except Fault Bytes
  | a :: b :: c :: d :: e :: rest => do
    let va ← valueAt a offset
    let vb ← valueAt b (offset + 1)
    let vc ← valueAt c (offset + 2)
    let vd ← valueAt d (offset + 3)
    return groupBytes [va, vb, vc, vd] ++ (← groupsFrom (offset + 4) (e :: rest))
  | [] => .ok []
  | group => lastGroup offset group

/-- The sign that a text one sign too long ends with, if it is a bad one. -/
def strayEnd? (signs : Bytes) : Option Fault :=
  if signs.length % 4 = 1 then
    match signs.getLast? with
    | some b =>
      if b ≠ padding ∧ (value? b).isNone then some (.symbol b (signs.length - 1)) else none
    | none => none
  else none

/-- The bytes that a row of signs stands for. A bad sign that makes the text
one too long is reported before any other. -/
def decode (signs : Bytes) : Except Fault Bytes :=
  match strayEnd? signs with
  | some fault => .error fault
  | none => groupsFrom 0 signs

/-- Whether a byte is a blank: space, tab, line feed, form feed or carriage
return. -/
def isBlank (b : UInt8) : Bool := b == 0x20 || b == 0x09 || b == 0x0A || b == 0x0C || b == 0x0D

/-- The bytes that a text stands for, blanks aside. -/
def decodeText (text : List Char) : Except Fault Bytes :=
  decode ((utf8 text).filter fun b => !isBlank b)

end ReceiptPrinter.Base64
