/-
The modes in which a QR symbol holds text, and what each of them costs.

A segment is a run of bytes in one mode. Its header is four bits of mode
and a count whose width depends on the version of the symbol; its data
take ten bits for three digits, eleven for two alphanumeric characters,
eight for a byte and thirteen for a kanji of two bytes.
-/
import ReceiptPrinter.Bytes

namespace ReceiptPrinter.Qr

/-- How a run of bytes is packed. -/
inductive Mode where
  | numeric
  | alphanumeric
  | byte
  | kanji
  deriving DecidableEq, Repr

/-- A run of bytes and how it is packed. -/
structure Segment where
  mode : Mode
  bytes : Bytes
  deriving DecidableEq, Repr

namespace Mode

/-- The mode that can hold what either of two modes holds. Digits are also
alphanumeric, and everything is also bytes; kanji go with nothing else. -/
def join (a b : Mode) : Mode :=
  if a = b then a
  else
    match a, b with
    | .numeric, .alphanumeric => .alphanumeric
    | .alphanumeric, .numeric => .alphanumeric
    | _, _ => .byte

/-- The four bits that announce a mode. -/
def indicator : Mode → Nat
  | numeric => 1
  | alphanumeric => 2
  | byte => 4
  | kanji => 8

/-- The width of a segment's count in a symbol of the given version. -/
def countBits (version : Nat) : Mode → Nat
  | numeric => if version ≤ 9 then 10 else if version ≤ 26 then 12 else 14
  | alphanumeric => if version ≤ 9 then 9 else if version ≤ 26 then 11 else 13
  | byte => if version ≤ 9 then 8 else 16
  | kanji => if version ≤ 9 then 8 else if version ≤ 26 then 10 else 12

/-- The bits that `count` characters take. -/
def dataBits (count : Nat) : Mode → Nat
  | numeric => (count * 10 + 2) / 3
  | alphanumeric => (count * 11 + 1) / 2
  | byte => count * 8
  | kanji => count * 13

end Mode

namespace Segment

/-- The characters of a segment; a kanji is two bytes. -/
def count (s : Segment) : Nat :=
  match s.mode with
  | .kanji => s.bytes.length / 2
  | _ => s.bytes.length

/-- The bits of a segment, header included. -/
def cost (version : Nat) (s : Segment) : Nat :=
  4 + s.mode.countBits version + s.mode.dataBits s.count

/-- Two neighbouring segments as one. -/
def join (a b : Segment) : Segment := ⟨a.mode.join b.mode, a.bytes ++ b.bytes⟩

end Segment

-- ============================================================== merging

/-- Merges neighbours from the left as long as that costs no more; `current`
is the segment that still grows. -/
def mergeFrom (version : Nat) (current : Segment) : List Segment → List Segment
  | [] => [current]
  | next :: rest =>
    let joined := current.join next
    if joined.cost version ≤ current.cost version + next.cost version then
      mergeFrom version joined rest
    else current :: mergeFrom version next rest

/-- Merges neighbouring segments as long as that costs no more. -/
def merge (version : Nat) : List Segment → List Segment
  | [] => []
  | first :: rest => mergeFrom version first rest

/-- The bits of all segments together. -/
def totalCost (version : Nat) (segments : List Segment) : Nat :=
  (segments.map (·.cost version)).foldl (· + ·) 0

end ReceiptPrinter.Qr
