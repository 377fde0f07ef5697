/-
Cutting a text into runs that suit the modes.

The bytes of a text fall into classes: digits, capital letters, the symbols
of the alphanumeric mode, and the lead and trail bytes of two-byte kanji. A
small automaton runs over the classes and cuts where the sort of run
changes. A lead byte that no trail byte follows ends up as a byte of its
own.
-/
import ReceiptPrinter.Qr.Mode

namespace ReceiptPrinter.Qr

/-- What a byte may be part of. Kanji have lead bytes of three sorts and
trail bytes of two. -/
inductive CharClass where
  | finish
  | symbol
  | digit
  | letter
  | leadLow
  | leadHigh
  | leadLast
  | trailLow
  | trailHigh
  | other
  deriving DecidableEq, Repr

def CharClass.ofByte (b : UInt8) : CharClass :=
  let n := b.toNat
  if n = 0x20 ∨ n = 0x24 ∨ n = 0x25 ∨ n = 0x2A ∨ n = 0x2B ∨ (0x2D ≤ n ∧ n ≤ 0x2F) ∨ n = 0x3A then
    .symbol
  else if 0x30 ≤ n ∧ n ≤ 0x39 then .digit
  else if 0x41 ≤ n ∧ n ≤ 0x5A then .letter
  else if 0x81 ≤ n ∧ n ≤ 0x9F then .leadLow
  else if 0xE0 ≤ n ∧ n ≤ 0xEA then .leadHigh
  else if n = 0xEB then .leadLast
  else if n = 0x40 ∨ (0x5B ≤ n ∧ n ≤ 0x7E) ∨ n = 0x80 ∨ (0xA0 ≤ n ∧ n ≤ 0xBF) then .trailLow
  else if (0xC0 ≤ n ∧ n ≤ 0xDF) ∨ (0xEC ≤ n ∧ n ≤ 0xFC) then .trailHigh
  else .other

/-- Where the automaton stands: in a run of one sort, or between the two
bytes of a kanji. -/
inductive Run where
  | start
  | numeric
  | alphanumeric
  | byte
  | afterLead
  | afterLeadLast
  | kanji
  deriving DecidableEq, Repr

/-- What happens to the run so far when a byte arrives. -/
inductive Cut where
  /-- The byte joins the run. -/
  | keep
  /-- The run ends before the byte. -/
  | close (mode : Mode)
  /-- The run ends, and its last byte, a lead without a trail, is split off. -/
  | closeLead
  deriving DecidableEq, Repr

/-- The run that a byte of the given class begins. -/
def Run.begin : CharClass → Run
  | .finish => .start
  | .symbol => .alphanumeric
  | .digit => .numeric
  | .letter => .alphanumeric
  | .leadLow => .afterLead
  | .leadHigh => .afterLead
  | .leadLast => .afterLeadLast
  | .trailLow => .byte
  | .trailHigh => .byte
  | .other => .byte

/-- The state behind a byte, and what it does to the run so far. -/
def Run.step (run : Run) (c : CharClass) : Run × Cut :=
  match run with
  | .start => (Run.begin c, .keep)
  | .numeric =>
    match c with
    | .digit => (.numeric, .keep)
    | _ => (Run.begin c, .close .numeric)
  | .alphanumeric =>
    match c with
    | .symbol | .letter => (.alphanumeric, .keep)
    | _ => (Run.begin c, .close .alphanumeric)
  | .byte =>
    match c with
    | .trailLow | .trailHigh | .other => (.byte, .keep)
    | _ => (Run.begin c, .close .byte)
  | .afterLead =>
    match c with
    | .finish | .symbol | .digit | .other => (Run.begin c, .closeLead)
    | _ => (.kanji, .keep)
  | .afterLeadLast =>
    match c with
    | .letter | .leadLow | .trailLow => (.kanji, .keep)
    | _ => (Run.begin c, .closeLead)
  | .kanji =>
    match c with
    | .leadLow | .leadHigh => (.afterLead, .keep)
    | .leadLast => (.afterLeadLast, .keep)
    | _ => (Run.begin c, .close .kanji)

/-- The segments that a cut makes of the run so far. -/
def Cut.segments (cut : Cut) (sofar : Bytes) : List Segment :=
  match cut with
  | .keep => []
  | .close mode => [⟨mode, sofar⟩]
  | .closeLead =>
    if sofar.length ≤ 1 then [⟨.byte, sofar⟩]
    else [⟨.kanji, sofar.dropLast⟩, ⟨.byte, sofar.drop (sofar.length - 1)⟩]

/-- The segments of what is left of a text. The run so far is kept in
reverse. -/
def scanFrom (run : Run) (sofar : Bytes) : Bytes → List Segment
  | [] => (run.step .finish).2.segments sofar.reverse
  | b :: rest =>
    let (next, cut) := run.step (CharClass.ofByte b)
    if cut = .keep then scanFrom next (b :: sofar) rest
    else cut.segments sofar.reverse ++ scanFrom next [b] rest

def scan (text : Bytes) : List Segment := scanFrom .start [] text

end ReceiptPrinter.Qr
