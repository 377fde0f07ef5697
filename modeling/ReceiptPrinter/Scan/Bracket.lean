/-
Announcements in brackets.

A sweep is announced as a bracket: its start, at most one word about what
came of it, and its end. Whoever listens wants one bracket after another;
then the last start or end that was announced tells whether a sweep is going
on. `stage?` follows the announcements as they come, as long as they are in
brackets.
-/
import ReceiptPrinter.Event.Basic

namespace ReceiptPrinter.Scan

/-- Whether an event tells what came of a sweep. -/
def isWord : Event → Bool
  | .scannerResolved _ | .registerError _ => true
  | _ => false

/-- A bracket without its end. -/
def IsOpenBracket (events : List Event) : Prop :=
  ∃ words, events = Event.scannerRunning true :: words ∧ words.length ≤ 1
    ∧ ∀ word ∈ words, isWord word = true

/-- Complete brackets, followed by at most one that has not ended. -/
def Bracketed (events : List Event) : Prop :=
  ∃ (brackets : List (List Event)) (last : List Event),
    events = (brackets.map (· ++ [Event.scannerRunning false])).flatten ++ last
      ∧ (∀ bracket ∈ brackets, IsOpenBracket bracket) ∧ (last = [] ∨ IsOpenBracket last)

/-- The last that was announced about whether a sweep is going on. -/
def lastRunning (events : List Event) : Bool :=
  events.foldl (fun running e =>
    match e with
    | .scannerRunning now => now
    | _ => running) false

/-- Where announcements stand: behind a complete bracket, or in one, with or
without a word in it. -/
inductive Stage where
  | closed
  | opened
  | told
  deriving DecidableEq, Repr

/-- Where the announcements stand after one more, if it may come there. -/
def Stage.after? : Stage → Event → Option Stage
  | closed, .scannerRunning true => some opened
  | opened, .scannerResolved _ => some told
  | opened, .registerError _ => some told
  | opened, .scannerRunning false => some closed
  | told, .scannerRunning false => some closed
  | _, _ => none

/-- Where announcements stand, if all of them came where they may. -/
def stage? (events : List Event) : Option Stage := events.foldlM Stage.after? .closed

end ReceiptPrinter.Scan
