/-
What a trigger answers, and what becomes of the run it starts.

The answer is given by the flag, and at once; the run takes its first step
later, and other moves may come in between. `Fate` lists what can have become
of such a run, judged by the account of all that was done.
-/
import ReceiptPrinter.Scan.Account

namespace ReceiptPrinter.Scan

namespace Account

/-- Whether a run does a sweep of its own, and says so. -/
def Starts (account : Account) (run : Nat) : Prop :=
  Deed.announced (.scannerRunning true) ∈ account.of run

instance (account : Account) (run : Nat) : Decidable (account.Starts run) :=
  inferInstanceAs (Decidable (_ ∈ _))

/-- What can have become of a run that was started after `earlier`. -/
inductive Fate (earlier account : Account) (run : Nat) : Prop where
  /-- It has not begun. -/
  | waiting (hdeeds : account.of run = [])
  /-- It was given up before it began. -/
  | dropped (hdeeds : account.of run = [.abandoned])
  /-- When it began, another run had the right to sweep, and had got it after
  the answer. -/
  | forestalled {front rest : Account} {other : Nat} (hdeeds : account.of run = [.refused])
    (hbegan : account = front ++ (run, .refused) :: rest) (hother : other ≠ run)
    (hholds : front.Holds other) (hlate : Deed.claimed ∉ earlier.of other)
  /-- When it began, no run had the right to sweep. It has announced its
  start, or it is about to. -/
  | claimed {front rest : Account} (hbegan : account = front ++ (run, .claimed) :: rest)
    (hfree : ∀ other, ¬ front.Holds other)
    (hstarts : account.Starts run ∨ account.of run = [.claimed])

end Account

namespace Station

/-- The run that a move starts in the background, if it is a trigger that
answers true. -/
def grants (s : Station) : Move → List Nat
  | .trigger => if s.trigger.1 then [s.background.length] else []
  | .run | .step _ _ | .answer _ _ _ | .abandon _ => []

/-- The runs started by the triggers of a schedule, one for each that answers
true. -/
def granted (plan : Plan) (s : Station) : List Move → List Nat
  | [] => []
  | move :: rest =>
    match s.move? plan move with
    | some s' => s.grants move ++ Station.granted plan s' rest
    | none => []

end Station

end ReceiptPrinter.Scan
