/-
The outcome of work done in the background.

Work either reports an outcome or ends without one, because it broke down
or was abandoned. Nothing escapes: work without a report counts as a
failure. A host is given the value or a failure, never both.
-/
import ReceiptPrinter.Error

namespace ReceiptPrinter

/-- Work done in the background, as far as it got. -/
inductive Work (α : Type) where
  | reported (outcome : Outcome α)
  | vanished

namespace Work

/-- What whoever waits for the work gets. -/
def outcome {α : Type} : Work α → Outcome α
  | reported outcome => outcome
  | vanished => .error (.ioFailure "background task ended without reporting")

/-- What a host's callback gets. -/
def delivery {α : Type} (work : Work α) : Except Failure α :=
  match work.outcome with
  | .ok a => .ok a
  | .error e => .error e.failure

end Work

end ReceiptPrinter
