/-
A record kept beside the world.

What is done to a world can be recorded: every step does what it would do
anyway, and an entry that says how it went comes to the end of a list. The
world itself notices nothing.
-/

namespace ReceiptPrinter.Record

variable {W A B E α : Type}

/-- A step of the world of which nothing is recorded. -/
def aside (step : StateM W α) : StateM (W × List A) α := fun (w, record) =>
  let (a, w) := step w
  (a, (w, record))

/-- A change of the world from outside, of which nothing is recorded. -/
def beside (nature : E → W → W) (change : E) : W × List A → W × List A :=
  fun (w, record) => (nature change w, record)

/-- A step of the world, recorded with its result. -/
def noting (step : StateM W α) (entry : α → A) : StateM (W × List A) α := fun (w, record) =>
  let (a, w) := step w
  (a, (w, record ++ [entry a]))

/-- Steps that keep a record, recorded as a whole. -/
def gathering (steps : StateM (W × List A) α) (entry : α → List A → B) :
    StateM (W × List B) α := fun (w, record) =>
  let (a, (w, gathered)) := steps (w, [])
  (a, (w, record ++ [entry a gathered]))

end ReceiptPrinter.Record
