/-
Faults put in front of a transport's channels.

A plan says how many more chunks go through before one write fails, and
whether the next flush fails. Each fault happens once; the transport
itself sees nothing of a write or flush that failed.
-/
import ReceiptPrinter.Transport.Backend

namespace ReceiptPrinter

/-- The faults to come. -/
structure FaultPlan where
  /-- Chunks that still go through before one fails. -/
  writesLeft : Option Nat
  failFlush : Bool
  deriving DecidableEq, Repr

/-- No fault. -/
def FaultPlan.none : FaultPlan := ⟨Option.none, false⟩

/-- A write under a fault plan. Only chunks that go through are counted. -/
def FaultPlan.write {W : Type} (write : W → Outcome Unit × W) (state : W × FaultPlan) :
    Outcome Unit × (W × FaultPlan) :=
  let (w, plan) := state
  match plan.writesLeft with
  | some 0 => (.error (.ioFailure "paper out"), (w, { plan with writesLeft := Option.none }))
  | left =>
    match write w with
    | (.ok (), w) => (.ok (), (w, { plan with writesLeft := left.map (· - 1) }))
    | (.error e, w) => (.error e, (w, plan))

/-- A flush under a fault plan. -/
def FaultPlan.flush {W : Type} (flush : W → Outcome Unit × W) (state : W × FaultPlan) :
    Outcome Unit × (W × FaultPlan) :=
  let (w, plan) := state
  if plan.failFlush then (.error (.ioFailure "flush failed"), (w, { plan with failFlush := false }))
  else
    let (result, w) := flush w
    (result, (w, plan))

/-- A step of the world that the plan has no part in. -/
def FaultPlan.aside {W α : Type} (step : W → α × W) (state : W × FaultPlan) :
    α × (W × FaultPlan) :=
  let (a, w) := step state.1
  (a, (w, state.2))

/-- A transport whose channels fail as planned. -/
def Backend.withFaults {W ι κ ρ : Type} (b : Backend (StateM W) ι κ ρ) :
    Backend (StateM (W × FaultPlan)) ι κ ρ where
  kind := b.kind
  narrow := b.narrow
  prepare := FaultPlan.aside b.prepare
  devices := FaultPlan.aside b.devices
  connect id := FaultPlan.aside (b.connect id)
  poll r := FaultPlan.aside (b.poll r)
  write channel chunk := FaultPlan.write (b.write channel chunk)
  flush channel := FaultPlan.flush (b.flush channel)
  close channel := FaultPlan.aside (b.close channel)

end ReceiptPrinter
