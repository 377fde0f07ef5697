/-
Searching the local network for printers.

A scanner does one sweep at a time. Every sweep is announced, and so is its
end; in between comes the list of devices, or a message that the machine
has no address to start from. Whoever asks for a sweep while another is
going on gets nothing.

A run goes through phases, one step at a time, and other runs may take
their steps in between. Two steps end a run: first the way is cleared for
other runs, then the end is announced.
-/
import ReceiptPrinter.Event.Basic
import ReceiptPrinter.Scan.Window
import ReceiptPrinter.Settings

namespace ReceiptPrinter.Scan

open Net (Address)

/-- What the runs of a scanner share. -/
structure Scanner where
  /-- Whether some run has the right to sweep. -/
  running : Bool
  /-- Everything announced so far. -/
  announced : List Event
  /-- Every probe answered so far. -/
  probes : List (Address × UInt16)
  deriving DecidableEq, Repr

/-- A scanner on which nothing has happened yet. -/
def Scanner.fresh : Scanner := ⟨false, [], []⟩

/-- The scanner after an announcement. -/
def Scanner.announce (s : Scanner) (e : Event) : Scanner :=
  { s with announced := s.announced ++ [e] }

/-- The surroundings of a scanner: its own address, once that is known, and
what answers. -/
structure Lan where
  /-- Empty as long as it has not been found out whether there is one. -/
  address : Option (Option Address)
  reach : Reach

/-- How the settings want sweeps to be done. There is always room for one
host. -/
def Plan.ofSettings (s : Settings) : Plan := ⟨s.scanPorts, max s.scanConcurrency 1⟩

/-- How far a run has come. -/
inductive Phase where
  | idle
  /-- The run has the right to sweep. -/
  | claimed
  /-- The start is announced; the address is being looked for. -/
  | locating
  | sweeping (w : Window)
  /-- The result is announced. -/
  | concluding (result : Option (List NetIdentity))
  /-- Others may sweep again. -/
  | cleared (result : Option (List NetIdentity))
  | ended (result : Option (List NetIdentity))
  deriving DecidableEq, Repr

/-- The message that goes out when the machine has no address. -/
def noAddress : String := "Unable to determine local IP address"

namespace Phase

/-- The next step of a run, or none if it has ended or has to wait. -/
def step (plan : Plan) (lan : Lan) : Phase → Scanner → Option (Phase × Scanner)
  | idle, s => some (if s.running then (ended none, s) else (claimed, { s with running := true }))
  | claimed, s => some (locating, s.announce (.scannerRunning true))
  | locating, s =>
    match lan.address with
    | none => none
    | some none => some (concluding none, s.announce (.registerError noAddress))
    | some (some own) => some (sweeping (.start plan own), s)
  | sweeping w, s =>
    match w.oldest? with
    | none => some (concluding (some w.found), s.announce (.scannerResolved w.found))
    | some (index, host, port) =>
      some (sweeping (w.answer plan index (lan.reach host port)),
        { s with probes := s.probes ++ [(host, port)] })
  | concluding result, s => some (cleared result, { s with running := false })
  | cleared result, s => some (ended result, s.announce (.scannerRunning false))
  | ended _, _ => none

/-- A run that is given up where it waits, or before it has begun: it
concludes without a result. -/
def abandoned : Phase → Option Phase
  | idle => some (ended none)
  | locating | sweeping _ => some (concluding none)
  | claimed | concluding _ | cleared _ | ended _ => none

/-- Takes steps until a run has ended or has to wait, at most `fuel`. -/
def advanceWithin (plan : Plan) (lan : Lan) : Nat → Phase → Scanner → Phase × Scanner
  | 0, phase, s => (phase, s)
  | fuel + 1, phase, s =>
    match phase.step plan lan s with
    | some (phase, s) => advanceWithin plan lan fuel phase s
    | none => (phase, s)

/-- The most steps that a run can take: one for every probe, and those
around them. -/
def mostSteps (plan : Plan) : Nat := 255 * plan.ports.length + 7

/-- Takes steps until a run has ended or has to wait. -/
def advance (plan : Plan) (lan : Lan) (phase : Phase) (s : Scanner) : Phase × Scanner :=
  advanceWithin plan lan (mostSteps plan) phase s

/-- What a run that has ended gives its caller. -/
def result : Phase → Option (List NetIdentity)
  | ended result => result
  | _ => none

end Phase

/-- A scanner with the runs that go on in the background. -/
structure Station where
  scanner : Scanner
  background : List Phase
  deriving DecidableEq, Repr

namespace Station

/-- A station on which nothing has happened yet. -/
def fresh : Station := ⟨.fresh, []⟩

/-- Asks for a run in the background; false if a run is going on. -/
def trigger (s : Station) : Bool × Station :=
  if s.scanner.running then (false, s)
  else (true, { s with background := s.background ++ [.idle] })

/-- Takes every step that the given runs can take, one run after
another. -/
def advanceAll (plan : Plan) (lan : Lan) : List Phase → Scanner → List Phase × Scanner
  | [], s => ([], s)
  | phase :: rest, s =>
    let (phase, s) := phase.advance plan lan s
    let (rest, s) := advanceAll plan lan rest s
    (phase :: rest, s)

/-- Takes every step that can be taken in the background. -/
def settle (plan : Plan) (lan : Lan) (s : Station) : Station :=
  let (background, scanner) := advanceAll plan lan s.background s.scanner
  ⟨scanner, background⟩

/-- Does a run, as far as it gets; if it has to wait, it goes on in the
background. -/
def run (plan : Plan) (lan : Lan) (s : Station) : Option (List NetIdentity) × Station :=
  let (phase, scanner) := Phase.idle.advance plan lan s.scanner
  match phase with
  | .ended result => (result, { s with scanner := scanner })
  | phase => (none, ⟨scanner, s.background ++ [phase]⟩)

end Station

end ReceiptPrinter.Scan
