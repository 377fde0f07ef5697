/-
Runs of one scanner at the same time.

Runs may be asked for at any time, in the foreground or by a trigger, and
their steps may come in any order. The machine's address may become known
late, the probes of a sweep may be answered in any order, and a run may be
given up wherever it waits.
-/
import ReceiptPrinter.Scan.Scanner

namespace ReceiptPrinter.Scan

open Net (Address)

namespace Window

/-- The probe under way in a slot: its host and port. -/
def probe? (w : Window) (index : Nat) : Option (Address × UInt16) :=
  match w.slots[index]? with
  | some (.probing host port _) => some (host, port)
  | _ => none

end Window

/-- What can happen next at a scanner. -/
inductive Move where
  /-- Somebody asks for a run. -/
  | run
  /-- Somebody asks for a run in the background. -/
  | trigger
  /-- A run takes its next step, as the surroundings are then. -/
  | step (index : Nat) (lan : Lan)
  /-- The probe in a slot of a run's sweep is answered. -/
  | answer (index slot : Nat) (reachable : Bool)
  /-- A run is given up. -/
  | abandon (index : Nat)

namespace Station

/-- The station with a run replaced. -/
def setRun (s : Station) (index : Nat) (phase : Phase) (scanner : Scanner) : Station :=
  ⟨scanner, s.background.set index phase⟩

/-- The station after a move, if it is possible. -/
def move? (plan : Plan) (s : Station) : Move → Option Station
  | .run => some { s with background := s.background ++ [.idle] }
  | .trigger => some s.trigger.2
  | .step index lan => do
    let (phase, scanner) ← (← s.background[index]?).step plan lan s.scanner
    return s.setRun index phase scanner
  | .answer index slot reachable =>
    match s.background[index]? with
    | some (.sweeping w) => do
      let probe ← w.probe? slot
      return s.setRun index (.sweeping (w.answer plan slot reachable))
        { s.scanner with probes := s.scanner.probes ++ [probe] }
    | _ => none
  | .abandon index => do
    let phase ← (← s.background[index]?).abandoned
    return s.setRun index phase s.scanner

/-- The station after a whole schedule, if every move of it is possible. -/
def follow? (plan : Plan) (s : Station) : List Move → Option Station
  | [] => some s
  | move :: rest => (s.move? plan move).bind (Station.follow? plan · rest)

end Station

end ReceiptPrinter.Scan
