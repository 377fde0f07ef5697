/-
Who did what.

A scanner knows what has been announced and probed, not by which run. The
account of a schedule has both: it lists the deeds of all runs in the order
in which they were done, each with the number of its run. Besides what
others notice it tells what the run learned: whether it got the right to
sweep, which address the machine has, what a probe answered.

The account also tells when a start was announced too early: while a run
that had let others sweep again was still to announce its own end.
-/
import ReceiptPrinter.Scan.Schedule

namespace ReceiptPrinter.Scan

open Net (Address)

-- ================================================================= deeds

/-- Something that a run does. -/
inductive Deed where
  /-- It gets the right to sweep. -/
  | claimed
  /-- It finds that another run has the right. -/
  | refused
  /-- It learns the machine's address, or that there is none. -/
  | located (own : Option Address)
  /-- A probe of it is answered. -/
  | probed (host : Address) (port : UInt16) (reachable : Bool)
  | announced (e : Event)
  /-- It is given up. -/
  | abandoned
  /-- It lets others sweep again. -/
  | cleared
  deriving DecidableEq, Repr

namespace Deed

def event? : Deed → Option Event
  | announced e => some e
  | _ => none

def probe? : Deed → Option (Address × UInt16)
  | probed host port _ => some (host, port)
  | _ => none

end Deed

/-- What a run announces between its start and its end, and what it gives
its caller, by its deeds. -/
inductive Verdict (deeds : List Deed) : List Event → Option (List NetIdentity) → Prop where
  | abandoned (h : Deed.abandoned ∈ deeds) : Verdict deeds [] none
  | nowhere (h : Deed.abandoned ∉ deeds) (hnone : Deed.located none ∈ deeds) :
    Verdict deeds [.registerError noAddress] none
  | resolved {own : Address} (found : List NetIdentity) (h : Deed.abandoned ∉ deeds)
    (hown : Deed.located (some own) ∈ deeds) : Verdict deeds [.scannerResolved found] (some found)

/-- What a run does in its next step. -/
def Phase.deeds (lan : Lan) (s : Scanner) : Phase → List Deed
  | idle => [if s.running then .refused else .claimed]
  | claimed => [.announced (.scannerRunning true)]
  | locating =>
    match lan.address with
    | none => []
    | some none => [.located none, .announced (.registerError noAddress)]
    | some (some own) => [.located (some own)]
  | sweeping w =>
    match w.oldest? with
    | none => [.announced (.scannerResolved w.found)]
    | some (_, host, port) => [.probed host port (lan.reach host port)]
  | concluding _ => [.cleared]
  | cleared _ => [.announced (.scannerRunning false)]
  | ended _ => []

-- ============================================================== accounts

/-- What runs did, in order, each deed with the number of its run. -/
abbrev Account := List (Nat × Deed)

namespace Account

/-- The deeds of one run. -/
def of (account : Account) (index : Nat) : List Deed :=
  account.filterMap fun (run, deed) => if run = index then some deed else none

/-- The announcements, in order. -/
def events (account : Account) : List Event := account.filterMap fun (_, deed) => deed.event?

/-- The probes, in the order in which they were answered. -/
def probes (account : Account) : List (Address × UInt16) :=
  account.filterMap fun (_, deed) => deed.probe?

/-- Whether a run has the right to sweep, having got it and not yet let
others sweep again. -/
def Holds (account : Account) (index : Nat) : Prop :=
  Deed.claimed ∈ account.of index ∧ Deed.cleared ∉ account.of index

instance (account : Account) (index : Nat) : Decidable (account.Holds index) :=
  inferInstanceAs (Decidable (_ ∧ _))

/-- Whether a run has let others sweep again and is still to announce its
end. -/
def Lingers (account : Account) (index : Nat) : Prop :=
  Deed.cleared ∈ account.of index ∧ Deed.announced (.scannerRunning false) ∉ account.of index

instance (account : Account) (index : Nat) : Decidable (account.Lingers index) :=
  inferInstanceAs (Decidable (_ ∧ _))

/-- Some run announced its start while another one lingered. -/
def Overtaken (account : Account) : Prop :=
  ∃ before index after, account = before ++ (index, .announced (.scannerRunning true)) :: after
    ∧ ∃ other, Lingers before other

end Account

namespace Station

/-- What is done by a move. -/
def deeds (s : Station) : Move → Account
  | .run | .trigger => []
  | .step index lan =>
    match s.background[index]? with
    | some phase => (phase.deeds lan s.scanner).map (index, ·)
    | none => []
  | .answer index slot reachable =>
    match s.background[index]? with
    | some (.sweeping w) =>
      match w.probe? slot with
      | some (host, port) => [(index, .probed host port reachable)]
      | none => []
    | _ => []
  | .abandon index => [(index, .abandoned)]

/-- The account of a schedule. -/
def account (plan : Plan) (s : Station) : List Move → Account
  | [] => []
  | move :: rest =>
    match s.move? plan move with
    | some s' => s.deeds move ++ Station.account plan s' rest
    | none => []

end Station

end ReceiptPrinter.Scan
