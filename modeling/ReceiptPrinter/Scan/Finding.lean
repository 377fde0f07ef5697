/-
What a sweep has to find, and what it may try.

Nothing here says how hosts are gone through. The devices are told by which
ports answer, and the ports tried on a host by what is known about it
beforehand.
-/
import ReceiptPrinter.Scan.Account

namespace ReceiptPrinter.Scan

open Net (Address)

/-- Another host of the same network. -/
def Neighbours (own host : Address) : Prop :=
  host.a = own.a ∧ host.b = own.b ∧ host.c = own.c ∧ host.host ≠ own.host

instance (own host : Address) : Decidable (Neighbours own host) :=
  inferInstanceAs (Decidable (_ ∧ _))

/-- A port of a host answers, and none before it does. -/
def FirstOpen (reach : Reach) (ports : List UInt16) (host : Address) (port : UInt16) : Prop :=
  ∃ before after, ports = before ++ port :: after ∧ reach host port = true
    ∧ ∀ earlier ∈ before, reach host earlier = false

/-- The devices are the other hosts of the network on which some port
answers, in ascending order, each with the first such port. -/
def Finds (reach : Reach) (ports : List UInt16) (own : Address) (found : List NetIdentity) :
    Prop :=
  ∃ devices : List (Address × UInt16),
    found = devices.map (fun (host, port) => ⟨host.text, port⟩)
      ∧ devices.Pairwise (fun first second => first.1.host < second.1.host)
      ∧ ∀ host port, (host, port) ∈ devices ↔ Neighbours own host ∧ FirstOpen reach ports host port

/-- The ports tried on a host before its first one that answers was found:
some of them in order, none of which answers. -/
def Tries (reach : Reach) (ports : List UInt16) (host : Address) (asked : List UInt16) : Prop :=
  ∃ later, ports = asked ++ later ∧ ∀ port ∈ asked, reach host port = false

/-- All ports that are to be tried on a host: up to the first one that
answers, or all if none does. -/
inductive Exhausts (reach : Reach) (ports : List UInt16) (host : Address) : List UInt16 → Prop where
  | found {before after : List UInt16} {port : UInt16} (h : ports = before ++ port :: after)
    (hport : reach host port = true) (hbefore : ∀ earlier ∈ before, reach host earlier = false) :
    Exhausts reach ports host (before ++ [port])
  | silent (h : ∀ port ∈ ports, reach host port = false) : Exhausts reach ports host ports

/-- The port of a host that a deed tries. -/
def Deed.port? (host : Address) : Deed → Option UInt16
  | probed other port _ => if other = host then some port else none
  | _ => none

/-- The ports of a host that have been tried, in order. -/
def asked (deeds : List Deed) (host : Address) : List UInt16 := deeds.filterMap (Deed.port? host)

/-- Whether probes were answered as the network is. -/
def Faithful (reach : Reach) (deeds : List Deed) : Prop :=
  ∀ host port reachable, Deed.probed host port reachable ∈ deeds → reachable = reach host port

end ReceiptPrinter.Scan
