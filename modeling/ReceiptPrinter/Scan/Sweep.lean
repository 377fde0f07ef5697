/-
What a sweep of the local network finds.

A sweep looks at the 255 other hosts that share the first three octets of
its own address. On each host the ports are tried in order; the first one
that answers makes the host a device, and the ports after it are not tried.
-/
import ReceiptPrinter.Device.Identity
import ReceiptPrinter.Net.Address

namespace ReceiptPrinter.Scan

open Net (Address)

/-- Which port of which host answers. -/
abbrev Reach := Address → UInt16 → Bool

/-- The hosts of a sweep, in ascending order. -/
def hosts (own : Address) : List Address :=
  ((List.range 256).filter (· != own.host.toNat)).map fun n => { own with host := n.toUInt8 }

/-- The device on a host, by the first port that answers. -/
def device? (reach : Reach) (ports : List UInt16) (host : Address) : Option NetIdentity :=
  (ports.find? (reach host)).map fun port => ⟨host.text, port⟩

/-- The ports tried on a host: all up to the first one that answers. -/
def tried (reach : Reach) (ports : List UInt16) (host : Address) : List UInt16 :=
  ports.take (ports.findIdx (reach host) + 1)

/-- The devices that a sweep finds, in ascending order of their hosts. -/
def devices (reach : Reach) (ports : List UInt16) (own : Address) : List NetIdentity :=
  (hosts own).filterMap (device? reach ports)

end ReceiptPrinter.Scan
