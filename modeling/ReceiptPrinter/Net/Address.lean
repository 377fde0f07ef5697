/-
Addresses of the fourth version of the internet protocol.
-/
import ReceiptPrinter.Text.Basic

namespace ReceiptPrinter.Net

/-- An address: the octets of the network, and that of the host. -/
structure Address where
  a : UInt8
  b : UInt8
  c : UInt8
  host : UInt8
  deriving DecidableEq, Repr

namespace Address

/-- The octets in decimal with dots between them. -/
def text (x : Address) : String :=
  s!"{x.a.toNat}.{x.b.toNat}.{x.c.toNat}.{x.host.toNat}"

/-- The address whose octets make a number, the first one highest. -/
def ofNat (n : Nat) : Address :=
  ⟨(n >>> 24).toUInt8, (n >>> 16).toUInt8, (n >>> 8).toUInt8, n.toUInt8⟩

/-- The octet that a text gives in decimal, without leading zeros. -/
def octet? (text : List Char) : Option UInt8 := do
  guard (text.length == 1 || text.head? != some '0')
  guard (text.head? != some '+')
  return (← Text.natBelow? 256 text).toUInt8

/-- The address that a text gives. -/
def ofText? (text : String) : Option Address := do
  let [a, b, c, host] := Text.splitAt '.' text.toList | none
  return ⟨← octet? a, ← octet? b, ← octet? c, ← octet? host⟩

end Address

end ReceiptPrinter.Net
