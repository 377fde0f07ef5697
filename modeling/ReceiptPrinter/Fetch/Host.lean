/-
Hosts of web addresses.

A host is given by name or by number, and it may be escaped. In normal form
a name is in ASCII and in lower case, and a number is an address of four
bytes in decimal or one of sixteen bytes in brackets.
-/
import ReceiptPrinter.Fetch.Host.Name
import ReceiptPrinter.Fetch.Host.Wide
import ReceiptPrinter.Text.Lossy

namespace ReceiptPrinter.Fetch.Host

/-- Bytes with the escaped ones restored. A percent sign without two hex
digits behind it stays. -/
def unescape : Bytes → Bytes
  | [] => []
  | 0x25 :: high :: low :: rest =>
    match hexValue? (Char.ofNat high.toNat), hexValue? (Char.ofNat low.toNat) with
    | some h, some l => (16 * h + l).toUInt8 :: unescape rest
    | _, _ => 0x25 :: unescape (high :: low :: rest)
  | b :: rest => b :: unescape rest
termination_by bytes => bytes.length

/-- A host in normal form. -/
def normal? (text : List Char) : Option (List Char) :=
  match text with
  | '[' :: rest =>
    if rest.getLast? = some ']' then
      (wide? rest.dropLast).map fun numbers => '[' :: wideText numbers ++ [']']
    else none
  | text => do
    let name ← ascii? (Text.lossy (unescape (utf8 text)))
    guard (!name.isEmpty)
    if endsInNumber name then return (← numeric? name).text.toList else return name

/-- Whether a host can be put into a request. -/
def isSendable (host : List Char) : Bool :=
  !host.any fun c => ['"', '\x60', '\x7B', '\x7D'].contains c

end ReceiptPrinter.Fetch.Host
