/-
Text from bytes that may not be UTF-8.

Well-formed characters are kept. Whatever is not one becomes a replacement
character: one for every longest run of bytes that could have begun a
character, and one for every byte that could not.
-/
import ReceiptPrinter.Bytes

namespace ReceiptPrinter.Text

/-- Stands for bytes that are not text. -/
def replacement : Char := '\uFFFD'

/-- What the first byte of a longer character announces: how many bytes
follow, the bounds of the first of them, and the bits of its own. -/
structure Lead where
  following : Nat
  low : Nat
  high : Nat
  bits : Nat

/-- What a byte above ASCII announces. The bounds leave out overlong forms,
surrogates and what lies beyond the last plane. -/
def lead? (b : Nat) : Option Lead :=
  if 0xC2 ≤ b ∧ b ≤ 0xDF then some ⟨1, 0x80, 0xBF, b - 0xC0⟩
  else if b = 0xE0 then some ⟨2, 0xA0, 0xBF, 0⟩
  else if b = 0xED then some ⟨2, 0x80, 0x9F, 0xD⟩
  else if 0xE1 ≤ b ∧ b ≤ 0xEF then some ⟨2, 0x80, 0xBF, b - 0xE0⟩
  else if b = 0xF0 then some ⟨3, 0x90, 0xBF, 0⟩
  else if 0xF1 ≤ b ∧ b ≤ 0xF3 then some ⟨3, 0x80, 0xBF, b - 0xF0⟩
  else if b = 0xF4 then some ⟨3, 0x80, 0x8F, 4⟩
  else none

/-- Reads `following` more bytes, the first of them within bounds: the code
point if all are there, and how many bytes were taken. -/
def continueChar : Nat → Nat → Nat → Nat → Bytes → Option Nat × Nat
  | 0, _, _, bits, _ => (some bits, 0)
  | _ + 1, _, _, _, [] => (none, 0)
  | following + 1, low, high, bits, b :: rest =>
    if low ≤ b.toNat ∧ b.toNat ≤ high then
      let (point, taken) := continueChar following 0x80 0xBF (bits * 64 + (b.toNat - 0x80)) rest
      (point, taken + 1)
    else (none, 0)

/-- The text of a byte string, with replacements where it is none. -/
def lossy : Bytes → List Char
  | [] => []
  | b :: rest =>
    if b.toNat < 0x80 then Char.ofNat b.toNat :: lossy rest
    else
      match lead? b.toNat with
      | none => replacement :: lossy rest
      | some lead =>
        let read := continueChar lead.following lead.low lead.high lead.bits rest
        (match read.1 with
          | some point => Char.ofNat point
          | none => replacement) :: lossy (rest.drop read.2)
termination_by bytes => bytes.length
decreasing_by all_goals (simp only [List.length_cons, List.length_drop]; omega)

end ReceiptPrinter.Text
