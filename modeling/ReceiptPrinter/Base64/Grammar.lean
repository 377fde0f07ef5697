/-
What is base64, and what it stands for.

Three bytes become four signs. One or two bytes left over become two or
three signs, which padding may fill up to four. A byte string may be written
with its padding or without, and what is written may be spread out with
blanks. `Reads` tells which rows of signs are base64 by the numbers that
groups of signs make, and not by the way in which they are decoded: four
signs are a number of 24 bits, and so are three bytes. Bits that are left
over at the end are of no account.
-/
import ReceiptPrinter.Base64

namespace ReceiptPrinter.Base64

-- ================================================================ writing

/-- The sign of a value below 64. -/
def sign (value : Nat) : UInt8 :=
  if value < 26 then (value + 0x41).toUInt8
  else if value < 52 then (value - 26 + 0x61).toUInt8
  else if value < 62 then (value - 52 + 0x30).toUInt8
  else if value = 62 then 0x2B
  else 0x2F

/-- The signs of a byte string, without padding. -/
def signs : Bytes → Bytes
  | a :: b :: c :: rest =>
    sign (a.toNat / 4) :: sign (a.toNat % 4 * 16 + b.toNat / 16) ::
      sign (b.toNat % 16 * 4 + c.toNat / 64) :: sign (c.toNat % 64) :: signs rest
  | [a, b] =>
    [sign (a.toNat / 4), sign (a.toNat % 4 * 16 + b.toNat / 16), sign (b.toNat % 16 * 4)]
  | [a] => [sign (a.toNat / 4), sign (a.toNat % 4 * 16)]
  | [] => []

/-- The padding of a byte string of the given length. -/
def paddingFor (length : Nat) : Bytes := List.replicate ((3 - length % 3) % 3) padding

-- ================================================================ reading

/-- The forms in which a byte string is written: with all of its padding,
with some of it, or without. -/
def IsForm (content form : Bytes) : Prop :=
  ∃ kept, form = signs content ++ (paddingFor content.length).take kept

/-- A text that consists of the given signs in order, with blanks before,
between and after them. -/
inductive Spread : Bytes → Bytes → Prop where
  | nil : Spread [] []
  | sign {b : UInt8} {form text : Bytes} (h : Spread form text) : Spread (b :: form) (b :: text)
  | blank {b : UInt8} {form text : Bytes} (hblank : isBlank b = true) (h : Spread form text) :
    Spread form (b :: text)

/-- The signs of a text, without its blanks. -/
def compact (text : List Char) : Bytes := (utf8 text).filter fun b => !isBlank b

/-- A sign stands for a value. -/
def StandsFor (b : UInt8) (value : Nat) : Prop := value < 64 ∧ b = sign value

/-- What a row of signs stands for: groups of four signs are three bytes
each; at the end there may be two or three signs more, padded or not, which
are one byte or two. -/
inductive Reads : Bytes → Bytes → Prop where
  | nil : Reads [] []
  | group {a b c d x y z : UInt8} {t u v w : Nat} {form content : Bytes}
    (ha : StandsFor a t) (hb : StandsFor b u) (hc : StandsFor c v) (hd : StandsFor d w)
    (hbits : ((t * 64 + u) * 64 + v) * 64 + w = (x.toNat * 256 + y.toNat) * 256 + z.toNat)
    (hrest : Reads form content) : Reads (a :: b :: c :: d :: form) (x :: y :: z :: content)
  | two {a b c x y : UInt8} {t u v pads : Nat} (ha : StandsFor a t) (hb : StandsFor b u)
    (hc : StandsFor c v) (hpads : pads ≤ 1)
    (hbits : ((t * 64 + u) * 64 + v) / 4 = x.toNat * 256 + y.toNat) :
    Reads (a :: b :: c :: List.replicate pads padding) [x, y]
  | one {a b x : UInt8} {t u pads : Nat} (ha : StandsFor a t) (hb : StandsFor b u)
    (hpads : pads ≤ 2) (hbits : (t * 64 + u) / 16 = x.toNat) :
    Reads (a :: b :: List.replicate pads padding) [x]

end ReceiptPrinter.Base64
