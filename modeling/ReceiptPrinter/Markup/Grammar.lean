/-
What a receipt text means, read from left to right.

At every position there is a tag, a line feed or some other character. A
tag counts only if it stands there as a whole; nothing but the text right
at the position decides.
-/
import Mathlib.Data.Nat.Init
import ReceiptPrinter.Markup.Convert
import ReceiptPrinter.Text.Basic

namespace ReceiptPrinter.Markup

/-- The tag with which a text begins, and the text behind it. -/
def tagAtStart? (text : List Char) : Option (Tag × List Char) :=
  Tag.all.findSome? fun tag => (Text.afterStart? tag.written text).map fun after => (tag, after)

theorem length_of_tagAtStart? {text after : List Char} {tag : Tag}
    (h : tagAtStart? text = some (tag, after)) : after.length < text.length := by
  obtain ⟨t, _, ht⟩ := List.exists_of_findSome?_eq_some h
  simp only [Option.map_eq_some_iff, Prod.mk.injEq] at ht
  obtain ⟨_, hr, _, rfl⟩ := ht
  rw [Text.afterStart?_eq_some_iff.1 hr]
  simp only [Tag.written, List.cons_append, List.length_cons, List.length_append]
  omega

/-- The commands of a text, position by position. -/
def scan (text : List Char) : Bytes :=
  match _h : tagAtStart? text with
  | some (tag, after) => tag.bytes ++ scan after
  | none =>
    match text with
    | [] => []
    | '\n' :: rest => lineBreak ++ scan rest
    | c :: rest => utf8 [c] ++ scan rest
termination_by text.length
decreasing_by
  · exact length_of_tagAtStart? _h
  · simp
  · simp

end ReceiptPrinter.Markup
