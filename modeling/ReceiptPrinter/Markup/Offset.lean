/-
The converter at work on UTF-8.

Where a text is kept in UTF-8, the converter looks for places by their
offsets and takes the text apart there. A place at which the text cannot be
cut would be the end of it: `bodyAt?` and `convertAt?` have no result then.
-/
import ReceiptPrinter.Markup.Convert
import ReceiptPrinter.Text.Offset

namespace ReceiptPrinter.Markup

/-- How many bytes the converter skips where it stops, and what it emits for
them: a line feed, a tag up to its `>`, or nothing but the `<`. -/
def skipAt? : List Char → Option (Nat × Bytes)
  | '\n' :: _ => some (1, lineBreak)
  | text =>
    match Text.offset? (· == '>') text with
    | none => some (1, utf8 ['<'])
    | some stop =>
      (Text.slice? 1 stop text).map fun name =>
        match Tag.ofName? name with
        | some tag => (stop + 1, tag.bytes)
        | none => (1, utf8 ['<'])

theorem skipAt?_pos {text : List Char} {skip : Nat} {bytes : Bytes}
    (h : skipAt? text = some (skip, bytes)) : 0 < skip := by
  unfold skipAt? at h
  split at h
  · cases h
    exact Nat.one_pos
  · split at h
    · cases h
      exact Nat.one_pos
    · obtain ⟨name, -, hname⟩ := Option.map_eq_some_iff.1 h
      split at hname
      · cases hname
        exact Nat.succ_pos _
      · cases hname
        exact Nat.one_pos

/-- What the converter emits up to a place where it stops, with what belongs
there, and the text behind it. -/
def strideAt? (stop : Nat) (text : List Char) : Option (Bytes × List Char) :=
  (Text.cutAt? stop text).bind fun (before, rest) =>
    (skipAt? rest).bind fun (skip, bytes) =>
      (Text.cutAt? skip rest).map fun (_, behind) => (utf8 before ++ bytes, behind)

theorem length_of_strideAt? {stop : Nat} {text behind : List Char} {bytes : Bytes}
    (h : strideAt? stop text = some (bytes, behind)) : behind.length < text.length := by
  simp only [strideAt?, Option.bind_eq_some_iff, Option.map_eq_some_iff, Prod.mk.injEq] at h
  obtain ⟨⟨before, rest⟩, htext, ⟨skip, _⟩, hskip, ⟨skipped, _⟩, hrest, -, rfl⟩ := h
  have hlength := congrArg List.length (Text.eq_append_of_cutAt? htext).1
  have hbehind := Text.length_of_cutAt? hrest (skipAt?_pos hskip)
  rw [List.length_append] at hlength
  dsimp only at hbehind ⊢
  omega

/-- The commands of a text, if it can be cut wherever the converter cuts
it. -/
def bodyAt? (text : List Char) : Option Bytes :=
  match Text.offset? (fun c => !isPlain c) text with
  | none => some (utf8 text)
  | some stop =>
    match _h : strideAt? stop text with
    | none => none
    | some (bytes, behind) => (bodyAt? behind).map (bytes ++ ·)
termination_by text.length
decreasing_by exact length_of_strideAt? _h

/-- The commands that print a text, if it can be cut wherever the converter
cuts it. -/
def convertAt? (text : List Char) (trailer : Trailer) : Option Bytes :=
  (bodyAt? text).map (preamble ++ · ++ trailer.bytes)

end ReceiptPrinter.Markup
