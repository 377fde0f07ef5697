/-
From receipt markup to printer commands.

The converter runs to the next `<` or line feed and copies what it skips.
A line feed also resets alignment, size and spacing, so that no style
leaks into the next line. At a `<` it looks ahead to the next `>`, however
far away: if a tag's name stands between the two, the tag's commands are
emitted and reading resumes after it; if not, the `<` is printed and
reading resumes right behind it.

A trailer may follow: a feed of five lines, a cut, and the buzzer.
-/
import ReceiptPrinter.Markup.Tag

namespace ReceiptPrinter.Markup

-- ================================================================= body

/-- What a line feed emits: the feed, then the reset of every style. -/
def lineBreak : Bytes :=
  Command.lf :: (Align.left.bytes ++ [Command.gs, 0x21, 0] ++ Command.defaultLineSpacing)

/-- Whether a character is copied without a second look. -/
def isPlain (c : Char) : Bool := c != '<' && c != '\n'

/-- The tag that a text behind a `<` begins with, and the text behind it:
what stands before the next `>` must be a tag's name. -/
def tagAfterBracket? (text : List Char) : Option (Tag × List Char) :=
  match text.dropWhile (· != '>') with
  | '>' :: rest => (Tag.ofName? (text.takeWhile (· != '>'))).map fun tag => (tag, rest)
  | _ => none

theorem length_dropWhile_le {α : Type} (p : α → Bool) (l : List α) :
    (l.dropWhile p).length ≤ l.length :=
  (List.dropWhile_sublist p).length_le

theorem length_of_tagAfterBracket? {text rest : List Char} {tag : Tag}
    (h : tagAfterBracket? text = some (tag, rest)) : rest.length < text.length := by
  unfold tagAfterBracket? at h
  have hle := length_dropWhile_le (· != '>') text
  split at h
  · next r hr =>
    rw [hr] at hle
    simp only [Option.map_eq_some_iff, Prod.mk.injEq] at h
    obtain ⟨_, _, _, rfl⟩ := h
    simp only [List.length_cons] at hle
    omega
  · simp at h

/-- The commands of a text, without preamble and trailer. -/
def body (text : List Char) : Bytes :=
  match _h : text.dropWhile isPlain with
  | [] => utf8 text
  | c :: rest =>
    utf8 (text.takeWhile isPlain) ++
      if c = '\n' then lineBreak ++ body rest
      else
        match _ht : tagAfterBracket? rest with
        | some (tag, after) => tag.bytes ++ body after
        | none => utf8 ['<'] ++ body rest
termination_by text.length
decreasing_by
  all_goals
    have hle := length_dropWhile_le isPlain text
    rw [_h] at hle
    simp only [List.length_cons] at hle
    try have := length_of_tagAfterBracket? _ht
    omega

-- ============================================================== trailer

/-- What follows the text of a receipt. -/
structure Trailer where
  beep : Bool
  cut : Bool
  tailingLine : Bool
  deriving DecidableEq, Repr

/-- The lines fed before a cut. -/
def tailingLines : Nat := 5

namespace Trailer

/-- Plain text has no trailer. -/
def text : Trailer := ⟨false, false, false⟩

/-- A bill is fed, cut and announced. -/
def bill : Trailer := ⟨true, true, true⟩

/-- The commands of a trailer: feed, cut, beep. -/
def bytes (t : Trailer) : Bytes :=
  (if t.tailingLine then Command.feedLines tailingLines else []) ++
    (if t.cut then Command.cut else []) ++
    (if t.beep then Command.beep 3 2 else [])

end Trailer

-- ============================================================ documents

/-- What every receipt starts with: a reset and the default spacing. -/
def preamble : Bytes := Command.reset ++ Command.defaultLineSpacing

/-- The commands that print a text. -/
def convert (text : List Char) (trailer : Trailer) : Bytes :=
  preamble ++ body text ++ trailer.bytes

end ReceiptPrinter.Markup
