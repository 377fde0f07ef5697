/-
What is read in plain text: its parts, blanks, numbers, and tables.

Text is cut at marks and into lines. A character is blank if Unicode gives
it the property White_Space. This includes the no-break space and the line
and paragraph separators, but no zero-width character. A number in decimal
may carry one plus sign, and leading zeros do not count; whether it fits the
word that it is meant for is part of reading it. Tables of characters list
them in runs.
-/

namespace ReceiptPrinter.Text

-- ======================================================== marks and lines

/-- The parts between the marks, empty ones included; one more part than
there are marks. -/
def splitAt (mark : Char) : List Char → List (List Char)
  | [] => [[]]
  | c :: rest =>
    if c = mark then [] :: splitAt mark rest
    else
      match splitAt mark rest with
      | [] => [[c]]
      | part :: parts => (c :: part) :: parts

/-- The text before the first mark and the text after it. -/
def splitOnce? (mark : Char) : List Char → Option (List Char × List Char)
  | [] => none
  | c :: rest =>
    if c = mark then some ([], rest)
    else (splitOnce? mark rest).map fun (before, after) => (c :: before, after)

/-- What follows an expected beginning, be it of characters or of bytes. -/
def afterStart? {α : Type} [DecidableEq α] : List α → List α → Option (List α)
  | [], text => some text
  | _ :: _, [] => none
  | s :: start, c :: text => if s = c then afterStart? start text else none

theorem afterStart?_eq_some_iff {α : Type} [DecidableEq α] {start text after : List α} :
    afterStart? start text = some after ↔ text = start ++ after := by
  induction start generalizing text with
  | nil => simp [afterStart?]
  | cons s start ih =>
    cases text with
    | nil => simp [afterStart?]
    | cons c text =>
      by_cases h : s = c
      · simp [afterStart?, h, ih]
      · simp [afterStart?, h, Ne.symm h]

/-- A line without the carriage return at its end. -/
def dropReturn (line : List Char) : List Char :=
  match line.getLast? with
  | some '\r' => line.dropLast
  | _ => line

/-- The lines of a text. A line ends at a line feed, with or without a
carriage return before it; the last line needs no end and keeps a lone
carriage return, and there is no empty line after the last line feed. -/
def lines (text : List Char) : List (List Char) :=
  let parts := splitAt '\n' text
  let last := (parts.getLast?).getD []
  parts.dropLast.map dropReturn ++ (if last.isEmpty then [] else [last])

/-- The lines one after another, with or without the end of the last one. -/
def IsLines (rows : List (List Char)) (text : List Char) : Prop :=
  text = ['\n'].intercalate rows ∨ text = ['\n'].intercalate rows ++ ['\n']

/-- Whether `part` occurs somewhere in a text. -/
def contains (part : List Char) : List Char → Bool
  | [] => part.isEmpty
  | c :: rest => part.isPrefixOf (c :: rest) || contains part rest

-- ================================================================= blanks

/-- Whether a character is white space. -/
def isBlank (c : Char) : Bool :=
  let n := c.toNat
  (0x09 ≤ n && n ≤ 0x0D) || n == 0x20 || n == 0x85 || n == 0xA0 || n == 0x1680 ||
    (0x2000 ≤ n && n ≤ 0x200A) || n == 0x2028 || n == 0x2029 || n == 0x202F ||
    n == 0x205F || n == 0x3000

/-- The text without the blanks at its front. -/
def trimFront (text : List Char) : List Char := text.dropWhile isBlank

/-- The text without the blanks at its end. -/
def trimBack (text : List Char) : List Char := (trimFront text.reverse).reverse

/-- The text without the blanks at both ends. -/
def trim (text : List Char) : List Char := trimBack (trimFront text)

-- ======================================================== decimal numbers

/-- The value of a decimal digit. -/
def digit? (c : Char) : Option Nat :=
  if '0' ≤ c ∧ c ≤ '9' then some (c.toNat - 48) else none

/-- The value of a row of digits, at least one. -/
def digits? (text : List Char) : Option Nat :=
  if text.isEmpty then none
  else (text.mapM digit?).map (·.foldl (fun n d => n * 10 + d) 0)

/-- A number below `limit`, with an optional plus sign. -/
def natBelow? (limit : Nat) (text : List Char) : Option Nat :=
  let digits := match text with
    | '+' :: rest => rest
    | _ => text
  (digits? digits).filter (· < limit)

-- ================================================================= tables

/-- A run of characters, every `step`-th from `first` to `last`, whose images
lie at the same distances from `image`. -/
structure Run where
  first : Nat
  last : Nat
  step : Nat
  image : Nat

/-- The image of a character, if the run holds it. -/
def Run.image? (r : Run) (c : Nat) : Option Nat :=
  if r.first ≤ c ∧ c ≤ r.last ∧ (c - r.first) % r.step = 0 then some (r.image + (c - r.first))
  else none

/-- Whether a code point lies in one of the ranges. -/
def inRanges (ranges : List (Nat × Nat)) (n : Nat) : Bool :=
  ranges.any fun range => range.1 ≤ n && n ≤ range.2

end ReceiptPrinter.Text
