/-
What text can make a printer do.

A printer takes an escape byte and the selector behind it for a command,
wherever it meets them. `Speaks` says that every escape byte in a byte
string has one of given selectors behind it, so that no other command is in
it; this holds of two strings in a row if it holds of each, because none of
them ends in the middle of a command. Text without escape bytes makes the
converter emit only commands that set the style; the cut and the buzzer
come from the trailer alone.
-/
import Mathlib.Data.List.Infix
import ReceiptPrinter.Proofs.Markup.Scan

namespace ReceiptPrinter

-- ============================================================ byte strings

namespace Bytes

/-- How often a row of bytes stands in a byte string. -/
def occurrences (row bytes : Bytes) : Nat := bytes.tails.countP row.isPrefixOf

/-- Behind every escape byte stands one of the selectors. -/
def Speaks (selectors : List UInt8) (bytes : Bytes) : Prop :=
  ∀ before after, bytes = before ++ Command.esc :: after →
    ∃ selector ∈ selectors, [selector] <+: after

variable {selectors : List UInt8} {a b : Bytes}

theorem occurrences_nil {x : UInt8} {row : Bytes} : occurrences (x :: row) [] = 0 := rfl

theorem occurrences_cons (row : Bytes) (x : UInt8) (bytes : Bytes) :
    occurrences row (x :: bytes)
      = (if row <+: x :: bytes then 1 else 0) + occurrences row bytes := by
  unfold occurrences
  rw [List.tails_cons, List.countP_cons, Nat.add_comm]
  simp only [List.isPrefixOf_iff_prefix]

namespace Speaks

theorem of_not_mem (h : Command.esc ∉ a) : Speaks selectors a := by
  intro before after heq
  have hmem : Command.esc ∈ a := by
    rw [heq]
    simp
  exact absurd hmem h

theorem cons_iff {x : UInt8} :
    Speaks selectors (x :: a)
      ↔ (x = Command.esc → ∃ selector ∈ selectors, [selector] <+: a) ∧ Speaks selectors a := by
  constructor
  · intro h
    refine ⟨fun hx => h [] a (by rw [hx]; rfl), fun before after heq => ?_⟩
    exact h (x :: before) after (by rw [heq]; rfl)
  · rintro ⟨hhere, htail⟩ before after heq
    cases before with
    | nil =>
      obtain ⟨rfl, rfl⟩ := List.cons.inj heq
      exact hhere rfl
    | cons y before =>
      obtain ⟨rfl, hrest⟩ := List.cons.inj heq
      exact htail before after hrest

instance decidable (selectors : List UInt8) :
    (bytes : Bytes) → Decidable (Speaks selectors bytes)
  | [] => isTrue (of_not_mem List.not_mem_nil)
  | _ :: rest =>
    have := decidable selectors rest
    decidable_of_iff _ cons_iff.symm

/-- An escape byte in two strings in a row is in one of them, and so is its
selector. -/
theorem append (ha : Speaks selectors a) (hb : Speaks selectors b) :
    Speaks selectors (a ++ b) := by
  intro before after heq
  rcases List.append_eq_append_iff.1 heq with ⟨more, rfl, hmore⟩ | ⟨more, rfl, hmore⟩
  · exact hb more after hmore
  · cases more with
    | nil => exact hb [] after hmore.symm
    | cons x more =>
      obtain ⟨rfl, rfl⟩ := List.cons.inj hmore
      obtain ⟨selector, hselector, hprefix⟩ := ha before more rfl
      exact ⟨selector, hselector, hprefix.trans (List.prefix_append more b)⟩

theorem occurrences_append (ha : Speaks selectors a) (x : UInt8) (b : Bytes) :
    occurrences [Command.esc, x] (a ++ b)
      = occurrences [Command.esc, x] a + occurrences [Command.esc, x] b := by
  induction a with
  | nil => rw [List.nil_append, occurrences_nil, Nat.zero_add]
  | cons y a ih =>
    -- an escape byte has its selector beside it, not in the other string
    have hhere : [Command.esc, x] <+: y :: (a ++ b) ↔ [Command.esc, x] <+: y :: a := by
      rw [List.cons_prefix_cons, List.cons_prefix_cons]
      refine and_congr_right fun hy => ?_
      subst hy
      obtain ⟨selector, -, rest, rfl⟩ := ha [] a rfl
      rw [List.append_assoc, List.singleton_append, List.singleton_append, List.cons_prefix_cons,
        List.cons_prefix_cons]
      simp
    rw [List.cons_append, occurrences_cons, occurrences_cons, ih (cons_iff.1 ha).2, Nat.add_assoc]
    simp only [hhere]

/-- A command with another selector does not occur. -/
theorem occurrences_eq_zero (h : Speaks selectors a) {x : UInt8} (hx : x ∉ selectors) :
    occurrences [Command.esc, x] a = 0 := by
  unfold occurrences
  apply List.countP_eq_zero.2
  intro tail htail
  rw [List.isPrefixOf_iff_prefix]
  rintro ⟨rest, rfl⟩
  obtain ⟨before, hbefore⟩ := (List.mem_tails _ _).1 htail
  obtain ⟨selector, hselector, hprefix⟩ := h before (x :: rest) hbefore.symm
  obtain ⟨rfl, -⟩ := List.cons_prefix_cons.1 hprefix
  exact hx hselector

end Speaks

end Bytes

namespace Markup

open Bytes (Speaks occurrences)

-- ======================================================= what is emitted

/-- The selectors of reset, line spacing, alignment and size. -/
def styleSelectors : List UInt8 := [0x40, 0x32, 0x61, 0x21]

/-- The selectors of cut and buzzer. -/
def trailerSelectors : List UInt8 := [0x69, 0x42]

theorem speaks_tag (tag : Tag) : Speaks styleSelectors tag.bytes := by
  have hall : ∀ tag ∈ Tag.all, Speaks styleSelectors tag.bytes := by decide
  exact hall tag tag.mem_all

/-- Tags, line feeds and letters emit nothing but styles. -/
theorem speaks_scan {text : List Char} (h : Command.esc ∉ utf8 text) :
    Speaks styleSelectors (scan text) := by
  -- position by position, as the text is read
  induction text using scan_induction with
  | nil =>
    rw [scan_nil]
    decide
  | tag tag after ih =>
    rw [utf8_append] at h
    rw [scan_tag]
    exact (speaks_tag tag).append (ih fun hmem => h (List.mem_append_right _ hmem))
  | newline rest ih =>
    rw [utf8_cons] at h
    rw [scan_newline]
    exact Speaks.append (by decide) (ih fun hmem => h (List.mem_append_right _ hmem))
  | char c rest hc halone ih =>
    rw [utf8_cons] at h
    rw [scan_char hc halone, utf8_cons, utf8_nil, List.append_nil]
    refine Speaks.append (Speaks.of_not_mem fun hmem => h (List.mem_append_left _ hmem)) ?_
    exact ih fun hmem => h (List.mem_append_right _ hmem)

theorem speaks_trailer (trailer : Trailer) : Speaks trailerSelectors trailer.bytes := by
  obtain ⟨beep, cut, tailingLine⟩ := trailer
  cases beep <;> cases cut <;> cases tailingLine <;> decide

/-- A trailer cuts at most once and sounds the buzzer at most once. -/
theorem occurrences_trailer (trailer : Trailer) :
    occurrences [0x1B, 0x69] trailer.bytes = (if trailer.cut then 1 else 0)
      ∧ occurrences [0x1B, 0x42] trailer.bytes = (if trailer.beep then 1 else 0) := by
  obtain ⟨beep, cut, tailingLine⟩ := trailer
  cases beep <;> cases cut <;> cases tailingLine <;> decide

/-- In front of the trailer there are styles only. -/
theorem speaks_front {text : List Char} (h : Command.esc ∉ utf8 text) :
    Speaks styleSelectors (preamble ++ body text) := by
  rw [body_eq_scan]
  exact Speaks.append (by decide) (speaks_scan h)

/-- Whatever sets no style occurs as often as in the trailer. -/
theorem occurrences_convert {text : List Char} (h : Command.esc ∉ utf8 text) {x : UInt8}
    (hx : x ∉ styleSelectors) (trailer : Trailer) :
    occurrences [Command.esc, x] (convert text trailer)
      = occurrences [Command.esc, x] trailer.bytes := by
  have hfront := speaks_front h
  show occurrences _ (preamble ++ body text ++ trailer.bytes) = _
  rw [hfront.occurrences_append, hfront.occurrences_eq_zero hx, Nat.zero_add]

-- ============================================================= the result

/-- Text without escape bytes can neither cut the paper nor sound the
buzzer.

Whatever tags, line feeds and letters it is made of, a receipt is cut once
if its trailer asks for that, and else not, and so for the buzzer. Every
escape byte that comes out begins a reset, a line spacing, an alignment or a
size; or it stands in the trailer and begins the cut or the buzzer. -/
theorem text_only_sets_style (text : List Char) (trailer : Trailer) (h : 0x1B ∉ utf8 text) :
    occurrences [0x1B, 0x69] (convert text trailer) = (if trailer.cut then 1 else 0)
      ∧ occurrences [0x1B, 0x42] (convert text trailer) = (if trailer.beep then 1 else 0)
      ∧ ∀ before after, convert text trailer = before ++ 0x1B :: after →
          (∃ selector ∈ [0x40, 0x32, 0x61, 0x21], [selector] <+: after)
            ∨ (preamble ++ body text).length ≤ before.length
              ∧ ∃ selector ∈ [0x69, 0x42], [selector] <+: after := by
  obtain ⟨hcuts, hbeeps⟩ := occurrences_trailer trailer
  refine ⟨?_, ?_, fun before after heq => ?_⟩
  · exact (occurrences_convert h (by decide) trailer).trans hcuts
  · exact (occurrences_convert h (by decide) trailer).trans hbeeps
  · -- the escape byte stands in front of the trailer or in it
    have hsplit : (preamble ++ body text) ++ trailer.bytes = before ++ 0x1B :: after := heq
    rcases List.append_eq_append_iff.1 hsplit with ⟨more, rfl, hmore⟩ | ⟨more, hmore, hafter⟩
    · exact .inr ⟨(List.prefix_append _ more).length_le, speaks_trailer trailer more after hmore⟩
    · cases more with
      | nil =>
        rw [List.append_nil] at hmore
        refine .inr ⟨?_, speaks_trailer trailer [] after hafter.symm⟩
        rw [hmore]
      | cons x more =>
        obtain ⟨rfl, rfl⟩ := List.cons.inj hafter
        obtain ⟨selector, hselector, hprefix⟩ := speaks_front h before more hmore
        exact .inl ⟨selector, hselector, hprefix.trans (List.prefix_append more trailer.bytes)⟩

/-- A bill whose text has the letters of both commands in it. -/
theorem bill_cuts_once :
    let text := "<CB>i</CB>\niB <R".toList
    0x1B ∉ utf8 text ∧ occurrences [0x1B, 0x69] (convert text .bill) = 1
      ∧ occurrences [0x1B, 0x42] (convert text .bill) = 1
      ∧ occurrences [0x1B, 0x69] (convert text .text) = 0 := by
  intro text
  have h : 0x1B ∉ utf8 text := by decide
  obtain ⟨hcuts, hbeeps, -⟩ := text_only_sets_style text .bill h
  exact ⟨h, hcuts, hbeeps, (text_only_sets_style text .text h).1⟩

end Markup

end ReceiptPrinter
