/-
What trimming leaves.

Blanks that are put before or behind a text are trimmed away again, and nothing
else is; so it makes no difference how much of them there is, nor whether a
text was trimmed at its end before.
-/
import ReceiptPrinter.Text.Basic

namespace ReceiptPrinter.Text

variable {before text after : List Char}

/-- Nothing but blanks. -/
def Blank (text : List Char) : Prop := ∀ c ∈ text, isBlank c = true

theorem blank_return : Blank ['\r'] := List.forall_mem_singleton.mpr (by decide)

-- =============================================================== the front

theorem trimFront_append_eq (text more : List Char) :
    trimFront (text ++ more)
      = if trimFront text = [] then trimFront more else trimFront text ++ more := by
  unfold trimFront
  rw [List.dropWhile_append]
  simp only [List.isEmpty_iff]

theorem trimFront_of_blank (h : Blank text) : trimFront text = [] := by
  have hrest : trimFront (text ++ []) = trimFront [] := List.dropWhile_append_of_pos h
  rwa [List.append_nil] at hrest

theorem trimFront_append (hbefore : Blank before) (text : List Char) :
    trimFront (before ++ text) = trimFront text := by
  rw [trimFront_append_eq, if_pos (trimFront_of_blank hbefore)]

/-- Trimming at the front stops at what is no blank. -/
theorem trimFront_cons {c : Char} (h : isBlank c = false) (text : List Char) :
    trimFront (c :: text) = c :: text :=
  List.dropWhile_cons_of_neg (by simp [h])

-- ================================================================= the end

theorem trimBack_append_eq (text more : List Char) :
    trimBack (text ++ more)
      = if trimBack more = [] then trimBack text else text ++ trimBack more := by
  unfold trimBack
  rw [List.reverse_append, trimFront_append_eq]
  simp only [List.reverse_eq_nil_iff]
  split
  · rfl
  · rw [List.reverse_append, List.reverse_reverse]

theorem trimBack_of_blank (h : Blank text) : trimBack text = [] := by
  have hreverse : Blank text.reverse := fun c hc => h c (List.mem_reverse.mp hc)
  unfold trimBack
  rw [trimFront_of_blank hreverse, List.reverse_nil]

theorem trimBack_append (text : List Char) (hafter : Blank after) :
    trimBack (text ++ after) = trimBack text := by
  rw [trimBack_append_eq, if_pos (trimBack_of_blank hafter)]

/-- Trimming at the end stops at what is no blank. -/
theorem trimBack_append_cons {c : Char} (h : isBlank c = false) (text after : List Char) :
    trimBack (text ++ c :: after) = text ++ c :: trimBack after := by
  have hstop : trimBack [c] = [c] := by
    show (trimFront [c]).reverse = [c]
    rw [trimFront_cons h]
    rfl
  have hcons : trimBack (c :: after) = c :: trimBack after := by
    have hsplit := trimBack_append_eq [c] after
    rw [List.singleton_append, hstop] at hsplit
    rw [hsplit]
    split
    · next hafter => rw [hafter]
    · rfl
  rw [trimBack_append_eq, hcons, if_neg (List.cons_ne_nil _ _)]

/-- What is trimmed away at the end is blank. -/
theorem exists_trimBack (text : List Char) :
    ∃ after, Blank after ∧ text = trimBack text ++ after := by
  refine ⟨(text.reverse.takeWhile isBlank).reverse, fun c hc => ?_, ?_⟩
  · exact List.all_eq_true.mp List.all_takeWhile c (List.mem_reverse.mp hc)
  · unfold trimBack trimFront
    rw [← List.reverse_append, List.takeWhile_append_dropWhile, List.reverse_reverse]

-- =============================================================== both ends

/-- Blanks behind a text are trimmed away. -/
theorem trim_append (text : List Char) (hafter : Blank after) :
    trim (text ++ after) = trim text := by
  unfold trim
  rw [trimFront_append_eq]
  by_cases hblank : trimFront text = []
  · rw [if_pos hblank, hblank, trimFront_of_blank hafter]
  · rw [if_neg hblank, trimBack_append _ hafter]

/-- Where there are no blanks, nothing is trimmed away. -/
theorem trim_eq_self (h : ∀ c ∈ text, isBlank c = false) : trim text = text := by
  have hfront {row : List Char} (hrow : ∀ c ∈ row, isBlank c = false) : trimFront row = row := by
    cases row with
    | nil => rfl
    | cons c rest => exact trimFront_cons (hrow c List.mem_cons_self) rest
  have hreverse : ∀ c ∈ text.reverse, isBlank c = false := fun c hc => h c (List.mem_reverse.mp hc)
  unfold trim trimBack
  rw [hfront h, hfront hreverse, List.reverse_reverse]

theorem trim_trimBack (text : List Char) : trim (trimBack text) = trim text := by
  obtain ⟨after, hafter, htext⟩ := exists_trimBack text
  calc trim (trimBack text) = trim (trimBack text ++ after) := (trim_append _ hafter).symm
    _ = trim text := by rw [← htext]

end ReceiptPrinter.Text
