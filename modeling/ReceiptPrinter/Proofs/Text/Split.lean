/-
Cutting text apart and joining it again.

The parts between marks, joined with the mark, are the text again; and parts
that do not hold the mark are found again after joining. Both are the
library's own facts on `splitOn`, which `splitAt` agrees with. A text is cut at
its first mark in one way, and at its last one.

A reader of lines reads the same off the lines of a text as off what stands
between its line feeds, if it sees nothing on an empty line and takes no notice
of a carriage return at the end of a line. What was written line by line is then
read back line by line.
-/
import ReceiptPrinter.Text.Basic

namespace ReceiptPrinter.Text

-- ============================================================== the parts

theorem splitAt_eq_splitOn (mark : Char) (text : List Char) :
    splitAt mark text = text.splitOn mark := by
  induction text with
  | nil => rfl
  | cons c rest ih =>
    rw [List.splitOn_cons_eq_if_modifyHead]
    unfold splitAt
    by_cases hmark : c = mark
    · simp [hmark, ih]
    · have hparts : rest.splitOn mark ≠ [] := List.splitOn_ne_nil mark rest
      simp only [beq_iff_eq, hmark, if_false, ih]
      cases h : rest.splitOn mark with
      | nil => exact absurd h hparts
      | cons part parts => rfl

theorem splitAt_ne_nil (mark : Char) (text : List Char) : splitAt mark text ≠ [] := by
  rw [splitAt_eq_splitOn]
  exact List.splitOn_ne_nil mark text

theorem intercalate_splitAt (mark : Char) (text : List Char) :
    [mark].intercalate (splitAt mark text) = text := by
  rw [splitAt_eq_splitOn]
  exact List.intercalate_splitOn mark

theorem splitAt_intercalate {mark : Char} {parts : List (List Char)}
    (hmark : ∀ part ∈ parts, mark ∉ part) (hparts : parts ≠ []) :
    splitAt mark ([mark].intercalate parts) = parts := by
  rw [splitAt_eq_splitOn]
  exact List.splitOn_intercalate mark hmark hparts

theorem mem_intercalate {c mark : Char} {parts : List (List Char)}
    (h : c ∈ [mark].intercalate parts) : c = mark ∨ ∃ part ∈ parts, c ∈ part := by
  induction parts with
  | nil => cases h
  | cons part rest ih =>
    cases rest with
    | nil => exact .inr ⟨part, List.mem_singleton_self _, by simpa using h⟩
    | cons next rest =>
      rw [List.intercalate_cons_cons, List.append_assoc, List.mem_append] at h
      rcases h with hpart | h
      · exact .inr ⟨part, List.mem_cons_self, hpart⟩
      · rcases List.mem_cons.mp h with hmark | hrest
        · exact .inl hmark
        · refine (ih hrest).imp_right fun hmem => ?_
          obtain ⟨other, hother, hc⟩ := hmem
          exact ⟨other, List.mem_cons_of_mem _ hother, hc⟩

/-- A mark at the end of a text leaves an empty part behind it. -/
theorem splitAt_concat_mark (mark : Char) (text : List Char) :
    splitAt mark (text ++ [mark]) = splitAt mark text ++ [[]] := by
  rw [splitAt_eq_splitOn, splitAt_eq_splitOn, List.splitOn_append_cons_self]
  rfl

/-- The first part ends at the first mark. -/
theorem head?_splitAt (mark : Char) (text : List Char) :
    (splitAt mark text).head? = some (text.takeWhile (· ≠ mark)) := by
  induction text with
  | nil => rfl
  | cons c rest ih =>
    unfold splitAt
    by_cases hmark : c = mark
    · simp [hmark]
    · cases hparts : splitAt mark rest with
      | nil => exact absurd hparts (splitAt_ne_nil mark rest)
      | cons part parts =>
        rw [hparts, List.head?_cons, Option.some_inj] at ih
        simp [hmark, ih]

/-- There is one part more than there are marks. -/
theorem length_splitAt (mark : Char) (text : List Char) :
    (splitAt mark text).length = text.count mark + 1 := by
  induction text with
  | nil => rfl
  | cons c rest ih =>
    unfold splitAt
    by_cases hmark : c = mark
    · rw [if_pos hmark, hmark, List.count_cons_self, List.length_cons, ih]
    · rw [if_neg hmark, List.count_cons_of_ne hmark, ← ih]
      cases hparts : splitAt mark rest with
      | nil => exact absurd hparts (splitAt_ne_nil mark rest)
      | cons part parts => rfl

/-- To change characters, and neither make nor unmake a mark, is to change
those of the parts. -/
theorem splitAt_map {f : Char → Char} {mark : Char} {text : List Char}
    (h : ∀ c ∈ text, f c = mark ↔ c = mark) :
    splitAt mark (text.map f) = (splitAt mark text).map (List.map f) := by
  induction text with
  | nil => rfl
  | cons c rest ih =>
    have hrest := ih fun d hd => h d (List.mem_cons_of_mem c hd)
    have hfirst := h c List.mem_cons_self
    rw [List.map_cons]
    unfold splitAt
    by_cases hmark : c = mark
    · rw [if_pos hmark, if_pos (hfirst.mpr hmark), hrest]
      rfl
    · rw [if_neg hmark, if_neg (mt hfirst.mp hmark), hrest]
      cases splitAt mark rest <;> rfl

/-- The length of parts of equal length with a mark between any two. -/
theorem length_intercalate (mark : Char) {parts : List (List Char)} {size : Nat}
    (hsize : ∀ part ∈ parts, part.length = size) (hparts : parts ≠ []) :
    ([mark].intercalate parts).length + 1 = parts.length * (size + 1) := by
  induction parts with
  | nil => exact absurd rfl hparts
  | cons part rest ih =>
    have hpart : part.length = size := hsize part List.mem_cons_self
    cases rest with
    | nil => simp [hpart]
    | cons next rest =>
      have hrest := ih (fun other h => hsize other (List.mem_cons_of_mem _ h)) (List.cons_ne_nil _ _)
      rw [List.intercalate_cons_cons, List.length_append, List.length_append, hpart,
        List.length_cons (a := part), Nat.succ_mul, ← hrest, List.length_singleton]
      omega

-- =========================================================== the first mark

/-- A text is cut at its first mark. -/
theorem splitOnce?_eq_some_iff {mark : Char} {text before after : List Char} :
    splitOnce? mark text = some (before, after)
      ↔ mark ∉ before ∧ text = before ++ mark :: after := by
  induction text generalizing before with
  | nil => simp [splitOnce?]
  | cons c rest ih =>
    unfold splitOnce?
    by_cases hmark : c = mark
    · cases before with
      | nil => simp [hmark]
      | cons b before =>
        simp only [hmark, if_true, Option.some.injEq, Prod.mk.injEq, reduceCtorEq, false_and,
          List.cons_append, List.cons.injEq, false_iff, not_and]
        intro hbefore hfirst
        exact absurd (hfirst ▸ List.mem_cons_self) hbefore
    · cases before with
      | nil => simp [hmark]
      | cons b before =>
        simp only [if_neg hmark, Option.map_eq_some_iff, Prod.exists, Prod.mk.injEq,
          List.cons.injEq, List.cons_append, List.mem_cons, not_or]
        constructor
        · intro h
          obtain ⟨first, rest', hsplit, ⟨rfl, rfl⟩, rfl⟩ := h
          obtain ⟨hfirst, hrest⟩ := ih.mp hsplit
          exact ⟨⟨Ne.symm hmark, hfirst⟩, rfl, hrest⟩
        · intro h
          obtain ⟨⟨-, hbefore⟩, rfl, hrest⟩ := h
          exact ⟨before, after, ih.mpr ⟨hbefore, hrest⟩, ⟨rfl, rfl⟩, rfl⟩

theorem splitOnce?_eq_none_iff {mark : Char} {text : List Char} :
    splitOnce? mark text = none ↔ mark ∉ text := by
  induction text with
  | nil => simp [splitOnce?]
  | cons c rest ih =>
    unfold splitOnce?
    by_cases hmark : c = mark
    · simp [hmark]
    · simp [hmark, ih, Ne.symm hmark]

/-- A row of characters without the mark lies on one side of it. -/
theorem infix_of_infix_append_cons {mark : Char} {row before after : List Char} (hmark : mark ∉ row)
    (h : row <:+: before ++ mark :: after) : row <:+: before ∨ row <:+: after := by
  obtain ⟨start, stop, h⟩ := h
  rcases List.append_eq_append_iff.mp h with ⟨gap, rfl, -⟩ | ⟨gap, hfront, hgap⟩
  · exact .inl ⟨start, gap, rfl⟩
  · cases gap with
    | nil => exact .inl ⟨start, [], hfront.trans (List.append_nil _) ▸ List.append_nil _⟩
    | cons c gap =>
      obtain ⟨rfl, rfl⟩ := List.cons.inj hgap
      rcases List.append_eq_append_iff.mp hfront with ⟨lead, -, hrow⟩ | ⟨lead, -, hrow⟩
      · rw [hrow] at hmark
        simp at hmark
      · cases lead with
        | nil =>
          rw [List.nil_append] at hrow
          simp [← hrow] at hmark
        | cons d lead =>
          obtain ⟨-, rfl⟩ := List.cons.inj hrow
          exact .inr ⟨lead, stop, rfl⟩

/-- A text is cut at its first mark in one way. -/
theorem eq_of_first_mark {mark : Char} {before after before' after' : List Char}
    (hbefore : mark ∉ before) (hbefore' : mark ∉ before')
    (h : before ++ mark :: after = before' ++ mark :: after') :
    before = before' ∧ after = after' := by
  have hcut : splitOnce? mark (before ++ mark :: after) = some (before, after) :=
    splitOnce?_eq_some_iff.mpr ⟨hbefore, rfl⟩
  have hcut' : splitOnce? mark (before ++ mark :: after) = some (before', after') :=
    splitOnce?_eq_some_iff.mpr ⟨hbefore', h⟩
  exact Prod.mk.inj (Option.some.inj (hcut.symm.trans hcut'))

/-- A text is cut at its last mark in one way. -/
theorem eq_of_last_mark {mark : Char} {before after before' after' : List Char}
    (hafter : mark ∉ after) (hafter' : mark ∉ after')
    (h : before ++ mark :: after = before' ++ mark :: after') : before = before' ∧ after = after' := by
  have hreverse : after.reverse ++ mark :: before.reverse
      = after'.reverse ++ mark :: before'.reverse := by
    simpa using congrArg List.reverse h
  obtain ⟨hback, hfront⟩ :=
    eq_of_first_mark (by simpa using hafter) (by simpa using hafter') hreverse
  exact ⟨List.reverse_inj.mp hfront, List.reverse_inj.mp hback⟩

-- ================================================================ the search

theorem contains_iff {part text : List Char} : contains part text = true ↔ part <:+: text := by
  induction text with
  | nil =>
    unfold contains
    rw [List.isEmpty_iff, List.infix_nil]
  | cons c rest ih =>
    unfold contains
    rw [Bool.or_eq_true, List.isPrefixOf_iff_prefix, ih, List.infix_cons_iff]

-- ================================================================ the lines

/-- A line is what its carriage return was dropped from, with the return or
without it. -/
theorem dropReturn_cases (line : List Char) :
    dropReturn line = line ∨ line = dropReturn line ++ ['\r'] := by
  unfold dropReturn
  split
  · next hlast =>
    obtain ⟨rest, rfl⟩ := List.getLast?_eq_some_iff.mp hlast
    refine .inr ?_
    rw [List.dropLast_concat]
  · exact .inl rfl

variable {β : Type} {f : List Char → Option β}

/-- A reader that sees nothing on an empty line, and to whom it makes no
difference whether a line ends with a carriage return. -/
structure LineReader (f : List Char → Option β) : Prop where
  empty : f [] = none
  concat_return : ∀ line, f (line ++ ['\r']) = f line

namespace LineReader

theorem dropReturn (h : LineReader f) (line : List Char) : f (dropReturn line) = f line := by
  rcases dropReturn_cases line with hsame | hreturn
  · rw [hsame]
  · have hread := h.concat_return (Text.dropReturn line)
    rw [← hreturn] at hread
    exact hread.symm

/-- The lines of a text are read like the parts between its line feeds. -/
theorem filterMap_lines (h : LineReader f) (text : List Char) :
    (lines text).filterMap f = (splitAt '\n' text).filterMap f := by
  have hsame : f ∘ Text.dropReturn = f := funext h.dropReturn
  rcases List.eq_nil_or_concat (splitAt '\n' text) with hnil | ⟨parts, last, hsplit⟩
  · exact absurd hnil (splitAt_ne_nil '\n' text)
  · have hlast : (if last.isEmpty then [] else [last]).filterMap f = [last].filterMap f := by
      cases last with
      | nil => simp [h.empty]
      | cons c rest => rfl
    unfold lines
    rw [hsplit]
    simp only [List.concat_eq_append, List.dropLast_concat, List.getLast?_concat, Option.getD_some,
      List.filterMap_append, List.filterMap_map, hsame, hlast]

/-- What was written line by line is read line by line. -/
theorem read (h : LineReader f) {rows : List (List Char)} {text : List Char}
    (hrows : ∀ row ∈ rows, '\n' ∉ row) (htext : IsLines rows text) :
    (lines text).filterMap f = rows.filterMap f := by
  have hsplit : (splitAt '\n' (['\n'].intercalate rows)).filterMap f = rows.filterMap f := by
    cases rows with
    | nil => simp [splitAt, h.empty]
    | cons row rest => rw [splitAt_intercalate hrows (List.cons_ne_nil row rest)]
  rw [h.filterMap_lines]
  rcases htext with rfl | rfl
  · exact hsplit
  · rw [splitAt_concat_mark, List.filterMap_append, hsplit]
    simp [h.empty]

end LineReader

end ReceiptPrinter.Text
