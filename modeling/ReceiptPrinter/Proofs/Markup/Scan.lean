/-
The converter reads from left to right.

`body` runs ahead to the next `<` or line feed, and from a `<` to the next
`>`, however far away; `scan` never looks further than the tag that may
begin where it stands. Both recognise a tag in the same way, because no name
of a tag has a `>` in it: `tagAfterBracket?_eq_some_iff` and
`tagAtStart?_eq_some_iff` say so. From there on `body` obeys the equations
that define `scan`, and the converter that counts bytes obeys those of
`body`.
-/
import ReceiptPrinter.Markup.Grammar
import ReceiptPrinter.Markup.Offset

namespace ReceiptPrinter.Markup

-- ================================================================= tags

namespace Tag

theorem mem_all (tag : Tag) : tag ∈ Tag.all := by
  rcases tag with (_ | _ | _) | (_ | _ | _) <;> rename_i x <;> cases x <;> decide

/-- Tags differ in their names. -/
theorem ofName?_eq_some_iff {name : List Char} {tag : Tag} :
    ofName? name = some tag ↔ tag.name = name := by
  constructor
  · intro h
    have hname := List.find?_some h
    exact eq_of_beq hname
  · rintro rfl
    have hnames : ∀ tag ∈ Tag.all, ofName? tag.name = some tag := by decide
    exact hnames tag tag.mem_all

/-- No name has the bracket in it that ends a tag. -/
theorem not_close_mem_name (tag : Tag) : '>' ∉ tag.name := by
  have hnames : ∀ tag ∈ Tag.all, '>' ∉ tag.name := by decide
  exact hnames tag tag.mem_all

end Tag

/-- Behind a `<`, what is read as a tag is the rest of a tag as it is
written. -/
theorem tagAfterBracket?_eq_some_iff {text after : List Char} {tag : Tag} :
    tagAfterBracket? text = some (tag, after) ↔ text = tag.name ++ '>' :: after := by
  constructor
  · intro h
    unfold tagAfterBracket? at h
    split at h
    · next rest hrest =>
      simp only [Option.map_eq_some_iff, Prod.mk.injEq] at h
      obtain ⟨_, htag, rfl, rfl⟩ := h
      rw [Tag.ofName?_eq_some_iff.1 htag, ← hrest, List.takeWhile_append_dropWhile]
    · cases h
  · rintro rfl
    have hname : ∀ c ∈ tag.name, (c != '>') = true := by
      intro c hc
      exact bne_iff_ne.2 fun heq => tag.not_close_mem_name (heq ▸ hc)
    have hdrop : (tag.name ++ '>' :: after).dropWhile (· != '>') = '>' :: after := by
      rw [List.dropWhile_append_of_pos hname]
      rfl
    have htake : (tag.name ++ '>' :: after).takeWhile (· != '>') = tag.name := by
      rw [List.takeWhile_append_of_pos hname]
      exact List.append_nil _
    unfold tagAfterBracket?
    rw [hdrop, htake, Tag.ofName?_eq_some_iff.2 rfl]
    rfl

theorem written_append (tag : Tag) (after : List Char) :
    tag.written ++ after = '<' :: (tag.name ++ '>' :: after) := by
  simp [Tag.written]

/-- A tag at the start of a text is found, and only one that is there. -/
theorem tagAtStart?_eq_some_iff {text after : List Char} {tag : Tag} :
    tagAtStart? text = some (tag, after) ↔ text = tag.written ++ after := by
  have hsound : ∀ {tag after}, tagAtStart? text = some (tag, after) →
      text = tag.written ++ after := by
    intro tag after h
    obtain ⟨t, -, ht⟩ := List.exists_of_findSome?_eq_some h
    simp only [Option.map_eq_some_iff, Prod.mk.injEq] at ht
    obtain ⟨_, hstart, rfl, rfl⟩ := ht
    exact Text.afterStart?_eq_some_iff.1 hstart
  refine ⟨hsound, fun h => ?_⟩
  have hfound : (tagAtStart? text).isSome := by
    refine List.findSome?_isSome_iff.2 ⟨tag, tag.mem_all, ?_⟩
    rw [Text.afterStart?_eq_some_iff.2 h]
    rfl
  obtain ⟨⟨tag', after'⟩, hfound⟩ := Option.isSome_iff_exists.1 hfound
  -- two tags that stand at the same place are read in the same way
  have hsame := (hsound hfound).symm.trans h
  rw [written_append, written_append] at hsame
  have hread := tagAfterBracket?_eq_some_iff.2 (List.cons.inj hsame).2.symm
  rw [tagAfterBracket?_eq_some_iff.2 rfl] at hread
  rw [hfound, ← Option.some.inj hread]

/-- Where no tag is at the start of a text that begins with a `<`, none is
read there. -/
theorem tagAtStart?_bracket (text : List Char) :
    tagAtStart? ('<' :: text) = tagAfterBracket? text := by
  cases hfound : tagAfterBracket? text with
  | some found =>
    obtain ⟨tag, after⟩ := found
    rw [tagAtStart?_eq_some_iff, tagAfterBracket?_eq_some_iff.1 hfound, written_append]
  | none =>
    cases hstart : tagAtStart? ('<' :: text) with
    | none => rfl
    | some found =>
      obtain ⟨tag, after⟩ := found
      have htext := tagAtStart?_eq_some_iff.1 hstart
      rw [written_append] at htext
      rw [tagAfterBracket?_eq_some_iff.2 (List.cons.inj htext).2] at hfound
      cases hfound

theorem tagAtStart?_eq_none_iff {text : List Char} :
    tagAtStart? text = none ↔ ∀ tag : Tag, ¬ tag.written <+: text := by
  constructor
  · rintro h tag ⟨after, rfl⟩
    rw [tagAtStart?_eq_some_iff.2 rfl] at h
    cases h
  · intro h
    cases hstart : tagAtStart? text with
    | none => rfl
    | some found => exact absurd ⟨found.2, (tagAtStart?_eq_some_iff.1 hstart).symm⟩ (h found.1)

-- ================================================================= scan

theorem scan_nil : scan [] = [] := by
  rw [scan]
  rfl

theorem scan_tag (tag : Tag) (after : List Char) :
    scan (tag.written ++ after) = tag.bytes ++ scan after := by
  rw [scan]
  split
  · next heq =>
    rw [tagAtStart?_eq_some_iff.2 rfl] at heq
    cases heq
    rfl
  · next heq =>
    rw [tagAtStart?_eq_some_iff.2 rfl] at heq
    cases heq

theorem scan_newline (rest : List Char) : scan ('\n' :: rest) = lineBreak ++ scan rest := by
  have hnone : tagAtStart? ('\n' :: rest) = none := by
    refine tagAtStart?_eq_none_iff.2 fun tag ⟨after, heq⟩ => ?_
    rw [written_append] at heq
    cases heq
  rw [scan]
  split
  · next heq =>
    rw [hnone] at heq
    cases heq
  · rfl

theorem scan_char {c : Char} {rest : List Char} (hc : c ≠ '\n')
    (hnone : ∀ tag : Tag, ¬ tag.written <+: c :: rest) :
    scan (c :: rest) = utf8 [c] ++ scan rest := by
  have hnone := tagAtStart?_eq_none_iff.2 hnone
  rw [scan]
  split
  · next heq =>
    rw [hnone] at heq
    cases heq
  · split
    · next heq _ => cases heq
    · next heq _ =>
      cases heq
      exact absurd rfl hc
    · next heq _ =>
      cases heq
      rfl

-- ================================================================= body

/-- The converter copies up to where it stops, and goes on from there. -/
theorem body_eq (text : List Char) :
    body text = utf8 (text.takeWhile isPlain) ++
      match text.dropWhile isPlain with
      | [] => []
      | c :: rest =>
        if c = '\n' then lineBreak ++ body rest
        else
          match tagAfterBracket? rest with
          | some (tag, after) => tag.bytes ++ body after
          | none => utf8 ['<'] ++ body rest := by
  rw [body]
  split
  · next hend =>
    have htext := List.takeWhile_append_dropWhile (p := isPlain) (l := text)
    rw [hend, List.append_nil] at htext
    rw [hend, htext, List.append_nil]
  · next c rest hstop =>
    rw [hstop]
    dsimp only
    by_cases hc : c = '\n'
    · rw [if_pos hc, if_pos hc]
    · rw [if_neg hc, if_neg hc]
      split
      · next htag => rw [htag]
      · next hnone => rw [hnone]

/-- Where the converter does not stop, it copies. -/
theorem body_plain {c : Char} (rest : List Char) (hc : isPlain c = true) :
    body (c :: rest) = utf8 [c] ++ body rest := by
  rw [body_eq (c :: rest), body_eq rest, List.takeWhile_cons_of_pos hc,
    List.dropWhile_cons_of_pos hc, ← List.append_assoc, ← utf8_append]
  rfl

/-- What is all copied goes out in front of the rest. -/
theorem body_append_plain {before : List Char} (rest : List Char)
    (hbefore : ∀ c ∈ before, isPlain c = true) :
    body (before ++ rest) = utf8 before ++ body rest := by
  induction before with
  | nil => rfl
  | cons c before ih =>
    rw [List.cons_append, body_plain _ (hbefore c List.mem_cons_self),
      ih fun d hd => hbefore d (List.mem_cons_of_mem c hd), ← List.append_assoc, ← utf8_append]
    rfl

theorem body_newline (rest : List Char) : body ('\n' :: rest) = lineBreak ++ body rest := by
  rw [body_eq]
  rfl

/-- At a `<`, the converter goes on behind the tag, or behind the `<`. -/
theorem body_bracket (rest : List Char) :
    body ('<' :: rest) =
      match tagAfterBracket? rest with
      | some (tag, after) => tag.bytes ++ body after
      | none => utf8 ['<'] ++ body rest := by
  rw [body_eq]
  rfl

/-- Induction along a text as the scan reads it: by tags, by line feeds, and
by characters at which no tag stands. -/
theorem scan_induction {P : List Char → Prop} (nil : P [])
    (tag : ∀ (tag : Tag) after, P after → P (tag.written ++ after))
    (newline : ∀ rest, P rest → P ('\n' :: rest))
    (char : ∀ c rest, c ≠ '\n' → (∀ tag : Tag, ¬ tag.written <+: c :: rest) → P rest →
      P (c :: rest))
    (text : List Char) : P text := by
  induction text using scan.induct with
  | case1 text found after h ih =>
    obtain rfl := tagAtStart?_eq_some_iff.1 h
    exact tag found after ih
  | case2 h => exact nil
  | case3 rest h ih => exact newline rest ih
  | case4 c rest h hc ih =>
    have hc : c ≠ '\n' := fun heq => hc (by rw [← heq]; exact h) heq (by subst heq; rfl)
    exact char c rest hc (tagAtStart?_eq_none_iff.1 h) ih

/-- Whatever the converter looks at, it does what the scan does. -/
theorem body_eq_scan (text : List Char) : body text = scan text := by
  induction text using scan_induction with
  | nil =>
    rw [scan_nil, body_eq]
    rfl
  | tag tag after ih =>
    rw [scan_tag, ← ih, written_append, body_bracket, tagAfterBracket?_eq_some_iff.2 rfl]
  | newline rest ih => rw [scan_newline, ← ih, body_newline]
  | char c rest hc halone ih =>
    rw [scan_char hc halone, ← ih]
    by_cases hbracket : c = '<'
    · subst hbracket
      have hnone := tagAtStart?_eq_none_iff.2 halone
      rw [tagAtStart?_bracket] at hnone
      rw [body_bracket, hnone]
    · refine body_plain rest ?_
      simp [isPlain, hbracket, hc]

-- =============================================================== offsets

/-- Where the converter stops at a `<`, it finds the next `>` by its offset,
and takes what stands in between for a name. -/
theorem skipAt?_bracket {rest after : List Char} (h : rest.dropWhile (· != '>') = '>' :: after) :
    skipAt? ('<' :: rest) =
      some (match Tag.ofName? (rest.takeWhile (· != '>')) with
        | some tag => ((utf8 ('<' :: rest.takeWhile (· != '>'))).length + 1, tag.bytes)
        | none => (1, utf8 ['<'])) := by
  have hstop : Text.offset? (· == '>') ('<' :: rest)
      = some (utf8 ('<' :: rest.takeWhile (· != '>'))).length :=
    Text.offset?_of_first (q := (· != '>')) (fun c => (Bool.not_not (c == '>')).symm) h
  have hcut : Text.cutAt? (utf8 ('<' :: rest.takeWhile (· != '>'))).length ('<' :: rest)
      = some ('<' :: rest.takeWhile (· != '>'), rest.dropWhile (· != '>')) :=
    Text.cutAt?_takeWhile (· != '>') ('<' :: rest)
  have hname : Text.cutAt? 1 ('<' :: rest.takeWhile (· != '>'))
      = some (['<'], rest.takeWhile (· != '>')) :=
    Text.cutAt?_append ['<'] (rest.takeWhile (· != '>'))
  rw [skipAt?, hstop]
  · dsimp only
    rw [Text.slice?, hcut]
    dsimp only [Option.bind_some]
    rw [hname]
    rfl
  · simp

/-- Where the converter stops, it can cut off what it skips. -/
theorem skipAt?_spec {c : Char} (rest : List Char) (hc : isPlain c = false) :
    ∃ skip bytes skipped behind, skipAt? (c :: rest) = some (skip, bytes)
      ∧ Text.cutAt? skip (c :: rest) = some (skipped, behind)
      ∧ body (c :: rest) = bytes ++ body behind := by
  have hstops : c = '\n' ∨ c = '<' := by
    simpa [isPlain, Decidable.or_iff_not_imp_right] using hc
  rcases hstops with rfl | rfl
  · exact ⟨1, lineBreak, ['\n'], rest, rfl, Text.cutAt?_append ['\n'] rest, body_newline rest⟩
  rw [body_bracket]
  have halone := Text.cutAt?_append ['<'] rest
  cases hclose : rest.dropWhile (· != '>') with
  | nil =>
    -- there is no bracket that closes
    have hnone : tagAfterBracket? rest = none := by
      unfold tagAfterBracket?
      rw [hclose]
    have hskip : skipAt? ('<' :: rest) = some (1, utf8 ['<']) := by
      have hstop : Text.offset? (· == '>') ('<' :: rest) = none :=
        Text.offset?_of_none (q := (· != '>')) (fun c => (Bool.not_not (c == '>')).symm) hclose
      rw [skipAt?, hstop]
      simp
    rw [hnone]
    exact ⟨1, utf8 ['<'], ['<'], rest, hskip, halone, rfl⟩
  | cons d after =>
    have hd : d = '>' := by
      have hhead := List.head?_dropWhile_not (· != '>') rest
      simpa [hclose] using hhead
    subst hd
    have htag : tagAfterBracket? rest
        = (Tag.ofName? (rest.takeWhile (· != '>'))).map fun tag => (tag, after) := by
      unfold tagAfterBracket?
      rw [hclose]
      rfl
    rw [htag, skipAt?_bracket hclose]
    cases hname : Tag.ofName? (rest.takeWhile (· != '>')) with
    | none => exact ⟨1, utf8 ['<'], ['<'], rest, rfl, halone, rfl⟩
    | some tag =>
      have hcut := Text.cutAt?_append ('<' :: rest.takeWhile (· != '>') ++ ['>']) after
      have hwhole : ('<' :: rest.takeWhile (· != '>') ++ ['>']) ++ after = '<' :: rest := by
        rw [List.append_assoc, List.singleton_append, ← hclose, List.cons_append,
          List.takeWhile_append_dropWhile]
      rw [hwhole, utf8_append, List.length_append] at hcut
      exact ⟨_, tag.bytes, _, after, rfl, hcut, rfl⟩

/-- The converter cuts texts only where they can be cut. -/
theorem bodyAt?_eq (text : List Char) : bodyAt? text = some (body text) := by
  -- stop by stop; what lies behind a stop is shorter
  induction hn : text.length using Nat.strongRecOn generalizing text with
  | ind n ih =>
    subst hn
    have hplain : ∀ c ∈ text.takeWhile isPlain, isPlain c = true :=
      List.all_eq_true.1 List.all_takeWhile
    have htext := body_append_plain (text.dropWhile isPlain) hplain
    rw [List.takeWhile_append_dropWhile] at htext
    rw [bodyAt?]
    cases hdrop : text.dropWhile isPlain with
    | nil =>
      rw [Text.offset?_of_none (fun _ => rfl) hdrop, body_eq, hdrop]
      have hall := List.takeWhile_append_dropWhile (p := isPlain) (l := text)
      rw [hdrop, List.append_nil] at hall
      rw [hall]
      exact congrArg some (List.append_nil _).symm
    | cons c rest =>
      have hc : isPlain c = false := by
        have hhead := List.head?_dropWhile_not isPlain text
        simpa [hdrop] using hhead
      obtain ⟨skip, bytes, skipped, behind, hskip, hcut, hbody⟩ := skipAt?_spec rest hc
      have hstride : strideAt? (utf8 (text.takeWhile isPlain)).length text
          = some (utf8 (text.takeWhile isPlain) ++ bytes, behind) := by
        simp only [strideAt?, Text.cutAt?_takeWhile, hdrop, Option.bind_some, hskip, hcut,
          Option.map_some]
      rw [Text.offset?_of_first (fun _ => rfl) hdrop]
      dsimp only
      split
      · next hnone =>
        rw [hstride] at hnone
        cases hnone
      · next hsome =>
        rw [hstride] at hsome
        cases hsome
        rw [ih _ (length_of_strideAt? hstride) behind rfl, htext, hdrop, hbody, ← List.append_assoc]
        rfl

-- ============================================================= the result

/-- Receipts in terms of what stands where in their text.

However far the converter looks ahead, it cuts the text only where it can be
cut, and what comes out is the preamble, the text read position by position,
and the trailer. Where one of the eighteen tags stands, its commands come
out, and reading goes on behind it; a line feed is fed and resets the style;
and any other character goes out as it is, in UTF-8. -/
theorem convert_reads_in_place (text : List Char) (trailer : Trailer) :
    convertAt? text trailer = some (convert text trailer)
      ∧ convert text trailer = [0x1B, 0x40, 0x1B, 0x32] ++ scan text
        ++ ((if trailer.tailingLine then [0x0A, 0x0A, 0x0A, 0x0A, 0x0A] else [])
          ++ (if trailer.cut then [0x1B, 0x69] else [])
          ++ (if trailer.beep then [0x1B, 0x42, 3, 2] else []))
      ∧ scan [] = []
      ∧ (∀ tag ∈ Tag.all, ∀ after, scan (tag.written ++ after) = tag.bytes ++ scan after)
      ∧ (∀ rest, scan ('\n' :: rest)
          = 0x0A :: [0x1B, 0x61, 0, 0x1D, 0x21, 0, 0x1B, 0x32] ++ scan rest)
      ∧ (∀ c rest, c ≠ '\n' → (∀ tag ∈ Tag.all, ¬ tag.written <+: c :: rest) →
          scan (c :: rest) = String.utf8EncodeChar c ++ scan rest)
      ∧ Tag.all.map (fun tag => (String.ofList tag.written, tag.bytes)) =
        [("<L>", [0x1B, 0x61, 0]), ("<C>", [0x1B, 0x61, 1]), ("<R>", [0x1B, 0x61, 2]),
          ("<B>", [0x1B, 0x21, 0x30, 0x1C, 0x21, 0x0C]),
          ("<M>", [0x1B, 0x21, 0x10, 0x1C, 0x21, 0x08]),
          ("<D>", [0x1B, 0x21, 0x20, 0x1C, 0x21, 0x04]),
          ("<CB>", [0x1B, 0x61, 1, 0x1B, 0x21, 0x30, 0x1C, 0x21, 0x0C]),
          ("<CM>", [0x1B, 0x61, 1, 0x1B, 0x21, 0x10, 0x1C, 0x21, 0x08]),
          ("<CD>", [0x1B, 0x61, 1, 0x1B, 0x21, 0x20, 0x1C, 0x21, 0x04]),
          ("</L>", []), ("</C>", []), ("</R>", []),
          ("</B>", [0x1B, 0x21, 0, 0x1C, 0x21, 0]), ("</M>", [0x1B, 0x21, 0, 0x1C, 0x21, 0]),
          ("</D>", [0x1B, 0x21, 0, 0x1C, 0x21, 0]), ("</CB>", [0x1B, 0x21, 0, 0x1C, 0x21, 0]),
          ("</CM>", [0x1B, 0x21, 0, 0x1C, 0x21, 0]), ("</CD>", [0x1B, 0x21, 0, 0x1C, 0x21, 0])] := by
  refine ⟨?_, ?_, scan_nil, fun tag _ => scan_tag tag, scan_newline, ?_, rfl⟩
  · rw [convertAt?, bodyAt?_eq]
    rfl
  · rw [convert, body_eq_scan]
    rfl
  · intro c rest hc hnone
    rw [scan_char hc fun tag => hnone tag tag.mem_all, utf8_cons, utf8_nil, List.append_nil]

end ReceiptPrinter.Markup
