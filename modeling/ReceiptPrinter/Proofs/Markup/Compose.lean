/-
Texts one after another.

The converter may look far ahead for a `>`, but nothing comes of it unless a
whole tag stands there. So what is emitted for two texts in a row is what is
emitted for each of them, as long as no tag begins in the first one and ends
in the second one; and if one does, it is not (`body_append_iff`). No tag
goes on across a `<` or a line feed (`not_straddles`), which makes the lines
of a text independent of each other.
-/
import ReceiptPrinter.Proofs.Markup.Scan

namespace ReceiptPrinter.Markup

-- =================================================== across the join

/-- The tag begins in the first text and ends in the second one. -/
def Tag.Straddles (tag : Tag) (a b : List Char) : Prop :=
  ∃ p q, p ≠ [] ∧ q ≠ [] ∧ p <:+ a ∧ q <+: b ∧ p ++ q = tag.written

namespace Tag

variable {tag : Tag} {a b : List Char}

/-- Behind its first character a tag has neither a `<` nor a line feed. -/
theorem isPlain_of_mem {c : Char} (h : c ∈ tag.name ++ ['>']) : isPlain c = true := by
  have hnames : ∀ tag ∈ Tag.all, (tag.name ++ ['>']).all isPlain = true := by decide
  exact List.all_eq_true.1 (hnames tag tag.mem_all) c h

/-- The two parts of a tag that is cut. -/
theorem exists_parts {p q : List Char} (hp : p ≠ []) (hq : q ≠ []) (h : p ++ q = tag.written) :
    ∃ before after, p = '<' :: before ∧ q = after ++ ['>'] ∧ before ++ after = tag.name := by
  obtain ⟨c, before, rfl⟩ := List.exists_cons_of_ne_nil hp
  rcases List.eq_nil_or_concat q with rfl | ⟨after, d, rfl⟩
  · exact absurd rfl hq
  · have hparts : c :: (before ++ after) ++ [d] = '<' :: tag.name ++ ['>'] := by
      simpa [Tag.written] using h
    obtain ⟨hinner, hlast⟩ := List.append_inj' hparts rfl
    obtain ⟨rfl, hname⟩ := List.cons.inj hinner
    obtain ⟨rfl, -⟩ := List.cons.inj hlast
    exact ⟨before, after, rfl, List.concat_eq_append, hname⟩

theorem Straddles.mono {a' : List Char} (h : tag.Straddles a' b) (ha : a' <:+ a) :
    tag.Straddles a b := by
  obtain ⟨p, q, hp, hq, hsuffix, hrest⟩ := h
  exact ⟨p, q, hp, hq, hsuffix.trans ha, hrest⟩

/-- No tag goes on across a `<` or a line feed. -/
theorem not_straddles {c : Char} (hc : isPlain c = false) : ¬ tag.Straddles a (c :: b) := by
  rintro ⟨p, q, hp, hq, -, hprefix, hwritten⟩
  obtain ⟨before, after, -, rfl, hname⟩ := exists_parts hp hq hwritten
  have hmem : c ∈ after ++ ['>'] := by
    obtain ⟨rest, hrest⟩ := hprefix
    cases after with
    | nil => cases hrest; simp
    | cons d after => cases hrest; simp
  have hplain : isPlain c = true := by
    apply tag.isPlain_of_mem
    rw [← hname, List.append_assoc]
    exact List.mem_append_right before hmem
  rw [hc] at hplain
  cases hplain

end Tag

-- ======================================================= texts in a row

/-- Where no tag straddles, two texts are read one after the other. -/
theorem scan_append {a b : List Char} (h : ∀ tag : Tag, ¬ tag.Straddles a b) :
    scan (a ++ b) = scan a ++ scan b := by
  -- position by position, as the first text is read
  induction a using scan_induction with
  | nil =>
    rw [scan_nil]
    rfl
  | tag tag after ih =>
    have hafter : ∀ tag : Tag, ¬ tag.Straddles after b := fun tag' hs =>
      h tag' (hs.mono (List.suffix_append tag.written after))
    rw [List.append_assoc, scan_tag, scan_tag, ih hafter, List.append_assoc]
  | newline rest ih =>
    have hrest : ∀ tag : Tag, ¬ tag.Straddles rest b := fun tag hs =>
      h tag (hs.mono (List.suffix_cons '\n' rest))
    rw [List.cons_append, scan_newline, scan_newline, ih hrest, List.append_assoc]
  | char c rest hc halone ih =>
    have hrest : ∀ tag : Tag, ¬ tag.Straddles rest b := fun tag hs =>
      h tag (hs.mono (List.suffix_cons c rest))
    -- a tag that stands here in both texts together would straddle
    have htogether : ∀ tag : Tag, ¬ tag.written <+: c :: (rest ++ b) := by
      rintro tag ⟨after, heq⟩
      have hsplit : tag.written ++ after = (c :: rest) ++ b := heq
      rcases List.append_eq_append_iff.1 hsplit with ⟨more, hwhole, -⟩ | ⟨q, hcut, hb⟩
      · exact halone tag ⟨more, hwhole.symm⟩
      · by_cases hq : q = []
        · subst hq
          rw [List.append_nil] at hcut
          exact halone tag ⟨[], by rw [hcut, List.append_nil]⟩
        · exact h tag ⟨c :: rest, q, List.cons_ne_nil c rest, hq, List.suffix_refl _,
            ⟨after, hb.symm⟩, hcut.symm⟩
    show scan (c :: (rest ++ b)) = scan (c :: rest) ++ scan b
    rw [scan_char hc htogether, scan_char hc halone, ih hrest,
      List.append_assoc]

/-- What begins like a tag but ends too early is copied. -/
theorem body_unclosed {before after : List Char} {tag : Tag} (h : before ++ after = tag.name) :
    body ('<' :: before) = utf8 ('<' :: before) := by
  have hmem : ∀ c ∈ before, c ∈ tag.name := by
    intro c hc
    rw [← h]
    exact List.mem_append_left after hc
  have hnone : tagAfterBracket? before = none := by
    cases hfound : tagAfterBracket? before with
    | none => rfl
    | some found =>
      have hclose : '>' ∈ before := by
        rw [tagAfterBracket?_eq_some_iff.1 hfound]
        simp
      exact absurd (hmem '>' hclose) tag.not_close_mem_name
  have hplain : ∀ c ∈ before, isPlain c = true := fun c hc =>
    tag.isPlain_of_mem (List.mem_append_left ['>'] (hmem c hc))
  have hcopied := body_append_plain [] hplain
  rw [List.append_nil, body_eq_scan [], scan_nil, List.append_nil] at hcopied
  rw [body_bracket, hnone, hcopied]
  rfl

/-- What ends like a tag but has no beginning is copied. -/
theorem body_unopened {before after : List Char} {tag : Tag} (h : before ++ after = tag.name)
    (rest : List Char) :
    body (after ++ ['>'] ++ rest) = utf8 (after ++ ['>']) ++ body rest := by
  apply body_append_plain
  intro c hc
  apply tag.isPlain_of_mem
  rw [← h, List.append_assoc]
  exact List.mem_append_right before hc

/-- No tag emits what it is written with. -/
theorem Tag.bytes_ne_written (tag : Tag) : tag.bytes ≠ utf8 tag.written := by
  have hall : ∀ tag ∈ Tag.all, tag.bytes ≠ utf8 tag.written := by decide
  exact hall tag tag.mem_all

/-- Two texts are converted one after the other exactly if no tag
straddles. -/
theorem body_append_iff {a b : List Char} :
    body (a ++ b) = body a ++ body b ↔ ∀ tag : Tag, ¬ tag.Straddles a b := by
  constructor
  · rintro h tag ⟨p, q, hp, hq, ⟨a, rfl⟩, ⟨b, rfl⟩, hwritten⟩
    obtain ⟨before, after, rfl, rfl, hname⟩ := Tag.exists_parts hp hq hwritten
    -- in one text there is a tag, and in two there are letters
    have hone : body (a ++ '<' :: before ++ (after ++ ['>'] ++ b))
        = body a ++ (tag.bytes ++ body b) := by
      have hregroup : a ++ '<' :: before ++ (after ++ ['>'] ++ b) = a ++ (tag.written ++ b) := by
        rw [← hwritten]
        simp
      have hjoin : ∀ tag' : Tag, ¬ tag'.Straddles a (tag.written ++ b) := fun tag' =>
        Tag.not_straddles rfl
      rw [hregroup, body_eq_scan, scan_append hjoin, scan_tag, ← body_eq_scan, ← body_eq_scan]
    have htwo : body (a ++ '<' :: before) ++ body (after ++ ['>'] ++ b)
        = body a ++ (utf8 tag.written ++ body b) := by
      have hjoin : ∀ tag' : Tag, ¬ tag'.Straddles a ('<' :: before) := fun tag' =>
        Tag.not_straddles rfl
      rw [body_eq_scan (a ++ _), scan_append hjoin, ← body_eq_scan, ← body_eq_scan,
        body_unclosed hname, body_unopened hname, ← hwritten, utf8_append ('<' :: before)]
      simp only [List.append_assoc]
    rw [hone, htwo] at h
    exact tag.bytes_ne_written (List.append_cancel_right (List.append_cancel_left h))
  · intro h
    rw [body_eq_scan, body_eq_scan, body_eq_scan, scan_append h]

-- ================================================================ lines

/-- A line feed parts a text from what comes after it. -/
theorem body_append_newline (a b : List Char) :
    body (a ++ '\n' :: b) = body a ++ lineBreak ++ body b := by
  have hjoin : ∀ tag : Tag, ¬ tag.Straddles a ('\n' :: b) := fun tag => Tag.not_straddles rfl
  rw [body_append_iff.2 hjoin, body_newline, List.append_assoc]

/-- Every line is converted by itself. -/
theorem body_intercalate (lines : List (List Char)) :
    body (['\n'].intercalate lines) = lineBreak.intercalate (lines.map body) := by
  induction lines with
  | nil =>
    rw [body_eq_scan]
    exact scan_nil
  | cons line rest ih =>
    cases rest with
    | nil => simp
    | cons next rest =>
      rw [List.intercalate_cons_cons, List.append_assoc, List.singleton_append,
        body_append_newline, ih]
      simp [List.intercalate_cons_cons]

-- ============================================================= the result

/-- Texts in a row, and lines in a row.

Between preamble and trailer, what is emitted for two texts in a row is what
is emitted for the first and then what is emitted for the second one,
exactly if none of the tags begins in the first and ends in the second one.
So it is at every line feed, which emits its own commands in between: no
line has a part in how another one is converted. -/
theorem lines_convert_alone (a b : List Char) (trailer : Trailer) :
    preamble.length = 4
      ∧ (∀ text, convert text trailer = preamble ++ body text ++ trailer.bytes)
      ∧ (body (a ++ b) = body a ++ body b ↔ ∀ tag ∈ Tag.all, ¬ tag.Straddles a b)
      ∧ body (a ++ '\n' :: b)
          = body a ++ 0x0A :: [0x1B, 0x61, 0, 0x1D, 0x21, 0, 0x1B, 0x32] ++ body b
      ∧ ∀ lines : List (List Char),
          body (['\n'].intercalate lines) = lineBreak.intercalate (lines.map body) := by
  refine ⟨rfl, fun text => rfl, ?_, body_append_newline a b, body_intercalate⟩
  rw [body_append_iff]
  exact ⟨fun h tag _ => h tag, fun h tag => h tag tag.mem_all⟩

end ReceiptPrinter.Markup
