/-
Places in a text, told by bytes.

An offset is the number of UTF-8 bytes before a place. A text can be cut
only between two characters, or at an end; an offset inside a character or
behind the end is not a place at which it can be cut.
-/
import ReceiptPrinter.Bytes

namespace ReceiptPrinter.Text

/-- The parts of a text before and behind an offset, if it can be cut
there. -/
def cutAt? : Nat → List Char → Option (List Char × List Char)
  | 0, text => some ([], text)
  | _ + 1, [] => none
  | n + 1, c :: rest =>
    if c.utf8Size ≤ n + 1 then
      (cutAt? (n + 1 - c.utf8Size) rest).map fun (before, behind) => (c :: before, behind)
    else none

/-- The part of a text between two offsets, if it can be cut at both. -/
def slice? (start stop : Nat) (text : List Char) : Option (List Char) :=
  (cutAt? stop text).bind fun (before, _) => (cutAt? start before).map Prod.snd

/-- The offset of the first character of a kind. -/
def offset? (p : Char → Bool) : List Char → Option Nat
  | [] => none
  | c :: rest => if p c then some 0 else (offset? p rest).map (c.utf8Size + ·)

/-- A text can be cut wherever one part of it ends. -/
theorem cutAt?_append (before behind : List Char) :
    cutAt? (utf8 before).length (before ++ behind) = some (before, behind) := by
  induction before with
  | nil => simp [cutAt?]
  | cons c before ih =>
    have hlength : (utf8 (c :: before)).length = (c.utf8Size - 1 + (utf8 before).length) + 1 := by
      have hpos := c.utf8Size_pos
      rw [utf8_cons, List.length_append, String.length_utf8EncodeChar]
      omega
    have hrest : c.utf8Size - 1 + (utf8 before).length + 1 - c.utf8Size = (utf8 before).length := by
      have hpos := c.utf8Size_pos
      omega
    rw [hlength, List.cons_append, cutAt?, if_pos (by omega), hrest, ih]
    rfl

/-- Wherever a text is cut, one part of it ends. -/
theorem eq_append_of_cutAt? {n : Nat} {text before behind : List Char}
    (h : cutAt? n text = some (before, behind)) :
    text = before ++ behind ∧ (utf8 before).length = n := by
  induction text generalizing n before with
  | nil =>
    cases n with
    | zero => cases h; exact ⟨rfl, rfl⟩
    | succ n => cases h
  | cons c rest ih =>
    cases n with
    | zero => cases h; exact ⟨rfl, rfl⟩
    | succ n =>
      rw [cutAt?] at h
      split at h
      · next hsize =>
        simp only [Option.map_eq_some_iff, Prod.mk.injEq] at h
        obtain ⟨⟨first, last⟩, hcut, rfl, rfl⟩ := h
        obtain ⟨hrest, hlength⟩ := ih hcut
        refine ⟨congrArg (c :: ·) hrest, ?_⟩
        rw [utf8_cons, List.length_append, String.length_utf8EncodeChar, hlength]
        omega
      · cases h

/-- What lies behind an offset other than zero is shorter than the text. -/
theorem length_of_cutAt? {n : Nat} {text before behind : List Char}
    (h : cutAt? n text = some (before, behind)) (hn : 0 < n) : behind.length < text.length := by
  obtain ⟨rfl, hlength⟩ := eq_append_of_cutAt? h
  cases before with
  | nil => exact absurd hlength (Nat.ne_of_lt hn)
  | cons c before =>
    simp only [List.cons_append, List.length_cons, List.length_append]
    omega

section

variable {p q : Char → Bool} {text : List Char}

theorem offset?_of_none (hpq : ∀ c, p c = !q c) (h : text.dropWhile q = []) :
    offset? p text = none := by
  induction text with
  | nil => rfl
  | cons c rest ih =>
    rw [List.dropWhile_cons] at h
    cases hc : q c with
    | true =>
      rw [if_pos hc] at h
      simp [offset?, hpq, hc, ih h]
    | false => simp [hc] at h

/-- The first character of a kind stands behind those that are not of it. -/
theorem offset?_of_first {c : Char} {rest : List Char} (hpq : ∀ c, p c = !q c)
    (h : text.dropWhile q = c :: rest) :
    offset? p text = some (utf8 (text.takeWhile q)).length := by
  induction text with
  | nil => cases h
  | cons d text ih =>
    rw [List.dropWhile_cons] at h
    cases hd : q d with
    | true =>
      rw [if_pos hd] at h
      simp [offset?, hpq, hd, ih h]
    | false => simp [offset?, hpq, hd]

/-- In front of it, the text can be cut. -/
theorem cutAt?_takeWhile (p : Char → Bool) (text : List Char) :
    cutAt? (utf8 (text.takeWhile p)).length text = some (text.takeWhile p, text.dropWhile p) := by
  have hcut := cutAt?_append (text.takeWhile p) (text.dropWhile p)
  rwa [List.takeWhile_append_dropWhile] at hcut

end

end ReceiptPrinter.Text
