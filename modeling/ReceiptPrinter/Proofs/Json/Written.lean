/-
Reading back what was written.

`Takes` says that a reader takes a value from the front of a text and what it
leaves; readers in a row take what each of them takes. A text comes back from
its quotes character by character, whatever it holds, and a whole number of
64 bits from its digits, if no character behind it can be a part of a number.
-/
import ReceiptPrinter.Json.Scalar
import ReceiptPrinter.Proofs.Device.Usb

namespace ReceiptPrinter.Json

namespace Reader

variable {α β : Type} {text middle rest : List Char}

/-- The reader takes `a` from the front of a text and leaves the rest. -/
def Takes (r : Reader α) (text : List Char) (a : α) (rest : List Char) : Prop :=
  r.runOn text = (.ok a, rest)

-- ============================================================ combinations

namespace Takes

theorem pure (a : α) (text : List Char) : Takes (pure a) text a text := rfl

theorem bind {r : Reader α} {f : α → Reader β} {a : α} {b : β} (hr : Takes r text a middle)
    (hf : Takes (f a) middle b rest) : Takes (r >>= f) text b rest := by
  unfold Takes runOn at *
  rw [ExceptT.run_bind, StateT.run_bind, hr]
  exact hf

theorem tryCatch {r : Reader α} {a : α} {handler : Failure → Reader α} (h : Takes r text a rest) :
    Takes (tryCatch r handler) text a rest := by
  unfold Takes runOn at *
  rw [ExceptT.run_tryCatch, StateT.run_bind, h]
  rfl

theorem placed {r : Reader α} {a : α} (h : Takes r text a rest) : Takes r.placed text a rest :=
  h.tryCatch

theorem closedBy {close : Reader Unit} {inner : Reader α} {a : α} (hinner : Takes inner text a middle)
    (hclose : Takes close middle () rest) : Takes (closedBy close inner) text a rest := by
  have hwrapped {γ : Type} {r : Reader γ} {c : γ} {before after : List Char}
      (h : Takes r before c after) :
      Takes (Except.ok (ε := Failure) <$> r) before (.ok c) after := by
    rw [map_eq_pure_bind]
    exact h.bind (.pure _ _)
  exact .bind (hwrapped hinner).tryCatch (.bind (hwrapped hclose).tryCatch (.pure _ _))

end Takes

-- ================================================================== tokens

theorem takes_rest : Takes Reader.rest text text text := rfl

theorem takes_skip {c : Char} : Takes skip (c :: rest) () rest := rfl

theorem takes_peek : Takes peek text text.head? text := rfl

theorem takes_next {c : Char} : Takes next (c :: rest) (some c) rest := rfl

theorem takes_set : Takes (set rest : Reader PUnit) text ⟨⟩ rest := rfl

/-- A token may come right away. -/
theorem takes_peekToken {c : Char} (h : isGap c = false) :
    Takes peekToken (c :: rest) (some c) (c :: rest) := by
  have hdrop : (c :: rest).dropWhile isGap = c :: rest := List.dropWhile_cons_of_neg (by simp [h])
  unfold Takes
  show (Except.ok ((c :: rest).dropWhile isGap).head?, (c :: rest).dropWhile isGap) = _
  rw [hdrop]
  rfl

-- ================================================================== quotes

theorem hexQuad?_hexDigits {n : Nat} (h : n < 65536) :
    ∃ a b c d, hexDigits 4 n = [a, b, c, d] ∧ hexQuad? a b c d = some n := by
  have hdigit (k : Nat) : hexValue? (hexDigit (k % 16)) = some (k % 16) :=
    hexValue?_eq_some_iff.mpr (isHexDigit_hexDigit (Nat.mod_lt k (by decide)))
  refine ⟨_, _, _, _, rfl, ?_⟩
  unfold hexQuad?
  rw [hdigit, hdigit, hdigit, hdigit]
  show some _ = some n
  congr 1
  omega

theorem takes_hexEscape {code : Nat} (h : code < 65536) :
    Takes hexEscape (hexDigits 4 code ++ rest) code rest := by
  obtain ⟨a, b, c, d, hdigits, hquad⟩ := hexQuad?_hexDigits h
  have hlong : ¬(utf8 ((hexDigits 4 code ++ rest).take 4)).length < 4 := by
    have htake : (hexDigits 4 code ++ rest).take 4 = hexDigits 4 code := by
      rw [hdigits]
      rfl
    rw [htake, utf8_length_of_hex (isHexNumber_hexDigits 3 code).mem, hdigits]
    exact Nat.lt_irrefl 4
  rw [hdigits] at *
  refine .bind takes_rest ?_
  rw [if_neg hlong]
  refine .bind takes_set ?_
  rw [hquad]
  exact .pure _ _

/-- A character comes back from its escape. -/
theorem takes_quotedWithin_cons {fuel : Nat} {c : Char} {content : List Char}
    (h : Takes (quotedWithin fuel) text content rest) :
    Takes (quotedWithin (fuel + 1)) (escape c ++ text) (c :: content) rest := by
  have hshort {mark : Char} (hmark : shortEscape? mark = some c) (hu : mark ≠ 'u') :
      Takes (quotedWithin (fuel + 1)) ('\\' :: mark :: text) (c :: content) rest := by
    have hescaped : Takes escaped (mark :: text) c text := by
      refine .bind takes_next ?_
      split
      · next hnone => cases hnone
      · next hsome => exact absurd (Option.some.inj hsome) hu
      · next other hother hsome =>
        cases hsome
        rw [hmark]
        exact .pure _ _
    exact .bind takes_peek (.bind takes_skip (.bind hescaped (.bind h (.pure _ _))))
  unfold escape
  split
  · next hquote => exact hshort (by rw [hquote]; rfl) (by decide)
  split
  · next hslash => exact hshort (by rw [hslash]; rfl) (by decide)
  split
  · next hfeed => exact hshort (by rw [hfeed]; rfl) (by decide)
  split
  · next hreturn => exact hshort (by rw [hreturn]; rfl) (by decide)
  split
  · next htab => exact hshort (by rw [htab]; rfl) (by decide)
  split
  · next hback => exact hshort (by rw [← Char.ofNat_toNat c, hback]; rfl) (by decide)
  split
  · next hform => exact hshort (by rw [← Char.ofNat_toNat c, hform]; rfl) (by decide)
  split
  · next hcontrol =>
    have hunicode : Takes unicodeEscape (hexDigits 4 c.toNat ++ text) c text := by
      refine .bind (takes_hexEscape (by omega)) ?_
      rw [if_neg (by omega), if_pos (by omega), Char.ofNat_toNat]
      exact .pure _ _
    have hescaped : Takes escaped ('u' :: (hexDigits 4 c.toNat ++ text)) c text :=
      .bind takes_next hunicode
    exact .bind takes_peek (.bind takes_skip (.bind hescaped (.bind h (.pure _ _))))
  · next hquote hslash _ _ _ _ _ hcontrol =>
    refine .bind takes_peek ?_
    rw [List.singleton_append, List.head?_cons]
    split
    · next hnone => cases hnone
    · next hsome => exact absurd (Option.some.inj hsome) hquote
    · next hsome => exact absurd (Option.some.inj hsome) hslash
    · next other hother hother' hsome =>
      cases hsome
      refine .bind takes_skip ?_
      rw [if_neg hcontrol]
      exact .bind h (.pure _ _)

/-- A text comes back from its quotes. -/
theorem takes_quotedWithin {fuel : Nat} (content : List Char) (h : content.length < fuel) :
    Takes (quotedWithin fuel) (content.flatMap escape ++ '"' :: rest) content rest := by
  induction content generalizing fuel with
  | nil =>
    obtain ⟨fuel, rfl⟩ : ∃ less, fuel = less + 1 := ⟨fuel - 1, by omega⟩
    exact .bind takes_peek (.bind takes_skip (.pure _ _))
  | cons c content ih =>
    obtain ⟨fuel, rfl⟩ : ∃ less, fuel = less + 1 := ⟨fuel - 1, by omega⟩
    rw [List.flatMap_cons, List.append_assoc]
    exact takes_quotedWithin_cons (ih (by simpa using h))

theorem length_le_escape (content : List Char) : content.length ≤ (content.flatMap escape).length := by
  induction content with
  | nil => exact Nat.le_refl 0
  | cons c content ih =>
    have hone : 1 ≤ (escape c).length := by
      unfold escape
      repeat' split
      all_goals simp
    rw [List.flatMap_cons, List.length_append, List.length_cons]
    omega

theorem takes_quoted (s : String) :
    Takes quoted (s.toList.flatMap escape ++ '"' :: rest) s rest := by
  have hlength := length_le_escape s.toList
  refine .bind takes_rest (.bind (takes_quotedWithin s.toList ?_) ?_)
  · rw [List.length_append]
    omega
  · rw [String.ofList_toList]
    exact .pure _ _

-- ================================================================= numbers

/-- What cannot go on with a number. -/
def EndsNumber (text : List Char) : Prop :=
  ∀ c ∈ text.head?, c.isDigit = false ∧ c ≠ '.' ∧ c ≠ 'e' ∧ c ≠ 'E'

theorem takeWhile_of_endsNumber (h : EndsNumber rest) : rest.takeWhile Char.isDigit = [] := by
  cases rest with
  | nil => rfl
  | cons c rest =>
    have hc : c.isDigit = false := (h c rfl).1
    exact List.takeWhile_cons_of_neg (by simp [hc])

theorem dropWhile_of_endsNumber (h : EndsNumber rest) : rest.dropWhile Char.isDigit = rest := by
  cases rest with
  | nil => rfl
  | cons c rest =>
    have hc : c.isDigit = false := (h c rfl).1
    exact List.dropWhile_cons_of_neg (by simp [hc])

theorem takes_digits {row : List Char} (hrow : ∀ c ∈ row, c.isDigit = true)
    (hrest : EndsNumber rest) :
    Takes digits (row ++ rest) (row.map fun c => c.toNat - 48) rest := by
  have htake : (row ++ rest).takeWhile Char.isDigit = row := by
    rw [List.takeWhile_append_of_pos hrow, takeWhile_of_endsNumber hrest, List.append_nil]
  have hdrop : (row ++ rest).dropWhile Char.isDigit = rest := by
    rw [List.dropWhile_append_of_pos hrow, dropWhile_of_endsNumber hrest]
  unfold Takes
  show (Except.ok (((row ++ rest).takeWhile Char.isDigit).map fun c => c.toNat - 48),
    (row ++ rest).dropWhile Char.isDigit) = _
  rw [htake, hdrop]

/-- All digits are kept if the number fits. -/
theorem absorb_eq {significand : Nat} {ds : List Nat}
    (h : ds.foldl (fun n d => n * 10 + d) significand < UInt64.size) :
    absorb significand ds = (ds.foldl (fun n d => n * 10 + d) significand, []) := by
  induction ds generalizing significand with
  | nil => rfl
  | cons d ds ih =>
    have hgrows (ds : List Nat) (n : Nat) : n ≤ ds.foldl (fun n d => n * 10 + d) n := by
      induction ds generalizing n with
      | nil => exact Nat.le_refl n
      | cons d ds ih => exact Nat.le_trans (by omega) (ih (n * 10 + d))
    have hfits : ¬overflows significand d = true := by
      unfold overflows
      rw [decide_eq_true_iff, Nat.not_le]
      exact Nat.lt_of_le_of_lt (hgrows ds _) h
    unfold absorb
    rw [if_neg hfits]
    exact ih h

/-- The digits of a number make the number. -/
theorem foldl_toDigits (n : Nat) :
    ((Nat.toDigits 10 n).map fun c => c.toNat - 48).foldl (fun n d => n * 10 + d) 0 = n := by
  rw [List.foldl_map]
  have h := Nat.ofDigitChars_ten_toDigits (n := n)
  rw [Nat.ofDigitChars_eq_foldl] at h
  simpa [Nat.mul_comm] using h

/-- Behind a whole number that has ended comes neither a point nor an
exponent. -/
theorem takes_wholeNumber {decimals exponent whole : Reader α} {a : α} (hrest : EndsNumber rest)
    (h : Takes whole rest a rest) :
    Takes (do
      match ← peek with
      | some '.' => decimals
      | some 'e' | some 'E' => exponent
      | _ => whole) rest a rest := by
  refine .bind takes_peek ?_
  split
  · next hpoint => exact absurd rfl (hrest '.' hpoint).2.1
  · next he => exact absurd rfl (hrest 'e' he).2.2.1
  · next he => exact absurd rfl (hrest 'E' he).2.2.2
  · exact h

theorem isDigit_of_mem {n : Nat} : ∀ c ∈ Nat.toDigits 10 n, c.isDigit = true := fun _ hc =>
  Nat.isDigit_of_mem_toDigits (by decide) (by decide) hc

theorem exists_toDigits_cons (n : Nat) :
    ∃ c row, Nat.toDigits 10 n = c :: row ∧ c.isDigit = true := by
  obtain ⟨c, row, hrow⟩ := List.exists_cons_of_ne_nil (Nat.toDigits_ne_nil (n := n) (b := 10))
  exact ⟨c, row, hrow, isDigit_of_mem c (by rw [hrow]; exact List.mem_cons_self)⟩

/-- Only zero begins with a zero. -/
theorem eq_zero_of_toDigits {n : Nat} {row : List Char} (h : Nat.toDigits 10 n = '0' :: row) :
    n = 0 := by
  induction n using Nat.strongRecOn generalizing row with
  | ind n ih =>
    rw [Nat.toDigits_eq_if (by decide)] at h
    split at h
    · next hlt =>
      have hchar : n.digitChar = '0' := (List.cons.inj h).1
      have hall : ∀ k : Fin 10, k.val.digitChar = '0' → k.val = 0 := by decide
      exact hall ⟨n, hlt⟩ hchar
    · next hge =>
      obtain ⟨c, front, hfront, -⟩ := exists_toDigits_cons (n / 10)
      rw [hfront] at h
      obtain ⟨rfl, -⟩ := List.cons.inj h
      have hzero := ih (n / 10) (by omega) hfront
      omega

theorem takes_unsigned {n : Nat} (h : n < UInt64.size) (hrest : EndsNumber rest) :
    Takes (unsigned true) (Nat.toDigits 10 n ++ rest) (.int n) rest := by
  obtain ⟨c, row, hrow, hc⟩ := exists_toDigits_cons n
  unfold unsigned
  refine .bind takes_peek ?_
  rw [hrow]
  simp only [List.cons_append, List.head?_cons, hc, Bool.not_true, if_neg Bool.false_ne_true]
  by_cases hzero : c = '0'
  · rw [if_pos hzero]
    subst hzero
    obtain rfl := eq_zero_of_toDigits hrow
    obtain rfl : row = [] := (List.cons.inj hrow).2.symm
    refine .bind takes_skip (.bind takes_peek ?_)
    rw [List.nil_append]
    split
    · next d hd =>
      rw [if_neg (by simp [(hrest d hd).1])]
      exact .bind (.pure _ _) (takes_wholeNumber hrest (.pure _ _))
    · exact .bind (.pure _ _) (takes_wholeNumber hrest (.pure _ _))
  · have habsorb : absorb 0 ((Nat.toDigits 10 n).map fun c => c.toNat - 48) = (n, []) := by
      have hfold := foldl_toDigits n
      rw [absorb_eq (by rw [hfold]; exact h), hfold]
    have hdigits : ∀ d ∈ c :: row, d.isDigit = true := by
      rw [← hrow]
      exact isDigit_of_mem
    rw [if_neg hzero]
    refine .bind (takes_digits hdigits hrest) (takes_wholeNumber hrest ?_)
    rw [← hrow, habsorb]
    exact .pure _ _

-- ================================================================== values

/-- The values that are one token each: texts, and whole numbers of 64
bits. -/
inductive IsToken : Json → Prop
  | string (s : String) : IsToken (.string s)
  | nat {n : Nat} (h : n < UInt64.size) : IsToken (.nat n)

theorem write_nat (n : Nat) : write (.nat n) = Nat.toDigits 10 n := Nat.toList_repr

theorem takes_number {n : Nat} (h : n < UInt64.size) (hrest : EndsNumber rest) :
    Takes number (Nat.toDigits 10 n ++ rest) (.int n) rest := by
  refine .bind takes_peek ?_
  split
  · next hminus =>
    -- no number without a sign begins with one
    obtain ⟨c, row, hrow, hc⟩ := exists_toDigits_cons n
    rw [hrow, List.cons_append, List.head?_cons, Option.some.injEq] at hminus
    subst hminus
    cases hc
  · exact takes_unsigned h hrest

/-- The first sign of a number tells that it is one. -/
theorem takes_valueWithin_number {c : Char} {fuel depth : Nat} {n : Number} (hc : c.isDigit = true)
    (h : Takes number (c :: text) n rest) :
    Takes (valueWithin (fuel + 1) depth) (c :: text) (.number n) rest := by
  have hne {d : Char} (hd : d.isDigit = false) : some c ≠ some d := by
    rintro ⟨⟩
    rw [hc] at hd
    cases hd
  have hgap : isGap c = false := by
    unfold isGap
    rw [decide_eq_false_iff_not]
    rintro (rfl | rfl | rfl | rfl) <;> cases hc
  refine .bind (takes_peekToken hgap) ?_
  split
  · next heq => cases heq
  iterate 6
    next heq => exact absurd heq (hne rfl)
  · next heq =>
    cases heq
    rw [if_pos (.inr hc)]
    exact .bind h (.pure _ _)

theorem takes_valueWithin {v : Json} (hv : IsToken v) {fuel depth : Nat} (hrest : EndsNumber rest) :
    Takes (valueWithin (fuel + 1) depth) (write v ++ rest) v rest := by
  cases hv with
  | string s =>
    have hquoted : Takes quoted (s.toList.flatMap escape ++ ['"'] ++ rest) s rest := by
      rw [List.append_assoc]
      exact takes_quoted s
    refine .bind (takes_peekToken (c := '"') rfl) (.bind takes_skip (.bind hquoted (.pure _ _)))
  | @nat n h =>
    rw [write_nat]
    obtain ⟨c, row, hrow, hc⟩ := exists_toDigits_cons n
    have hnumber := takes_number h hrest
    rw [hrow] at hnumber ⊢
    exact takes_valueWithin_number hc hnumber

theorem takes_value {v : Json} (hv : IsToken v) {depth : Nat} (hrest : EndsNumber rest) :
    Takes (value depth) (write v ++ rest) v rest :=
  .bind takes_rest (takes_valueWithin hv hrest)

end Reader

end ReceiptPrinter.Json
