/-
Which texts name a USB device.

`ofText_eq_ok_iff` says that exactly the pairs of numbers with any decoration
are accepted, and which device they name. Decoration is more than a pair
needs: of the accepted texts, those without a plus sign and without two marks
in a row are the pairs with at most one mark before each number. The four
digits in which a device is shown are one way to write its numbers.
-/
import Mathlib.Algebra.Group.Nat.Defs
import Mathlib.Data.List.Infix
import ReceiptPrinter.Device.Grammar
import ReceiptPrinter.Proofs.Device.Address

namespace ReceiptPrinter

-- ============================================================= hex digits

theorem hexValue?_eq_some_iff {c : Char} {value : Nat} :
    hexValue? c = some value ↔ IsHexDigit c value := by
  constructor
  · intro h
    have hascii : c.toNat < 128 := toNat_lt_of_hexValue? (by rw [h]; rfl)
    have hall := Text.ascii_forall (P := fun c => ∀ v ∈ hexValue? c,
      v < 16 ∧ (c = hexDigit v ∨ c = upperHexDigit v)) (by decide) hascii
    exact hall value h
  · intro h
    obtain ⟨hlt, hsign⟩ := h
    have hboth : ∀ v : Fin 16, hexValue? (hexDigit v) = some v.val
        ∧ hexValue? (upperHexDigit v) = some v.val := by decide
    rcases hsign with rfl | rfl
    · exact (hboth ⟨value, hlt⟩).1
    · exact (hboth ⟨value, hlt⟩).2

theorem isHexDigit_hexDigit {value : Nat} (h : value < 16) : IsHexDigit (hexDigit value) value :=
  ⟨h, .inl rfl⟩

theorem IsHexDigit.mem {c : Char} {value : Nat} (h : IsHexDigit c value) : c ∈ hexSigns := by
  rw [← hexValue?_isSome_iff, hexValue?_eq_some_iff.mpr h]
  rfl

namespace IsHexNumber

variable {digits : List Char} {n : Nat}

theorem mem (h : IsHexNumber digits n) : ∀ c ∈ digits, c ∈ hexSigns := by
  induction h with
  | digit h =>
    intro c hc
    rw [List.mem_singleton.mp hc]
    exact h.mem
  | append hdigits h ih =>
    intro c hc
    rcases List.mem_append.mp hc with hc | hc
    · exact ih c hc
    · rw [List.mem_singleton.mp hc]
      exact h.mem

theorem ne_nil (h : IsHexNumber digits n) : digits ≠ [] := by
  cases h <;> simp

end IsHexNumber

/-- The last digits of a number make its remainder. -/
theorem isHexNumber_hexDigits (places n : Nat) :
    IsHexNumber (hexDigits (places + 1) n) (n % 16 ^ (places + 1)) := by
  have hlast : n % 16 < 16 := Nat.mod_lt _ (by decide)
  induction places generalizing n with
  | zero =>
    have h := IsHexNumber.digit (isHexDigit_hexDigit hlast)
    simpa [hexDigits] using h
  | succ places ih =>
    have h := (ih (n / 16) (Nat.mod_lt _ (by decide))).append (isHexDigit_hexDigit hlast)
    have hvalue : 16 * (n / 16 % 16 ^ (places + 1)) + n % 16 = n % 16 ^ (places + 1 + 1) := by
      rw [Nat.pow_succ' (n := places + 1), Nat.mod_mul]
      omega
    rw [hvalue] at h
    exact h

namespace UsbIdentity

-- ================================================================ numbers

theorem hexNumber?_singleton (c : Char) : hexNumber? [c] = hexValue? c := by
  unfold hexNumber?
  cases h : hexValue? c <;> simp [h]

/-- A digit at the end counts once, and all before it sixteen times. -/
theorem hexNumber?_concat {text : List Char} (htext : text ≠ []) (c : Char) :
    hexNumber? (text ++ [c])
      = (hexNumber? text).bind fun n => (hexValue? c).map fun value => n * 16 + value := by
  unfold hexNumber?
  rw [if_neg (by simp), if_neg (by simpa using htext), List.mapM_append]
  cases text.mapM hexValue? with
  | none => rfl
  | some values => cases h : hexValue? c <;> simp [h]

theorem hexNumber?_eq_some_iff {text : List Char} {n : Nat} :
    hexNumber? text = some n ↔ IsHexNumber text n := by
  constructor
  · intro h
    induction text using List.reverseRecOn generalizing n with
    | nil => cases h
    | append_singleton text c ih =>
      by_cases htext : text = []
      · subst htext
        rw [List.nil_append, hexNumber?_singleton] at h
        exact .digit (hexValue?_eq_some_iff.mp h)
      · rw [hexNumber?_concat htext] at h
        obtain ⟨front, hfront, h⟩ := Option.bind_eq_some_iff.mp h
        obtain ⟨value, hvalue, rfl⟩ := Option.map_eq_some_iff.mp h
        rw [Nat.mul_comm]
        exact (ih hfront).append (hexValue?_eq_some_iff.mp hvalue)
  · intro h
    induction h with
    | digit h => rw [hexNumber?_singleton, hexValue?_eq_some_iff.mpr h]
    | append hdigits h ih =>
      rw [hexNumber?_concat hdigits.ne_nil, ih, hexValue?_eq_some_iff.mpr h, Nat.mul_comm]
      rfl

-- ============================================================= decoration

/-- A text is its marks and what is left behind them. -/
theorem exists_dropMarks (text : List Char) :
    ∃ marks, text = (List.replicate marks ['0', 'x']).flatten ++ dropMarks text := by
  fun_induction dropMarks text with
  | case1 rest ih =>
    obtain ⟨marks, h⟩ := ih
    refine ⟨marks + 1, ?_⟩
    rw [List.replicate_succ, List.flatten_cons, List.append_assoc, ← h]
    rfl
  | case2 text _ => exact ⟨0, rfl⟩

theorem exists_dropPlus (text : List Char) :
    ∃ plus : Bool, text = (if plus then ['+'] else []) ++ dropPlus text := by
  unfold dropPlus
  split
  · exact ⟨true, rfl⟩
  · exact ⟨false, rfl⟩

theorem dropMarks_marks (marks : Nat) (text : List Char) :
    dropMarks ((List.replicate marks ['0', 'x']).flatten ++ text) = dropMarks text := by
  induction marks with
  | zero => rfl
  | succ marks ih =>
    rw [List.replicate_succ, List.flatten_cons, List.append_assoc]
    exact ih

theorem dropMarks_eq_self {text : List Char} (h : 'x' ∉ text) : dropMarks text = text := by
  unfold dropMarks
  split
  · simp at h
  · rfl

theorem dropPlus_eq_self {text : List Char} (h : '+' ∉ text) : dropPlus text = text := by
  unfold dropPlus
  split
  · simp at h
  · rfl

theorem not_mem_digits {digits : List Char} {n : Nat} (h : IsHexNumber digits n) {c : Char}
    (hc : c ∉ hexSigns) : c ∉ digits := fun hmem => hc (h.mem c hmem)

/-- Nothing of the digits is taken for decoration. -/
theorem Numeral.dropPlus_dropMarks (numeral : Numeral) {n : Nat}
    (h : IsHexNumber numeral.digits n) :
    dropPlus (dropMarks numeral.text) = numeral.digits := by
  have hx : 'x' ∉ numeral.digits := not_mem_digits h (by decide)
  have hplus : '+' ∉ numeral.digits := not_mem_digits h (by decide)
  unfold Numeral.text Numeral.decoration
  rw [List.append_assoc, dropMarks_marks]
  cases numeral.plus with
  | false =>
    rw [if_neg Bool.false_ne_true, List.nil_append, dropMarks_eq_self hx, dropPlus_eq_self hplus]
  | true =>
    rw [if_pos rfl, dropMarks_eq_self (by simpa using hx)]
    rfl

theorem word?_eq_some_iff {text : List Char} {word : UInt16} :
    word? text = some word
      ↔ ∃ numeral : Numeral, text = numeral.text ∧ IsHexNumber numeral.digits word.toNat := by
  constructor
  · intro h
    obtain ⟨marks, hmarks⟩ := exists_dropMarks text
    obtain ⟨plus, hplus⟩ := exists_dropPlus (dropMarks text)
    refine ⟨⟨marks, plus, dropPlus (dropMarks text)⟩, ?_, ?_⟩
    · unfold Numeral.text Numeral.decoration
      rw [List.append_assoc, ← hplus, ← hmarks]
    · unfold word? at h
      split at h
      · next n hnumber =>
        split at h
        · next hlt =>
          have hword : n.toUInt16.toNat = n := UInt16.toNat_ofNat_of_lt' hlt
          rw [← Option.some.inj h, hword]
          exact hexNumber?_eq_some_iff.mp hnumber
        · cases h
      · cases h
  · rintro ⟨numeral, rfl, hnumber⟩
    unfold word?
    rw [numeral.dropPlus_dropMarks hnumber, hexNumber?_eq_some_iff.mpr hnumber]
    exact (if_pos word.toNat_lt).trans (congrArg some UInt16.ofNat_toNat)

-- ================================================================== pairs

/-- What may stand in a number. -/
theorem Numeral.mem_text {numeral : Numeral} {n : Nat} (h : IsHexNumber numeral.digits n) :
    ∀ c ∈ numeral.text, c ∈ '0' :: 'x' :: '+' :: hexSigns := by
  intro c hc
  unfold Numeral.text Numeral.decoration at hc
  rcases List.mem_append.mp hc with hc | hc
  · rcases List.mem_append.mp hc with hc | hc
    · obtain ⟨mark, hmark, hc⟩ := List.mem_flatten.mp hc
      rw [(List.mem_replicate.mp hmark).2] at hc
      exact List.mem_append_left ('+' :: hexSigns) hc
    · cases hplus : numeral.plus with
      | false => simp [hplus] at hc
      | true =>
        rw [hplus, if_pos rfl, List.mem_singleton] at hc
        simp [hc]
  · have hsign := h.mem c hc
    simp [hsign]

theorem Numeral.colon_not_mem {numeral : Numeral} {n : Nat} (h : IsHexNumber numeral.digits n) :
    ':' ∉ numeral.text := fun hmem => absurd (Numeral.mem_text h ':' hmem) (by decide)

theorem ofText_eq_ok_iff {text : String} {id : UsbIdentity} :
    ofText text = .ok id ↔ IsWritten text.toList id := by
  unfold ofText IsWritten
  constructor
  · intro h
    split at h
    · cases h
    · next vendor product hsplit =>
      obtain ⟨-, htext⟩ := Text.splitOnce?_eq_some_iff.mp hsplit
      split at h
      · next v p hvendor hproduct =>
        cases h
        obtain ⟨first, rfl, hfirst⟩ := word?_eq_some_iff.mp hvendor
        obtain ⟨second, rfl, hsecond⟩ := word?_eq_some_iff.mp hproduct
        exact ⟨first, second, htext, hfirst, hsecond⟩
      · cases h
  · rintro ⟨vendor, product, htext, hvendor, hproduct⟩
    rw [Text.splitOnce?_eq_some_iff.mpr ⟨Numeral.colon_not_mem hvendor, htext⟩]
    dsimp only
    rw [word?_eq_some_iff.mpr ⟨vendor, rfl, hvendor⟩, word?_eq_some_iff.mpr ⟨product, rfl, hproduct⟩]

theorem ofText_eq_error_iff {text : String} {e : PrinterError} :
    ofText text = .error e ↔ (∀ id, ¬IsWritten text.toList id) ∧ e = NotPair.error ⟨text⟩ := by
  simp only [← ofText_eq_ok_iff]
  unfold ofText
  split
  · simp [eq_comm]
  · split
    · simp
    · simp [eq_comm]

/-- The numbers of a device are shown in four digits each, without any
decoration. -/
theorem isPlainlyWritten_text (id : UsbIdentity) : IsPlainlyWritten id.text.toList id := by
  have hdigits : ∀ word : UInt16, IsHexNumber (hexDigits 4 word.toNat) word.toNat := by
    intro word
    have h := isHexNumber_hexDigits 3 word.toNat
    have hsmall : word.toNat % 16 ^ (3 + 1) = word.toNat := Nat.mod_eq_of_lt word.toNat_lt
    rwa [hsmall] at h
  refine ⟨⟨0, false, hexDigits 4 id.vendorId.toNat⟩, ⟨0, false, hexDigits 4 id.productId.toNat⟩,
    ⟨Nat.zero_le 1, rfl⟩, ⟨Nat.zero_le 1, rfl⟩, ?_, hdigits _, hdigits _⟩
  unfold UsbIdentity.text
  rw [String.toList_ofList]
  rfl

theorem IsPlainlyWritten.isWritten {text : List Char} {id : UsbIdentity}
    (h : IsPlainlyWritten text id) : IsWritten text id := by
  obtain ⟨vendor, product, -, -, hwritten⟩ := h
  exact ⟨vendor, product, hwritten⟩

-- ======================================================= plain and decorated

/-- Two marks in a row. -/
def twoMarks : List Char := ['0', 'x', '0', 'x']

namespace Numeral

variable {numeral : Numeral} {n : Nat}

theorem plus_not_mem (hplain : numeral.Plain) (h : IsHexNumber numeral.digits n) :
    '+' ∉ numeral.text := by
  have hdigits : '+' ∉ numeral.digits := not_mem_digits h (by decide)
  intro hmem
  unfold Numeral.text Numeral.decoration at hmem
  rw [hplain.2, if_neg Bool.false_ne_true, List.append_nil] at hmem
  rcases List.mem_append.mp hmem with hmem | hmem
  · obtain ⟨mark, hmark, hc⟩ := List.mem_flatten.mp hmem
    rw [(List.mem_replicate.mp hmark).2] at hc
    exact absurd hc (by decide)
  · exact hdigits hmem

/-- There is one `x` in each mark, and none in the digits. -/
theorem count_x (h : IsHexNumber numeral.digits n) : numeral.text.count 'x' = numeral.marks := by
  have hdigits : numeral.digits.count 'x' = 0 :=
    List.count_eq_zero.mpr (not_mem_digits h (by decide))
  have hplus : (if numeral.plus then ['+'] else []).count 'x' = 0 := by
    cases numeral.plus <;> decide
  have hmarks : (List.replicate numeral.marks ['0', 'x']).flatten.count 'x' = numeral.marks := by
    simp [List.count_flatten]
  unfold Numeral.text Numeral.decoration
  rw [List.count_append, List.count_append, hdigits, hplus, hmarks]
  rfl

theorem not_twoMarks_infix (hplain : numeral.Plain) (h : IsHexNumber numeral.digits n) :
    ¬twoMarks <:+: numeral.text := by
  intro hinfix
  have hcount := hinfix.sublist.count_le 'x'
  rw [count_x h] at hcount
  have htwo : twoMarks.count 'x' = 2 := rfl
  have hone : numeral.marks ≤ 1 := hplain.1
  omega

theorem plain_of_not_mem (hplus : '+' ∉ numeral.text) (hmarks : ¬twoMarks <:+: numeral.text) :
    numeral.Plain := by
  constructor
  · by_contra hmany
    obtain ⟨more, hmore⟩ : ∃ more, numeral.marks = more + 2 := ⟨numeral.marks - 2, by omega⟩
    apply hmarks
    unfold Numeral.text Numeral.decoration
    rw [hmore, List.replicate_succ, List.replicate_succ]
    simp only [List.flatten_cons, List.append_assoc]
    exact (List.prefix_append twoMarks _).isInfix
  · apply Bool.eq_false_iff.mpr
    intro hsigned
    apply hplus
    unfold Numeral.text Numeral.decoration
    simp [hsigned]

end Numeral

/-- What is accepted has at most one mark before each number, unless there is
a plus sign in it or two marks in a row. -/
theorem isPlainlyWritten_iff {text : List Char} {id : UsbIdentity} :
    IsPlainlyWritten text id ↔ IsWritten text id ∧ '+' ∉ text ∧ ¬twoMarks <:+: text := by
  constructor
  · intro h
    refine ⟨h.isWritten, ?_⟩
    obtain ⟨vendor, product, hvendor, hproduct, rfl, hfirst, hsecond⟩ := h
    constructor
    · simp only [List.mem_append, List.mem_cons, not_or]
      exact ⟨Numeral.plus_not_mem hvendor hfirst, by decide, Numeral.plus_not_mem hproduct hsecond⟩
    · intro hinfix
      rcases Text.infix_of_infix_append_cons (by decide) hinfix with hinfix | hinfix
      · exact Numeral.not_twoMarks_infix hvendor hfirst hinfix
      · exact Numeral.not_twoMarks_infix hproduct hsecond hinfix
  · rintro ⟨⟨vendor, product, rfl, hnumbers⟩, hplus, hmarks⟩
    simp only [List.mem_append, List.mem_cons, not_or] at hplus
    obtain ⟨hfirst, -, hsecond⟩ := hplus
    refine ⟨vendor, product, Numeral.plain_of_not_mem hfirst fun hinfix => hmarks ?_,
      Numeral.plain_of_not_mem hsecond fun hinfix => hmarks ?_, rfl, hnumbers⟩
    · exact hinfix.trans (List.prefix_append _ _).isInfix
    · exact hinfix.trans ((List.suffix_cons ':' _).trans (List.suffix_append _ _)).isInfix

-- ============================================================= the result

/-- The texts that are accepted, and the devices that they name.

A text is accepted exactly if it is two hex numbers of at most FFFF with one
colon between them, each behind any number of marks and a plus sign or none;
the device has these numbers, and every other text is refused as no pair of
numbers. The accepted texts without a plus sign and without two marks in a
row are exactly those with at most one mark before each number. So these are
what a text is accepted for, unless it is accepted with a plus sign or with
two marks in a row. -/
theorem accepted_pairs (text : String) :
    (∀ id, ofText text = .ok id ↔ IsWritten text.toList id)
      ∧ (∀ e, ofText text = .error e
          ↔ (∀ id, ¬IsWritten text.toList id) ∧ e = NotPair.error ⟨text⟩)
      ∧ (∀ id, IsPlainlyWritten text.toList id
          ↔ ofText text = .ok id ∧ '+' ∉ text.toList ∧ ¬twoMarks <:+: text.toList)
      ∧ ((∀ id, ofText text = .ok id ↔ IsPlainlyWritten text.toList id)
          ↔ ∀ id, ofText text = .ok id → '+' ∉ text.toList ∧ ¬twoMarks <:+: text.toList) := by
  have hplain : ∀ id, IsPlainlyWritten text.toList id
      ↔ ofText text = .ok id ∧ '+' ∉ text.toList ∧ ¬twoMarks <:+: text.toList := by
    intro id
    rw [ofText_eq_ok_iff]
    exact isPlainlyWritten_iff
  refine ⟨fun _ => ofText_eq_ok_iff, fun _ => ofText_eq_error_iff, hplain, ?_⟩
  constructor
  · intro h id haccepted
    exact ((hplain id).mp ((h id).mp haccepted)).2
  · intro h id
    rw [hplain]
    exact ⟨fun haccepted => ⟨haccepted, h id haccepted⟩, fun h => h.1⟩

/-- Two marks before one number and a plus sign before the other are accepted
all the same. -/
theorem accepted_though_decorated :
    ofText "0x0x416:+5011" = .ok ⟨0x416, 0x5011⟩
      ∧ ∀ id, ¬IsPlainlyWritten "0x0x416:+5011".toList id := by
  refine ⟨by decide, fun id h => ?_⟩
  obtain ⟨-, hplus, -⟩ := isPlainlyWritten_iff.mp h
  exact hplus (by decide)

end UsbIdentity

end ReceiptPrinter
