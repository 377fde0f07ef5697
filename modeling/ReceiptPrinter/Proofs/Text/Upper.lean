/-
Upper case once is upper case for good.

No letter that the case tables lead to is in the tables itself. The tables
hold well over a thousand letters, so the two sets are compared as numbers
with one bit for each of their elements: they have no element in common if
the numbers have no bit in common.
-/
import ReceiptPrinter.Proofs.Device.Mac

namespace ReceiptPrinter.Text

-- =================================================================== sets

/-- A set of numbers as a number, with a bit for each element. -/
def bits (numbers : List Nat) : Nat := numbers.foldr (fun n set => set ||| 1 <<< n) 0

theorem testBit_bits {numbers : List Nat} {n : Nat} :
    (bits numbers).testBit n = true ↔ n ∈ numbers := by
  unfold bits
  induction numbers with
  | nil => simp
  | cons first rest ih =>
    have hbit : (1 <<< first).testBit n = true ↔ n = first := by
      rw [Nat.one_shiftLeft, Nat.testBit_two_pow, decide_eq_true_iff, eq_comm]
    rw [List.foldr_cons, Nat.testBit_or, Bool.or_eq_true, ih, hbit, List.mem_cons, or_comm]

theorem disjoint_of_bits {a b : List Nat} (h : bits a &&& bits b = 0) : ∀ n ∈ a, n ∉ b := by
  intro n ha hb
  have hboth : (bits a &&& bits b).testBit n = true := by
    rw [Nat.testBit_and, testBit_bits.mpr ha, testBit_bits.mpr hb]
    rfl
  rw [h, Nat.zero_testBit] at hboth
  cases hboth

-- ================================================================= tables

namespace Run

/-- How far the characters of a run lie behind its first one. -/
def distances (r : Run) : List Nat :=
  (List.range ((r.last - r.first) / r.step + 1)).map (r.step * ·)

def letters (r : Run) : List Nat := r.distances.map (r.first + ·)

def capitals (r : Run) : List Nat := r.distances.map (r.image + ·)

theorem mem_of_image? {r : Run} {c capital : Nat} (h : r.image? c = some capital) :
    c ∈ r.letters ∧ capital ∈ r.capitals := by
  unfold image? at h
  split at h
  · next hc =>
    obtain ⟨hfirst, hlast, hstep⟩ := hc
    have hdistance : c - r.first ∈ r.distances := by
      apply List.mem_map.mpr
      refine ⟨(c - r.first) / r.step, List.mem_range.mpr (Nat.lt_succ_of_le ?_),
        Nat.mul_div_cancel' (Nat.dvd_of_mod_eq_zero hstep)⟩
      exact Nat.div_le_div_right (Nat.sub_le_sub_right hlast r.first)
    cases h
    exact ⟨List.mem_map.mpr ⟨_, hdistance, by omega⟩, List.mem_map.mpr ⟨_, hdistance, rfl⟩⟩
  · cases h

end Run

/-- The characters that the tables change. -/
def letters : List Nat := capitalRanges.flatMap Run.letters ++ capitalGroups.map Prod.fst

/-- The characters that the tables lead to. -/
def capitals : List Nat := capitalRanges.flatMap Run.capitals ++ capitalGroups.flatMap Prod.snd

theorem not_mem_letters_of_mem_capitals : ∀ n ∈ capitals, n ∉ letters :=
  disjoint_of_bits (by decide +kernel)

theorem upperChar_of_not_mem_letters {c : Char} (h : c.toNat ∉ letters) : upperChar c = [c] := by
  have hruns : capitalRanges.findSome? (·.image? c.toNat) = none := by
    rw [List.findSome?_eq_none_iff]
    intro run hrun
    apply Option.eq_none_iff_forall_not_mem.mpr
    intro capital himage
    apply h
    apply List.mem_append_left
    exact List.mem_flatMap.mpr ⟨run, hrun, (Run.mem_of_image? himage).1⟩
  have hgroups : capitalGroups.lookup c.toNat = none := by
    rw [List.lookup_eq_none_iff]
    intro group hgroup
    rw [bne_iff_ne]
    intro heq
    apply h
    apply List.mem_append_right
    exact List.mem_map.mpr ⟨group, hgroup, heq.symm⟩
  unfold upperChar
  rw [hruns, hgroups]

/-- An upper case holds a character that the tables lead to, or the character
itself if the tables do not change it. -/
theorem mem_upperChar {c capital : Char} (h : capital ∈ upperChar c) :
    (∃ n ∈ capitals, capital = Char.ofNat n) ∨ upperChar capital = [capital] := by
  unfold upperChar at h
  split at h
  · next n hrun =>
    obtain ⟨run, hmem, himage⟩ := List.exists_of_findSome?_eq_some hrun
    refine .inl ⟨n, List.mem_append_left _ ?_, List.mem_singleton.mp h⟩
    exact List.mem_flatMap.mpr ⟨run, hmem, (Run.mem_of_image? himage).2⟩
  · next hruns =>
    split at h
    · next group hgroup =>
      obtain ⟨n, hn, rfl⟩ := List.mem_map.mp h
      obtain ⟨before, after, htable, -⟩ := List.lookup_eq_some_iff.mp hgroup
      refine .inl ⟨n, List.mem_append_right _ ?_, rfl⟩
      exact List.mem_flatMap.mpr ⟨(c.toNat, group), by rw [htable]; simp, hn⟩
    · next hgroups =>
      refine .inr ?_
      rw [List.mem_singleton.mp h]
      unfold upperChar
      rw [hruns, hgroups]

/-- A number that is no character stands for the first one. -/
theorem toNat_ofNat (n : Nat) : (Char.ofNat n).toNat = n ∨ (Char.ofNat n).toNat = 0 := by
  unfold Char.ofNat
  by_cases h : n.isValidChar
  · rw [dif_pos h]
    exact .inl rfl
  · rw [dif_neg h]
    exact .inr rfl

theorem upperChar_of_mem {c capital : Char} (h : capital ∈ upperChar c) :
    upperChar capital = [capital] := by
  rcases mem_upperChar h with ⟨n, hn, rfl⟩ | h
  · apply upperChar_of_not_mem_letters
    rcases toNat_ofNat n with hn' | hzero
    · rw [hn']
      exact not_mem_letters_of_mem_capitals n hn
    · rw [hzero]
      decide +kernel
  · exact h

-- =================================================================== texts

theorem upper_eq_self {text : List Char} (h : ∀ c ∈ text, upperChar c = [c]) :
    upper text = text := by
  induction text with
  | nil => rfl
  | cons c rest ih =>
    rw [upper_cons, h c List.mem_cons_self, ih fun d hd => h d (List.mem_cons_of_mem c hd)]
    rfl

/-- A text in upper case stays as it is in upper case. -/
theorem upper_upper (text : List Char) : upper (upper text) = upper text := by
  apply upper_eq_self
  intro capital hcapital
  obtain ⟨c, -, hmem⟩ := List.mem_flatMap.mp hcapital
  exact upperChar_of_mem hmem

end ReceiptPrinter.Text
