/-
Bluetooth addresses and letter case.

Upper case does not tell the letters A to Z from their small forms, so that
texts which differ in nothing else name the same device. For addresses the
converse holds as well: an address consists of hex digits and colons, and
their upper case differs from them in letter case only.
-/
import ReceiptPrinter.Device.Mac

namespace ReceiptPrinter

namespace Text

-- ============================================================ letter case

/-- What holds of each of the first 128 characters. -/
theorem ascii_forall {P : Char → Prop} (h : ∀ n : Fin 128, P (Char.ofNat n)) {c : Char}
    (hc : c.toNat < 128) : P c := by
  have hchar := h ⟨c.toNat, hc⟩
  rw [Char.ofNat_toNat] at hchar
  exact hchar

/-- The run of the letters a to z. -/
def smallLetters : Run := ⟨0x61, 0x7A, 1, 0x41⟩

/-- All characters in the tables but the letters a to z lie beyond the first
128 characters. -/
theorem tables_beyond_ascii :
    (∀ run ∈ capitalRanges.tail, 128 ≤ run.first) ∧ ∀ entry ∈ capitalGroups, 128 ≤ entry.1 := by
  have hranges : (capitalRanges.tail.all fun run => decide (128 ≤ run.first)) = true := by decide
  have hgroups : (capitalGroups.all fun entry => decide (128 ≤ entry.1)) = true := by decide
  simpa using And.intro hranges hgroups

theorem upperChar_of_ascii {c : Char} (hc : c.toNat < 128) : upperChar c = [c.toUpper] := by
  have hruns : capitalRanges.tail.findSome? (·.image? c.toNat) = none := by
    rw [List.findSome?_eq_none_iff]
    intro run hrun
    have hfirst := tables_beyond_ascii.1 run hrun
    unfold Run.image?
    rw [if_neg]
    omega
  have hgroups : capitalGroups.lookup c.toNat = none := by
    rw [List.lookup_eq_none_iff]
    intro entry hentry
    have hkey := tables_beyond_ascii.2 entry hentry
    simp only [bne_iff_ne]
    omega
  have hletters : (smallLetters.image? c.toNat).elim [c] (fun capital => [Char.ofNat capital])
      = [c.toUpper] :=
    ascii_forall (P := fun c => (smallLetters.image? c.toNat).elim [c]
      (fun capital => [Char.ofNat capital]) = [c.toUpper]) (by decide) hc
  rw [← hletters]
  have htable : capitalRanges = smallLetters :: capitalRanges.tail := rfl
  unfold upperChar
  rw [htable, List.findSome?_cons, hruns, hgroups]
  cases smallLetters.image? c.toNat <;> rfl

theorem lowerAscii_cons (c : Char) (rest : List Char) :
    lowerAscii (c :: rest) = lowerAscii [c] ++ lowerAscii rest := rfl

theorem lowerAscii_append (a b : List Char) :
    lowerAscii (a ++ b) = lowerAscii a ++ lowerAscii b := List.map_append

theorem upper_append (a b : List Char) : upper (a ++ b) = upper a ++ upper b :=
  List.flatMap_append

theorem upper_cons (c : Char) (rest : List Char) : upper (c :: rest) = upperChar c ++ upper rest :=
  rfl

/-- The letters A to Z have small letters whose upper case they are. -/
theorem upper_small {c : Char} (hc : c.toNat < 128) :
    ∃ d : Char, lowerAscii [c] = [d] ∧ d.toNat < 128 ∧ d.toUpper = c.toUpper :=
  ⟨if 'A' ≤ c ∧ c ≤ 'Z' then Char.ofNat (c.toNat + 32) else c, rfl,
    ascii_forall (P := fun c =>
      let d := if 'A' ≤ c ∧ c ≤ 'Z' then Char.ofNat (c.toNat + 32) else c
      d.toNat < 128 ∧ d.toUpper = c.toUpper) (by decide) hc⟩

/-- Upper case does not tell a letter from its small form. -/
theorem upper_lowerAscii_singleton (c : Char) : upper (lowerAscii [c]) = upperChar c := by
  have hsingleton : ∀ c, upper [c] = upperChar c := List.flatMap_singleton upperChar
  by_cases hletter : 'A' ≤ c ∧ c ≤ 'Z'
  · have hascii : c.toNat < 128 := Nat.lt_of_le_of_lt hletter.2 (by decide)
    obtain ⟨d, hlower, hd, hupper⟩ := upper_small hascii
    rw [hlower, hsingleton, upperChar_of_ascii hd, upperChar_of_ascii hascii, hupper]
  · have hsame : lowerAscii [c] = [c] := congrArg (· :: []) (if_neg hletter)
    rw [hsame, hsingleton]

theorem upper_lowerAscii (text : List Char) : upper (lowerAscii text) = upper text := by
  induction text with
  | nil => rfl
  | cons c rest ih =>
    rw [lowerAscii_cons, upper_append, upper_cons, upper_lowerAscii_singleton, ih]

/-- The upper case of the first 128 characters differs from them in letter
case only. -/
theorem lowerAscii_upper {text : List Char} (h : ∀ c ∈ text, c.toNat < 128) :
    lowerAscii (upper text) = lowerAscii text := by
  induction text with
  | nil => rfl
  | cons c rest ih =>
    have hascii := h c List.mem_cons_self
    have hfirst : lowerAscii [c.toUpper] = lowerAscii [c] :=
      ascii_forall (P := fun c => lowerAscii [c.toUpper] = lowerAscii [c]) (by decide)
        hascii
    have hrest := ih fun d hd => h d (List.mem_cons_of_mem c hd)
    rw [upper_cons, upperChar_of_ascii hascii, lowerAscii_append, lowerAscii_cons c, hfirst, hrest]

/-- Texts of the first 128 characters agree in upper case exactly if they
agree but for letter case. -/
theorem upper_eq_iff {a b : List Char} (ha : ∀ c ∈ a, c.toNat < 128)
    (hb : ∀ c ∈ b, c.toNat < 128) : upper a = upper b ↔ lowerAscii a = lowerAscii b := by
  constructor
  · intro h
    rw [← lowerAscii_upper ha, ← lowerAscii_upper hb, h]
  · intro h
    rw [← upper_lowerAscii a, ← upper_lowerAscii b, h]

-- ============================================================== the parts

/-- The parts of a text hold all its characters but the marks. -/
theorem mem_splitAt (mark : Char) {c : Char} {text : List Char} (hmem : c ∈ text) :
    c = mark ∨ ∃ part ∈ splitAt mark text, c ∈ part := by
  induction text with
  | nil => cases hmem
  | cons first rest ih =>
    unfold splitAt
    by_cases hmark : first = mark
    · rw [if_pos hmark]
      rcases List.mem_cons.mp hmem with rfl | hrest
      · exact .inl hmark
      · rcases ih hrest with h | ⟨part, hpart, hc⟩
        · exact .inl h
        · exact .inr ⟨part, List.mem_cons_of_mem _ hpart, hc⟩
    · rw [if_neg hmark]
      cases hparts : splitAt mark rest with
      | nil =>
        rw [hparts] at ih
        rcases List.mem_cons.mp hmem with rfl | hrest
        · exact .inr ⟨[c], List.mem_singleton_self _, List.mem_singleton_self _⟩
        · rcases ih hrest with h | ⟨part, hpart, -⟩
          · exact .inl h
          · cases hpart
      | cons head parts =>
        rw [hparts] at ih
        rcases List.mem_cons.mp hmem with rfl | hrest
        · exact .inr ⟨c :: head, List.mem_cons_self, List.mem_cons_self⟩
        · rcases ih hrest with h | ⟨part, hpart, hc⟩
          · exact .inl h
          · -- the part before the first mark has become longer
            rcases List.mem_cons.mp hpart with rfl | hpart
            · exact .inr ⟨first :: part, List.mem_cons_self, List.mem_cons_of_mem first hc⟩
            · exact .inr ⟨part, List.mem_cons_of_mem _ hpart, hc⟩

end Text

/-- A hex digit is one of the first 128 characters. -/
theorem toNat_lt_of_hexValue? {c : Char} (h : (hexValue? c).isSome = true) : c.toNat < 128 := by
  unfold hexValue? at h
  split at h
  · next hdigit =>
    have hhigh : c.toNat ≤ 57 := hdigit.2
    omega
  · split at h
    · next hsmall =>
      have hhigh : c.toNat ≤ 102 := hsmall.2
      omega
    · split at h
      · next hcapital =>
        have hhigh : c.toNat ≤ 70 := hcapital.2
        omega
      · cases h

theorem ascii_of_isMac {text : List Char} (h : isMac text = true) :
    ∀ c ∈ text, c.toNat < 128 := by
  intro c hmem
  unfold isMac at h
  obtain ⟨-, hgroups⟩ := Bool.and_eq_true_iff.mp h
  rcases Text.mem_splitAt ':' hmem with rfl | ⟨group, hgroup, hc⟩
  · decide
  · obtain ⟨-, hdigits⟩ := Bool.and_eq_true_iff.mp (List.all_eq_true.mp hgroups group hgroup)
    exact toNat_lt_of_hexValue? (List.all_eq_true.mp hdigits c hc)

namespace BleIdentity

theorem ofText_eq_iff {a b : String} :
    ofText a = ofText b ↔ Text.upper a.toList = Text.upper b.toList := by
  unfold ofText
  rw [BleIdentity.mk.injEq, String.ofList_inj]

/-- Texts that differ in the case of the letters A to Z name the same
device. -/
theorem ofText_eq_of_lowerAscii_eq {a b : String}
    (h : Text.lowerAscii a.toList = Text.lowerAscii b.toList) : ofText a = ofText b := by
  rw [ofText_eq_iff, ← Text.upper_lowerAscii a.toList, ← Text.upper_lowerAscii b.toList, h]

/-- Addresses name the same device exactly if they agree but for letter
case. -/
theorem ofText_eq_iff_of_isMac {a b : String} (ha : isMac a.toList = true)
    (hb : isMac b.toList = true) :
    ofText a = ofText b ↔ Text.lowerAscii a.toList = Text.lowerAscii b.toList := by
  rw [ofText_eq_iff]
  exact Text.upper_eq_iff (ascii_of_isMac ha) (ascii_of_isMac hb)

end BleIdentity

end ReceiptPrinter
