/-
Addresses and the check for them.

The check cuts a text at its colons and looks at each part; the grammar says
what an address looks like as a whole. `isMac_iff` says that both accept the
same texts, whatever characters these hold. An address in upper case is an
address again, and stays as it is when it is put in upper case once more.
-/
import ReceiptPrinter.Device.Grammar
import ReceiptPrinter.Proofs.Device.Mac
import ReceiptPrinter.Proofs.Text.Split
import ReceiptPrinter.Text.Basic

namespace ReceiptPrinter

-- ============================================================= hex digits

/-- What holds of each sign in a row, sign by sign. -/
theorem forall_sign {P : Char → Prop} [DecidablePred P] {signs : List Char}
    (h : (signs.all fun c => P c) = true) : ∀ c ∈ signs, P c := fun c hc =>
  of_decide_eq_true (List.all_eq_true.mp h c hc)

theorem ascii_of_mem_hexSigns : ∀ c ∈ hexSigns, c.toNat < 128 :=
  forall_sign (by decide)

theorem isSome_hexValue? : ∀ c ∈ hexSigns, (hexValue? c).isSome = true :=
  forall_sign (by decide)

theorem hexValue?_isSome_iff {c : Char} : (hexValue? c).isSome = true ↔ c ∈ hexSigns := by
  constructor
  · intro h
    exact Text.ascii_forall (P := fun c => (hexValue? c).isSome = true → c ∈ hexSigns)
      (by decide) (toNat_lt_of_hexValue? h) h
  · exact isSome_hexValue? c

theorem toUpper_toUpper_of_sign : ∀ c ∈ ':' :: hexSigns, c.toUpper.toUpper = c.toUpper :=
  forall_sign (by decide)

theorem isBlank_of_sign : ∀ c ∈ ':' :: hexSigns, Text.isBlank c = false :=
  forall_sign (by decide)

theorem IsHexPair.mem {group : List Char} (h : IsHexPair group) : ∀ c ∈ group, c ∈ hexSigns := by
  obtain ⟨high, hhigh, low, hlow, rfl⟩ := h
  simp [hhigh, hlow]

theorem IsHexPair.length_eq {group : List Char} (h : IsHexPair group) : group.length = 2 := by
  obtain ⟨high, -, low, -, rfl⟩ := h
  rfl

theorem IsHexPair.colon_not_mem {group : List Char} (h : IsHexPair group) : ':' ∉ group :=
  fun hmem => absurd (h.mem ':' hmem) (by decide)

/-- The check of a single group. -/
theorem isHexPair_iff {group : List Char} :
    (group.length == 2 && group.all fun c => (hexValue? c).isSome) = true ↔ IsHexPair group := by
  rw [Bool.and_eq_true, beq_iff_eq, List.all_eq_true]
  constructor
  · intro h
    obtain ⟨hlength, hall⟩ := h
    obtain ⟨high, low, rfl⟩ : ∃ high low, group = [high, low] := by
      match group, hlength with
      | [high, low], _ => exact ⟨high, low, rfl⟩
    exact ⟨high, hexValue?_isSome_iff.mp (hall high (by simp)), low,
      hexValue?_isSome_iff.mp (hall low (by simp)), rfl⟩
  · intro h
    have hmem := h.mem
    obtain ⟨high, hhigh, low, hlow, rfl⟩ := h
    exact ⟨rfl, fun c hc => hexValue?_isSome_iff.mpr (hmem c hc)⟩

-- ============================================================== the check

theorem isMac_iff {text : List Char} : isMac text = true ↔ IsAddress text := by
  unfold isMac
  simp only [Bool.and_eq_true, beq_iff_eq, List.all_eq_true]
  constructor
  · intro h
    obtain ⟨hlength, hgroups⟩ := h
    refine ⟨Text.splitAt ':' text, hlength, fun group hgroup => ?_,
      (Text.intercalate_splitAt ':' text).symm⟩
    apply isHexPair_iff.mp
    simpa using hgroups group hgroup
  · intro h
    obtain ⟨groups, hlength, hgroups, rfl⟩ := h
    have hcolon : ∀ group ∈ groups, ':' ∉ group := fun group hgroup =>
      (hgroups group hgroup).colon_not_mem
    have hne : groups ≠ [] := by
      intro hnil
      simp [hnil] at hlength
    rw [Text.splitAt_intercalate hcolon hne]
    refine ⟨hlength, fun group hgroup => ?_⟩
    simpa using isHexPair_iff.mpr (hgroups group hgroup)

instance (text : List Char) : Decidable (IsAddress text) :=
  decidable_of_iff (isMac text = true) isMac_iff

theorem utf8_length_of_ascii {text : List Char} (h : ∀ c ∈ text, c.toNat < 128) :
    (utf8 text).length = text.length := by
  induction text with
  | nil => rfl
  | cons c rest ih =>
    have hfirst : (String.utf8EncodeChar c).length = 1 := by
      have hc : c.toNat < 128 := h c List.mem_cons_self
      rw [String.length_utf8EncodeChar, Char.utf8Size_eq_one_iff, UInt32.le_iff_toNat_le]
      exact Nat.le_of_lt_succ hc
    have hrest := ih fun d hd => h d (List.mem_cons_of_mem c hd)
    rw [utf8_cons, List.length_append, hfirst, hrest, List.length_cons]
    omega

theorem utf8_length_of_hex {group : List Char} (h : ∀ c ∈ group, c ∈ hexSigns) :
    (utf8 group).length = group.length :=
  utf8_length_of_ascii fun c hc => ascii_of_mem_hexSigns c (h c hc)

/-- Part by part, it makes no difference whether the length of a group is
counted in characters or in bytes. -/
theorem isAddress_iff_inBytes {text : List Char} :
    IsAddress text ↔ (Text.splitAt ':' text).length = 6
      ∧ ∀ group ∈ Text.splitAt ':' text, (utf8 group).length = 2 ∧ ∀ c ∈ group, c ∈ hexSigns := by
  rw [← isMac_iff]
  unfold isMac
  simp only [Bool.and_eq_true, beq_iff_eq, List.all_eq_true, hexValue?_isSome_iff]
  constructor
  · intro h
    obtain ⟨hlength, hgroups⟩ := h
    refine ⟨hlength, fun group hgroup => ?_⟩
    obtain ⟨htwo, hhex⟩ := hgroups group hgroup
    exact ⟨(utf8_length_of_hex hhex).trans htwo, hhex⟩
  · intro h
    obtain ⟨hlength, hgroups⟩ := h
    refine ⟨hlength, fun group hgroup => ?_⟩
    obtain ⟨htwo, hhex⟩ := hgroups group hgroup
    exact ⟨(utf8_length_of_hex hhex).symm.trans htwo, hhex⟩

-- ============================================================= upper case

theorem Text.upper_of_ascii {text : List Char} (h : ∀ c ∈ text, c.toNat < 128) :
    Text.upper text = text.map Char.toUpper := by
  induction text with
  | nil => rfl
  | cons c rest ih =>
    have hrest := ih fun d hd => h d (List.mem_cons_of_mem c hd)
    rw [Text.upper_cons, Text.upperChar_of_ascii (h c List.mem_cons_self), hrest]
    rfl

/-- What holds of a sign and its capital: of the first 128 characters, and of
any other one with itself, which is its capital here. -/
theorem forall_toUpper {P : Char → Char → Prop}
    (hascii : ∀ n : Fin 128, P (Char.ofNat n) (Char.ofNat n).toUpper) (hself : ∀ c, P c c)
    (c : Char) : P c c.toUpper := by
  by_cases hc : c.toNat < 128
  · exact Text.ascii_forall (P := fun c => P c c.toUpper) hascii hc
  · have hsame : c.toUpper = c := by
      unfold Char.toUpper
      rw [dif_neg]
      intro hletter
      have hhigh : c.toNat ≤ 122 := hletter.2
      omega
    rw [hsame]
    exact hself c

theorem isSome_hexValue?_toUpper (c : Char) :
    (hexValue? c.toUpper).isSome = (hexValue? c).isSome :=
  forall_toUpper (P := fun c capital => (hexValue? capital).isSome = (hexValue? c).isSome)
    (by decide) (fun _ => rfl) c

theorem toUpper_eq_colon_iff (c : Char) : c.toUpper = ':' ↔ c = ':' :=
  forall_toUpper (P := fun c capital => capital = ':' ↔ c = ':') (by decide) (fun _ => Iff.rfl) c

theorem colon_not_mem_upper {text : List Char} (hascii : ∀ c ∈ text, c.toNat < 128)
    (h : ':' ∉ text) : ':' ∉ Text.upper text := by
  rw [Text.upper_of_ascii hascii, List.mem_map]
  intro hmem
  obtain ⟨c, hc, hcolon⟩ := hmem
  rw [(toUpper_eq_colon_iff c).mp hcolon] at hc
  exact h hc

/-- The check makes no difference between letter cases. -/
theorem isMac_map_toUpper (text : List Char) : isMac (text.map Char.toUpper) = isMac text := by
  unfold isMac
  dsimp only
  rw [Text.splitAt_map fun c _ => toUpper_eq_colon_iff c, List.length_map, List.all_map]
  simp only [Function.comp_def, List.length_map, List.all_map, isSome_hexValue?_toUpper]

namespace IsAddress

variable {text : List Char}

theorem ascii (h : IsAddress text) : ∀ c ∈ text, c.toNat < 128 :=
  ascii_of_isMac (isMac_iff.mpr h)

/-- There is nothing but hex digits and colons in an address. -/
theorem mem {c : Char} (h : IsAddress text) (hc : c ∈ text) : c ∈ ':' :: hexSigns := by
  obtain ⟨groups, -, hgroups, rfl⟩ := h
  rcases Text.mem_intercalate hc with rfl | ⟨group, hgroup, hmem⟩
  · exact List.mem_cons_self
  · exact List.mem_cons_of_mem _ ((hgroups group hgroup).mem c hmem)

theorem not_isBlank (h : IsAddress text) : ∀ c ∈ text, Text.isBlank c = false := fun c hc =>
  isBlank_of_sign c (h.mem hc)

theorem ne_nil (h : IsAddress text) : text ≠ [] := by
  intro hnil
  subst hnil
  exact absurd h (by decide)

theorem upper_eq (h : IsAddress text) : Text.upper text = text.map Char.toUpper :=
  Text.upper_of_ascii h.ascii

theorem toUpper_iff : IsAddress (text.map Char.toUpper) ↔ IsAddress text := by
  rw [← isMac_iff, ← isMac_iff, isMac_map_toUpper]

/-- Letter case is all that may change. -/
theorem toUpper (h : IsAddress text) : IsAddress (text.map Char.toUpper) := toUpper_iff.mpr h

theorem upper (h : IsAddress text) : IsAddress (Text.upper text) := by
  rw [h.upper_eq]
  exact h.toUpper

theorem toUpper_toUpper (h : IsAddress text) :
    (text.map Char.toUpper).map Char.toUpper = text.map Char.toUpper := by
  rw [List.map_map]
  apply List.map_congr_left
  intro c hc
  exact toUpper_toUpper_of_sign c (h.mem hc)

-- ================================================================ the shape

theorem count_colon (h : IsAddress text) : text.count ':' = 5 := by
  have hparts := (isAddress_iff_inBytes.mp h).1
  rw [Text.length_splitAt] at hparts
  omega

theorem length_eq (h : IsAddress text) : text.length = 17 := by
  obtain ⟨groups, hlength, hgroups, rfl⟩ := h
  have hpair : ∀ group ∈ groups, group.length = 2 := fun group hgroup =>
    (hgroups group hgroup).length_eq
  have htext := Text.length_intercalate ':' hpair (List.ne_nil_of_length_eq_add_one hlength)
  omega

/-- There is a pair before the first colon, and a digit behind it. -/
theorem exists_first (h : IsAddress text) :
    ∃ pair digit rest, IsHexPair pair ∧ digit ∈ hexSigns ∧ text = pair ++ ':' :: digit :: rest := by
  obtain ⟨groups, hlength, hgroups, rfl⟩ := h
  match groups, hlength with
  | first :: second :: more, _ =>
    obtain ⟨high, hhigh, low, -, rfl⟩ := hgroups second (by simp)
    refine ⟨first, high, [':'].intercalate ([low] :: more), hgroups first (by simp), hhigh, ?_⟩
    rw [List.intercalate_cons_cons, List.intercalate_cons_cons_left, List.append_assoc]
    rfl

end IsAddress

-- ============================================================== identities

namespace BleIdentity

theorem parse_of_isAddress {text : String} (h : IsAddress text.toList) :
    parse text = .ok (ofText text) := by
  unfold parse
  rw [if_pos (isMac_iff.mpr h)]

theorem parse_of_not_isAddress {text : String} (h : ¬IsAddress text.toList) :
    parse text = .error (NotMac.error ⟨text⟩) := by
  unfold parse
  rw [if_neg (mt isMac_iff.mp h)]

theorem parse_eq_ok_iff {text : String} {id : BleIdentity} :
    parse text = .ok id ↔ IsAddress text.toList ∧ id = ofText text := by
  by_cases h : IsAddress text.toList
  · simp [parse_of_isAddress h, h, eq_comm]
  · simp [parse_of_not_isAddress h, h]

/-- An address is kept in upper case. -/
theorem mac_ofText {text : String} (h : IsAddress text.toList) :
    (ofText text).mac.toList = text.toList.map Char.toUpper := by
  unfold ofText
  rw [String.toList_ofList, h.upper_eq]

theorem isAddress_mac {text : String} (h : IsAddress text.toList) :
    IsAddress (ofText text).mac.toList := by
  rw [mac_ofText h]
  exact h.toUpper

/-- The address of a device names the same device. -/
theorem parse_mac {text : String} (h : IsAddress text.toList) :
    parse (ofText text).mac = .ok (ofText text) := by
  have hmac := isAddress_mac h
  have hsame : ofText (ofText text).mac = ofText text := by
    rw [ofText_eq_iff, hmac.upper_eq, mac_ofText h, h.upper_eq, h.toUpper_toUpper]
  rw [parse_of_isAddress hmac, hsame]

/-- Two addresses name the same device exactly if they agree but for letter
case. -/
theorem eq_iff_of_parse {a b : String} {A B : BleIdentity} (hA : parse a = .ok A)
    (hB : parse b = .ok B) : A = B ↔ Text.lowerAscii a.toList = Text.lowerAscii b.toList := by
  obtain ⟨ha, rfl⟩ := parse_eq_ok_iff.mp hA
  obtain ⟨hb, rfl⟩ := parse_eq_ok_iff.mp hB
  exact ofText_eq_iff_of_isMac (isMac_iff.mpr ha) (isMac_iff.mpr hb)

end BleIdentity

end ReceiptPrinter
