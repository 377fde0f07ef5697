/-
Decoding finds out what is base64.

`decode_eq_ok_iff`: a row of signs is decoded exactly if it is base64, and to
what it stands for. The last group, which is the lenient one, is treated on
its own (`lastGroup_eq_ok_iff`); the groups before it are strict. What is
written in any of its forms is base64 (`Reads.of_isForm`), and blanks do not
change that (`Spread.filter_eq`).
-/
import ReceiptPrinter.Base64.Grammar

namespace ReceiptPrinter.Base64

-- ================================================================== signs

theorem value?_sign {v : Nat} (hv : v < 64) : value? (sign v) = some v := by
  revert v
  decide

/-- All that holds of every byte can be checked byte by byte. -/
theorem forall_byte {P : UInt8 → Prop} (h : ∀ n < 256, P n.toUInt8) (b : UInt8) : P b := by
  have hb := h b.toNat b.toNat_lt
  rwa [Nat.toUInt8, UInt8.ofNat_toNat] at hb

/-- A sign stands for the value that is looked up. -/
theorem value?_eq_some_iff {b : UInt8} {v : Nat} : value? b = some v ↔ StandsFor b v := by
  constructor
  · have htable : ∀ b : UInt8, ∀ v ∈ value? b, v < 64 ∧ b = sign v := by
      apply forall_byte
      decide +kernel
    exact htable b v
  · rintro ⟨hv, rfl⟩
    exact value?_sign hv

theorem value?_padding : value? padding = none := rfl

theorem not_blank_of_value? {b : UInt8} {v : Nat} (h : value? b = some v) : isBlank b = false := by
  have htable : ∀ b : UInt8, ∀ v ∈ value? b, isBlank b = false := by
    apply forall_byte
    decide +kernel
  exact htable b v h

theorem valueAt_eq_ok_iff {b : UInt8} {offset v : Nat} :
    valueAt b offset = .ok v ↔ StandsFor b v := by
  rw [← value?_eq_some_iff]
  unfold valueAt
  cases value? b with
  | none => exact ⟨nofun, nofun⟩
  | some v' => simp

theorem sign_ne_padding {v : Nat} (hv : v < 64) : sign v ≠ padding := by
  intro heq
  have hvalue := value?_sign hv
  rw [heq, value?_padding] at hvalue
  cases hvalue

-- ========================================================= the last group

theorem bind_eq_ok_iff {ε α β : Type} {x : Except ε α} {f : α → Except ε β} {b : β} :
    x >>= f = .ok b ↔ ∃ a, x = .ok a ∧ f a = .ok b := by
  cases x with
  | error e => exact ⟨nofun, nofun⟩
  | ok a =>
    constructor
    · intro h
      exact ⟨a, rfl, h⟩
    · rintro ⟨a', heq, h⟩
      cases heq
      exact h

/-- Behind a padding sign there is only padding. -/
theorem lastValues_some_eq_ok_iff {offset index first : Nat} {group : Bytes} {values : List Nat}
    (hindex : 2 ≤ index) :
    lastValues offset index (some first) group = .ok values
      ↔ (∀ b ∈ group, b = padding) ∧ values = [] := by
  induction group generalizing index with
  | nil =>
    unfold lastValues
    simp only [List.not_mem_nil, false_implies, implies_true, true_and, Except.ok.injEq]
    exact eq_comm
  | cons b rest ih =>
    unfold lastValues
    by_cases hb : b = padding
    · rw [if_pos hb, if_neg (by omega), Option.some_or, ih (by omega)]
      simp [hb]
    · rw [if_neg hb]
      simp [hb]

/-- The last group consists of signs for values and of padding, which is
never one of the first two. -/
theorem lastValues_none_eq_ok_iff {offset index : Nat} {group : Bytes} {values : List Nat} :
    lastValues offset index none group = .ok values
      ↔ ∃ pads, group = values.map sign ++ List.replicate pads padding ∧ (∀ v ∈ values, v < 64)
        ∧ (pads = 0 ∨ 2 ≤ index + values.length) := by
  induction group generalizing index values with
  | nil =>
    unfold lastValues
    constructor
    · intro h
      cases h
      exact ⟨0, rfl, by simp, .inl rfl⟩
    · rintro ⟨pads, hgroup, -, -⟩
      obtain ⟨hvalues, -⟩ := List.append_eq_nil_iff.mp hgroup.symm
      rw [List.map_eq_nil_iff.mp hvalues]
  | cons b rest ih =>
    unfold lastValues
    by_cases hb : b = padding
    · -- the padding begins
      subst hb
      rw [if_pos rfl]
      constructor
      · intro h
        split at h
        · cases h
        · next hindex =>
          obtain ⟨hrest, rfl⟩ := (lastValues_some_eq_ok_iff (by omega)).mp h
          refine ⟨rest.length + 1, ?_, by simp, .inr (by omega)⟩
          rw [List.eq_replicate_of_mem hrest]
          simp [List.replicate_succ]
      · rintro ⟨pads, hgroup, hvalues, hpads⟩
        cases values with
        | cons v more =>
          -- a sign of a value would be no padding
          obtain ⟨heq, -⟩ := List.cons.inj hgroup
          exact absurd heq.symm (sign_ne_padding (hvalues v List.mem_cons_self))
        | nil =>
          have hlength := congrArg List.length hgroup
          simp at hlength hpads hgroup
          rw [if_neg (by omega), Option.none_or, lastValues_some_eq_ok_iff (by omega)]
          refine ⟨fun b hmem => List.eq_of_mem_replicate (n := pads) ?_, rfl⟩
          rw [← hgroup]
          exact List.mem_cons_of_mem _ hmem
    · -- another value
      rw [if_neg hb]
      simp only [bind_eq_ok_iff, valueAt_eq_ok_iff, ih]
      constructor
      · rintro ⟨v, ⟨hv, rfl⟩, more, ⟨pads, rfl, hmore, hpads⟩, hvalues⟩
        cases hvalues
        refine ⟨pads, rfl, ?_, ?_⟩
        · simpa using ⟨hv, hmore⟩
        · simp only [List.length_cons]
          omega
      · rintro ⟨pads, hgroup, hvalues, hpads⟩
        cases values with
        | nil =>
          -- then it would be padding
          refine absurd (List.eq_of_mem_replicate (n := pads) ?_) hb
          rw [List.map_nil, List.nil_append] at hgroup
          rw [← hgroup]
          exact List.mem_cons_self
        | cons v more =>
          obtain ⟨rfl, rfl⟩ := List.cons.inj hgroup
          simp only [List.mem_cons, forall_eq_or_imp] at hvalues
          simp only [List.length_cons] at hpads
          exact ⟨v, ⟨hvalues.1, rfl⟩, more, ⟨pads, rfl, hvalues.2, by omega⟩, rfl⟩

theorem lastGroup_eq_ok_iff {offset : Nat} {group content : Bytes} :
    lastGroup offset group = .ok content
      ↔ ∃ values pads, group = values.map sign ++ List.replicate pads padding
        ∧ (∀ v ∈ values, v < 64) ∧ 2 ≤ values.length ∧ content = groupBytes values := by
  unfold lastGroup
  simp only [bind_eq_ok_iff, lastValues_none_eq_ok_iff]
  constructor
  · rintro ⟨values, ⟨pads, hgroup, hvalues, -⟩, h⟩
    split at h
    · cases h
    · next hlength =>
      cases h
      exact ⟨values, pads, hgroup, hvalues, by omega, rfl⟩
  · rintro ⟨values, pads, hgroup, hvalues, hlength, rfl⟩
    refine ⟨values, ⟨pads, hgroup, hvalues, by omega⟩, ?_⟩
    rw [if_neg (by omega)]
    rfl

-- ================================================= what groups stand for

theorem groupBytes_one {t u : Nat} {x : UInt8} (ht : t < 64) (hu : u < 64) :
    groupBytes [t, u] = [x] ↔ (t * 64 + u) / 16 = x.toNat := by
  simp only [groupBytes, List.cons.injEq, and_true, ← UInt8.toNat_inj, Nat.toUInt8_eq,
    UInt8.toNat_ofNat']
  omega

theorem groupBytes_two {t u v : Nat} {x y : UInt8} (ht : t < 64) (hu : u < 64) (hv : v < 64) :
    groupBytes [t, u, v] = [x, y] ↔ ((t * 64 + u) * 64 + v) / 4 = x.toNat * 256 + y.toNat := by
  have hy := y.toNat_lt
  simp only [groupBytes, List.cons.injEq, and_true, ← UInt8.toNat_inj, Nat.toUInt8_eq,
    UInt8.toNat_ofNat']
  omega

theorem groupBytes_three {t u v w : Nat} {x y z : UInt8} (ht : t < 64) (hu : u < 64) (hv : v < 64)
    (hw : w < 64) :
    groupBytes [t, u, v, w] = [x, y, z]
      ↔ ((t * 64 + u) * 64 + v) * 64 + w = (x.toNat * 256 + y.toNat) * 256 + z.toNat := by
  have hy := y.toNat_lt
  have hz := z.toNat_lt
  simp only [groupBytes, List.cons.injEq, and_true, ← UInt8.toNat_inj, Nat.toUInt8_eq,
    UInt8.toNat_ofNat']
  omega

theorem Reads.eq_nil {content : Bytes} (h : Reads [] content) : content = [] := by
  cases h
  rfl

/-- The last group is decoded exactly if it is base64. -/
theorem lastGroup_reads {offset : Nat} {group content : Bytes} (hne : group ≠ [])
    (hlength : group.length ≤ 4) : lastGroup offset group = .ok content ↔ Reads group content := by
  rw [lastGroup_eq_ok_iff]
  constructor
  · rintro ⟨values, pads, rfl, hvalues, htwo, rfl⟩
    rw [List.length_append, List.length_map, List.length_replicate] at hlength
    match values, htwo with
    | [t, u], _ =>
      simp at hvalues hlength
      have hbits := (groupBytes_one hvalues.1 hvalues.2).mp rfl
      exact .one ⟨hvalues.1, rfl⟩ ⟨hvalues.2, rfl⟩ (by omega) hbits
    | [t, u, v], _ =>
      simp at hvalues hlength
      obtain ⟨ht, hu, hv⟩ := hvalues
      have hbits := (groupBytes_two ht hu hv).mp rfl
      exact .two ⟨ht, rfl⟩ ⟨hu, rfl⟩ ⟨hv, rfl⟩ (by omega) hbits
    | [t, u, v, w], _ =>
      simp at hvalues hlength
      obtain ⟨ht, hu, hv, hw⟩ := hvalues
      have hbits := (groupBytes_three ht hu hv hw).mp rfl
      obtain rfl : pads = 0 := by omega
      exact .group ⟨ht, rfl⟩ ⟨hu, rfl⟩ ⟨hv, rfl⟩ ⟨hw, rfl⟩ hbits .nil
    | _ :: _ :: _ :: _ :: _ :: _, _ =>
      simp at hlength
      omega
  · intro h
    cases h with
    | nil => exact absurd rfl hne
    | @one a b x t u pads ha hb hpads hbits =>
      obtain ⟨ht, rfl⟩ := ha
      obtain ⟨hu, rfl⟩ := hb
      refine ⟨[t, u], pads, rfl, by simp [ht, hu], Nat.le_refl 2, ?_⟩
      exact ((groupBytes_one ht hu).mpr hbits).symm
    | @two a b c x y t u v pads ha hb hc hpads hbits =>
      obtain ⟨ht, rfl⟩ := ha
      obtain ⟨hu, rfl⟩ := hb
      obtain ⟨hv, rfl⟩ := hc
      refine ⟨[t, u, v], pads, rfl, by simp [ht, hu, hv], by simp, ?_⟩
      exact ((groupBytes_two ht hu hv).mpr hbits).symm
    | @group a b c d x y z t u v w form more ha hb hc hd hbits hrest =>
      -- there is no room for anything behind the group
      have hform : form = [] := by
        apply List.length_eq_zero_iff.mp
        simp only [List.length_cons] at hlength
        omega
      subst hform
      cases hrest.eq_nil
      obtain ⟨ht, rfl⟩ := ha
      obtain ⟨hu, rfl⟩ := hb
      obtain ⟨hv, rfl⟩ := hc
      obtain ⟨hw, rfl⟩ := hd
      refine ⟨[t, u, v, w], 0, rfl, by simp [ht, hu, hv, hw], by simp, ?_⟩
      exact ((groupBytes_three ht hu hv hw).mpr hbits).symm

-- =============================================================== decoding

/-- Before the last group there are only groups of four signs. -/
theorem Reads.of_long {a b c d e : UInt8} {rest content : Bytes}
    (h : Reads (a :: b :: c :: d :: e :: rest) content) :
    ∃ t u v w more, StandsFor a t ∧ StandsFor b u ∧ StandsFor c v ∧ StandsFor d w
      ∧ Reads (e :: rest) more ∧ content = groupBytes [t, u, v, w] ++ more := by
  generalize hlong : a :: b :: c :: d :: e :: rest = form at h
  have hlength := congrArg List.length hlong
  cases h with
  | nil => cases hlong
  | one ha hb hpads hbits =>
    simp at hlength
    omega
  | two ha hb hc hpads hbits =>
    simp at hlength
    omega
  | group ha hb hc hd hbits hrest =>
    cases hlong
    refine ⟨_, _, _, _, _, ha, hb, hc, hd, hrest, ?_⟩
    rw [(groupBytes_three ha.1 hb.1 hc.1 hd.1).mpr hbits]
    rfl

theorem groupsFrom_eq_ok_iff {offset : Nat} {form content : Bytes} :
    groupsFrom offset form = .ok content ↔ Reads form content := by
  induction offset, form using groupsFrom.induct generalizing content with
  | case1 offset a b c d e rest ih =>
    rw [groupsFrom]
    simp only [bind_eq_ok_iff, valueAt_eq_ok_iff, ih]
    constructor
    · rintro ⟨t, ha, u, hb, v, hc, w, hd, more, hrest, h⟩
      cases h
      exact .group ha hb hc hd ((groupBytes_three ha.1 hb.1 hc.1 hd.1).mp rfl) hrest
    · intro h
      obtain ⟨t, u, v, w, more, ha, hb, hc, hd, hrest, rfl⟩ := h.of_long
      exact ⟨t, ha, u, hb, v, hc, w, hd, more, hrest, rfl⟩
  | case2 offset =>
    rw [groupsFrom]
    constructor
    · intro h
      cases h
      exact .nil
    · intro h
      rw [h.eq_nil]
  | case3 offset group hshort hne =>
    have hlength : group.length ≤ 4 := by
      match group, hshort with
      | [], _ | [_], _ | [_, _], _ | [_, _, _], _ | [_, _, _, _], _ => simp
      | a :: b :: c :: d :: e :: rest, hshort => exact (hshort a b c d e rest rfl).elim
    rw [groupsFrom]
    · exact lastGroup_reads hne hlength
    · exact hshort
    · exact hne

/-- What is base64 never has one sign too many. -/
theorem Reads.length_mod {form content : Bytes} (h : Reads form content) : form.length % 4 ≠ 1 := by
  induction h with
  | nil => decide
  | group ha hb hc hd hbits hrest ih =>
    simp only [List.length_cons]
    omega
  | two ha hb hc hpads hbits =>
    simp only [List.length_cons, List.length_replicate]
    omega
  | one ha hb hpads hbits =>
    simp only [List.length_cons, List.length_replicate]
    omega

/-- A row of signs is decoded exactly if it is base64, and to what it stands
for. -/
theorem decode_eq_ok_iff {form content : Bytes} :
    decode form = .ok content ↔ Reads form content := by
  unfold decode
  constructor
  · intro h
    split at h
    · cases h
    · exact groupsFrom_eq_ok_iff.mp h
  · intro h
    have hstray : strayEnd? form = none := by
      unfold strayEnd?
      rw [if_neg h.length_mod]
    rw [hstray]
    exact groupsFrom_eq_ok_iff.mpr h

-- ================================================================ writing

theorem standsFor_sign {v : Nat} (hv : v < 64) : StandsFor (sign v) v := ⟨hv, rfl⟩

/-- Every form of a byte string is base64 for it. -/
theorem Reads.of_isForm {content form : Bytes} (h : IsForm content form) : Reads form content := by
  obtain ⟨kept, rfl⟩ := h
  induction content using signs.induct with
  | case1 x y z rest ih =>
    have hx := x.toNat_lt
    have hy := y.toNat_lt
    have hz := z.toNat_lt
    have hpadding : paddingFor (x :: y :: z :: rest).length = paddingFor rest.length := by
      unfold paddingFor
      simp only [List.length_cons]
      congr 1
      omega
    rw [hpadding]
    exact .group (standsFor_sign (by omega)) (standsFor_sign (by omega))
      (standsFor_sign (by omega)) (standsFor_sign (by omega)) (by omega) ih
  | case2 x y =>
    have hx := x.toNat_lt
    have hy := y.toNat_lt
    have hpadding : (paddingFor [x, y].length).take kept = List.replicate (min kept 1) padding :=
      List.take_replicate
    rw [hpadding]
    exact .two (standsFor_sign (by omega)) (standsFor_sign (by omega)) (standsFor_sign (by omega))
      (Nat.min_le_right kept 1) (by omega)
  | case3 x =>
    have hx := x.toNat_lt
    have hpadding : (paddingFor [x].length).take kept = List.replicate (min kept 2) padding :=
      List.take_replicate
    rw [hpadding]
    exact .one (standsFor_sign (by omega)) (standsFor_sign (by omega)) (Nat.min_le_right kept 2)
      (by omega)
  | case4 =>
    have hpadding : (paddingFor ([] : Bytes).length).take kept = [] := List.take_nil
    rw [hpadding]
    exact .nil

-- ================================================================= blanks

/-- There is no blank in what is base64. -/
theorem Reads.not_blank {form content : Bytes} (h : Reads form content) :
    ∀ b ∈ form, isBlank b = false := by
  have hsign : ∀ {b : UInt8} {v : Nat}, StandsFor b v → isBlank b = false := fun hb =>
    not_blank_of_value? (value?_eq_some_iff.mpr hb)
  have hpadding : ∀ {pads : Nat}, ∀ b ∈ List.replicate pads padding, isBlank b = false := by
    intro pads b hmem
    rw [List.eq_of_mem_replicate hmem]
    rfl
  induction h with
  | nil => exact nofun
  | group ha hb hc hd hbits hrest ih =>
    simpa [hsign ha, hsign hb, hsign hc, hsign hd] using ih
  | two ha hb hc hpads hbits =>
    simpa [hsign ha, hsign hb, hsign hc] using hpadding
  | one ha hb hpads hbits =>
    simpa [hsign ha, hsign hb] using hpadding

/-- Without its blanks a text is what was spread out. -/
theorem Spread.filter_eq {form text : Bytes} (h : Spread form text)
    (hform : ∀ b ∈ form, isBlank b = false) : (text.filter fun b => !isBlank b) = form := by
  induction h with
  | nil => rfl
  | @sign b form text h ih =>
    rw [List.forall_mem_cons] at hform
    rw [List.filter_cons_of_pos (by rw [hform.1]; rfl), ih hform.2]
  | @blank b form text hblank h ih =>
    rw [List.filter_cons_of_neg (by rw [hblank]; exact Bool.false_ne_true), ih hform]

/-- A text is decoded exactly if it is base64, blanks aside. -/
theorem decodeText_eq_ok_iff {text : List Char} {content : Bytes} :
    decodeText text = .ok content ↔ Reads (compact text) content :=
  decode_eq_ok_iff

/-- What is written in any form, and spread out with blanks, is base64 for
what was written. -/
theorem Reads.of_spread {content form : Bytes} {text : List Char} (hform : IsForm content form)
    (h : Spread form (utf8 text)) : Reads (compact text) content := by
  have hreads := Reads.of_isForm hform
  unfold compact
  rwa [h.filter_eq hreads.not_blank]

example : (decodeText "SGV sbG8\r\n=".toList).toOption = some (utf8 "Hello".toList) := by decide

end ReceiptPrinter.Base64
