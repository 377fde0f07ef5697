/-
How far the arithmetic of doubles can be off.

A double that holds a positive number in range has a significand of 53 bits.
Words below 2^53 are such doubles, and `Holds.mul` and `Holds.div` say what a
product and a quotient of two of them hold: a number that exceeds the exact
one by one part in 2^52 at most. That much is enough for the one thing the
program computes in doubles before it counts on the result, a side in
proportion (`scaled_le`): a part of a bound of 50 bits is off by less than
one, and what is left when the fraction is dropped is not above the bound.
Rounding to the nearest even neighbour is opened once, in
`roundWithAccuracy_eq`; the rest speaks of values only.
-/
import Mathlib.Algebra.Order.Field.Power
import Mathlib.Algebra.Order.Field.Rat
import Mathlib.Tactic.FieldSimp
import Mathlib.Tactic.Linarith
import Mathlib.Tactic.NormNum
import Mathlib.Tactic.Ring

namespace ReceiptPrinter.Double

open Float.Model Float.Model.UnpackedFloat

/-- A significand of 53 bits. -/
def Full (m : Nat) : Prop := 2 ^ 52 ≤ m ∧ m < 2 ^ 53

/-- The number with a given significand and exponent. -/
def value (m : Nat) (e : Int) : ℚ := m * 2 ^ e

/-- The most by which rounding raises a number, in proportion to it. -/
def slack : ℚ := 1 / 2 ^ 52

theorem one_add_slack_nonneg : 0 ≤ 1 + slack := by
  unfold slack
  norm_num

theorem value_mul (m n : Nat) (e f : Int) : value (m * n) (e + f) = value m e * value n f := by
  unfold value
  rw [Nat.cast_mul, zpow_add₀ two_ne_zero]
  ring

/-- Dropping what is left of a division only lowers the quotient. -/
theorem value_div_le (m : Nat) (e : Int) {n : Nat} (f : Int) (hn : 0 < n) :
    value (m * 2 ^ 53 / n) (e - f - 53) ≤ value m e / value n f := by
  have hpositive : (0 : ℚ) < n := Nat.cast_pos.mpr hn
  have hquotient : ((m * 2 ^ 53 / n : Nat) : ℚ) * n ≤ m * 2 ^ 53 := by
    exact_mod_cast Nat.div_mul_le_self (m * 2 ^ 53) n
  have hvalue : value m e / value n f = m * 2 ^ 53 / n * 2 ^ (e - f - 53) := by
    unfold value
    rw [sub_sub, zpow_sub₀ two_ne_zero, zpow_add₀ two_ne_zero]
    have : (2 : ℚ) ^ f ≠ 0 := zpow_ne_zero f two_ne_zero
    field_simp
  rw [hvalue]
  unfold value
  apply mul_le_mul_of_nonneg_right _ (zpow_nonneg zero_le_two _)
  rwa [le_div_iff₀ hpositive]

theorem value_shiftLeft (n k : Nat) : value (n <<< k) (-(k : Int)) = n := by
  unfold value
  rw [Nat.shiftLeft_eq, Nat.cast_mul, Nat.cast_pow, Nat.cast_ofNat, zpow_neg, zpow_natCast,
    mul_assoc, mul_inv_cancel₀ (pow_ne_zero k two_ne_zero), mul_one]

-- ========================================================== significands

namespace Full

variable {m : Nat}

theorem log2_eq (h : Full m) : m.log2 = 52 :=
  (Nat.log2_eq_iff (Nat.ne_of_gt (Nat.lt_of_lt_of_le (Nat.two_pow_pos 52) h.1))).mpr h

theorem pos (h : Full m) : 0 < m := Nat.lt_of_lt_of_le (Nat.two_pow_pos 52) h.1

/-- The first 53 bits of a number. -/
theorem div_two_pow (hm : 52 ≤ m.log2) : Full (m / 2 ^ (m.log2 - 52)) := by
  have hsplit : ∀ n, 2 ^ n * 2 ^ (m.log2 - 52) = 2 ^ (n + (m.log2 - 52)) :=
    fun n => (Nat.pow_add _ _ _).symm
  have hne : m ≠ 0 := by
    rintro rfl
    exact absurd hm (by decide)
  constructor
  · rw [Nat.le_div_iff_mul_le (Nat.two_pow_pos _), hsplit, Nat.add_sub_cancel' hm]
    exact Nat.log2_self_le hne
  · rw [Nat.div_lt_iff_lt_mul (Nat.two_pow_pos _), hsplit,
      show 53 + (m.log2 - 52) = m.log2 + 1 by omega]
    exact Nat.lt_log2_self

/-- The bits of a number, filled up with zeros. -/
theorem shiftLeft {n : Nat} (hpos : 0 < n) (hn : n.log2 ≤ 52) : Full (n <<< (52 - n.log2)) := by
  rw [Nat.shiftLeft_eq]
  have hsplit : ∀ k, 2 ^ (n.log2 + k) * 2 ^ (52 - n.log2) = 2 ^ (52 + k) := fun k => by
    rw [← Nat.pow_add]
    congr 1
    omega
  constructor
  · rw [← hsplit 0]
    exact Nat.mul_le_mul_right _ (Nat.log2_self_le (Nat.ne_of_gt hpos))
  · rw [← hsplit 1]
    exact Nat.mul_lt_mul_of_pos_right Nat.lt_log2_self (Nat.two_pow_pos _)

end Full

-- ================================================================ shifting

/-- Shifting drops the low bits, whatever is remembered of them. -/
theorem mantissa_shiftRight (em : ExtendedMantissa) (k : Nat) :
    (em >>> k).mantissa = em.mantissa / 2 ^ k := by
  induction k with
  | zero => exact (Nat.div_one _).symm
  | succ k ih =>
    show (em >>> k).mantissa / 2 = _
    rw [ih, Nat.div_div_eq_div_mul, Nat.pow_succ]

theorem mantissa_ofMantissaAndAccuracy (m : Nat) (accuracy : Accuracy) :
    (ExtendedMantissa.ofMantissaAndAccuracy m accuracy).mantissa = m := by
  rcases accuracy with _ | (_ | _ | _) <;> rfl

/-- Rounding keeps a significand or takes the next one. -/
theorem roundedMantissa_bounds (em : ExtendedMantissa) :
    em.mantissa ≤ em.roundedMantissa ∧ em.roundedMantissa ≤ em.mantissa + 1 := by
  obtain ⟨m, round, sticky⟩ := em
  unfold ExtendedMantissa.roundedMantissa
  cases round <;> cases sticky <;>
    simp only [ExtendedMantissa.accuracy, Accuracy.roundToNearestEven] <;> omega

/-- The exponent at which 53 bits of a number remain. -/
theorem targetExponent_eq {total : Int} (h : -1021 ≤ total) :
    Format.binary64.targetExponent total = total - 53 := by
  unfold Format.targetExponent Format.minExponent Format.mantissaBits
  norm_num
  omega

/-- A significand of at least 53 bits is cut down to 53 bits. -/
theorem shiftToTargetExponent_eq {m : Nat} {e : Int} (accuracy : Accuracy) (hm : 52 ≤ m.log2)
    (he : -1000 ≤ e) :
    shiftToTargetExponent Format.binary64 m e accuracy
      = (ExtendedMantissa.ofMantissaAndAccuracy m accuracy >>> (m.log2 - 52),
        e + (m.log2 - 52 : Nat)) := by
  have htarget : Format.binary64.targetExponent (totalExponent m e)
      = e + (m.log2 - 52 : Nat) := by
    unfold totalExponent
    rw [targetExponent_eq (by omega)]
    omega
  unfold shiftToTargetExponent shiftToExponent
  rw [htarget]
  simp only [add_sub_cancel_left, Int.toNat_natCast]

-- ================================================================ rounding

theorem finite_eq {sign sign' : Sign} {m m' : Nat} {e e' : Int} {hpos : 0 < m} {hpos' : 0 < m'}
    (hsign : sign = sign') (hm : m = m') (he : e = e') :
    UnpackedFloat.finite sign m e hpos = .finite sign' m' e' hpos' := by
  subst hsign hm he
  rfl

/-- What rounding a significand of many bits makes of it. -/
structure Rounded (m : Nat) (e : Int) (m' : Nat) (e' : Int) : Prop where
  full : Full m'
  le_exponent : e ≤ e'
  exponent_le : e' ≤ e + (m.log2 - 52 : Nat) + 1
  value_le : value m' e' ≤ value m e * (1 + slack)

/-- A significand that became too long by rounding is a power of two. -/
theorem carry {r : Nat} (hlow : 2 ^ 52 ≤ r) (hhigh : r ≤ 2 ^ 53) :
    ∃ j ≤ 1, r.log2 - 52 = j ∧ r / 2 ^ j * 2 ^ j = r ∧ Full (r / 2 ^ j) := by
  rcases Nat.lt_or_eq_of_le hhigh with hlt | rfl
  · have hfull : Full r := ⟨hlow, hlt⟩
    refine ⟨0, by omega, by rw [hfull.log2_eq], ?_, ?_⟩
    · rw [Nat.pow_zero, Nat.div_one, Nat.mul_one]
    · rwa [Nat.pow_zero, Nat.div_one]
  · exact ⟨1, by omega, by decide, by decide, by decide, by decide⟩

theorem value_le_of_round {m k r : Nat} {e : Int} (hm : m.log2 = 52 + k) (hr : r ≤ m / 2 ^ k + 1) :
    value r (e + k) ≤ value m e * (1 + slack) := by
  have hne : m ≠ 0 := by
    rintro rfl
    rw [Nat.log2_zero] at hm
    omega
  have hbits : 2 ^ 52 * 2 ^ k ≤ m := by
    rw [← Nat.pow_add, ← hm]
    exact Nat.log2_self_le hne
  have hcut : (m / 2 ^ k + 1) * 2 ^ k ≤ m + 2 ^ k := by
    rw [Nat.succ_mul]
    exact Nat.add_le_add_right (Nat.div_mul_le_self m _) _
  have hrounded : 2 ^ 52 * (r * 2 ^ k) ≤ (2 ^ 52 + 1) * m := by
    have := Nat.mul_le_mul_right (2 ^ k) hr
    omega
  have hcast : (2 : ℚ) ^ 52 * (r * 2 ^ k) ≤ (2 ^ 52 + 1) * m := by exact_mod_cast hrounded
  have hscaled : (r : ℚ) * 2 ^ k ≤ m * (1 + slack) := by
    unfold slack
    linarith
  unfold value
  rw [zpow_add₀ two_ne_zero, zpow_natCast]
  calc (r : ℚ) * (2 ^ e * 2 ^ k) = r * 2 ^ k * 2 ^ e := by ring
    _ ≤ m * (1 + slack) * 2 ^ e :=
      mul_le_mul_of_nonneg_right hscaled (zpow_nonneg zero_le_two e)
    _ = m * 2 ^ e * (1 + slack) := by ring

theorem roundWithAccuracy_eq {m : Nat} {e : Int} (sign : Sign) (accuracy : Accuracy)
    (hm : 52 ≤ m.log2) (he : -1000 ≤ e) :
    ∃ m' e' hpos, roundWithAccuracy Format.binary64 sign m e accuracy = .finite sign m' e' hpos
      ∧ Rounded m e m' e' := by
  obtain ⟨k, hk⟩ := Nat.exists_eq_add_of_le hm
  have hshift := shiftToTargetExponent_eq accuracy hm he
  rw [show m.log2 - 52 = k by omega] at hshift
  have hcut : Full (m / 2 ^ k) := by
    have := Full.div_two_pow hm
    rwa [show m.log2 - 52 = k by omega] at this
  have hround := roundedMantissa_bounds
    (ExtendedMantissa.ofMantissaAndAccuracy m accuracy >>> k)
  rw [mantissa_shiftRight, mantissa_ofMantissaAndAccuracy] at hround
  generalize hr : (ExtendedMantissa.ofMantissaAndAccuracy m accuracy >>> k).roundedMantissa = r
    at hround
  obtain ⟨j, hj, hlog, hexact, hfull⟩ :=
    carry (Nat.le_trans hcut.1 hround.1) (Nat.le_trans hround.2 hcut.2)
  have hlong : 52 ≤ r.log2 := by
    have hne : r ≠ 0 := by
      have := hcut.pos
      omega
    exact (Nat.le_log2 hne).mpr (Nat.le_trans hcut.1 hround.1)
  refine ⟨r / 2 ^ j, e + k + j, hfull.pos, ?_, hfull, by omega, by omega, ?_⟩
  · unfold roundWithAccuracy
    rw [hshift]
    dsimp only
    rw [hr, shiftToTargetExponent_eq .exact hlong (by omega), hlog]
    dsimp only
    have hmantissa : (ExtendedMantissa.ofMantissaAndAccuracy r .exact >>> j).mantissa
        = r / 2 ^ j := by
      rw [mantissa_shiftRight, mantissa_ofMantissaAndAccuracy]
    rw [dif_neg (Nat.ne_of_gt (hmantissa ▸ hfull.pos))]
    exact finite_eq rfl hmantissa rfl
  · have hvalue : value (r / 2 ^ j) (e + k + j) = value r (e + k) := by
      unfold value
      rw [zpow_add₀ two_ne_zero, zpow_natCast, ← mul_assoc, mul_right_comm]
      congr 1
      exact_mod_cast hexact
    rw [hvalue]
    exact value_le_of_round hk hround.2

/-- A number of at most 53 bits needs no rounding. -/
theorem roundWithAccuracy_full {m : Nat} {e : Int} (sign : Sign) (hm : Full m) (he : -1000 ≤ e) :
    roundWithAccuracy Format.binary64 sign m e .exact = .finite sign m e hm.pos := by
  have hshift : shiftToTargetExponent Format.binary64 m e .exact = (⟨m, false, false⟩, e) := by
    rw [shiftToTargetExponent_eq .exact (Nat.le_of_eq hm.log2_eq.symm) he, hm.log2_eq]
    exact Prod.ext rfl (Int.add_zero e)
  unfold roundWithAccuracy
  rw [hshift]
  dsimp only
  rw [show (ExtendedMantissa.mk m false false).roundedMantissa = m from rfl, hshift]
  exact dif_neg (Nat.ne_of_gt hm.pos)

-- ================================================================= packing

/-- The first bit of a significand in front of the others. -/
theorem toNat_one_append (mantissa : BitVec 52) :
    (1#1 ++ mantissa).toNat = 2 ^ 52 + mantissa.toNat := by
  rw [BitVec.toNat_append, ← Nat.shiftLeft_add_eq_or_of_lt mantissa.isLt]
  rfl

/-- A packed number that is neither zero nor infinite. -/
theorem unpack_of_normal {b : BitVec 64} (hfinite : @unpackExponent .binary64 b ≠ -1#11)
    (hnormal : @unpackExponent .binary64 b ≠ 0#11) :
    UnpackedFloat.unpack .binary64 b
      = .finite (Sign.ofBitVec (@unpackSign .binary64 b))
          (2 ^ 52 + (@unpackMantissa .binary64 b).toNat)
          ((@unpackExponent .binary64 b).toNat - 1075)
          (Nat.add_pos_left (Nat.two_pow_pos 52) _) := by
  unfold UnpackedFloat.unpack
  dsimp only
  rw [if_neg hfinite, if_neg hnormal]
  exact finite_eq rfl (toNat_one_append _) rfl

/-- The sign of a packed number is its highest bit. -/
theorem unpackSign_pack (sign : Sign) (exponent : BitVec 11) (mantissa : BitVec 52) :
    Sign.ofBitVec (unpackSign (packComponents Format.binary64 sign exponent mantissa)) = sign := by
  have hbit : unpackSign (packComponents Format.binary64 sign exponent mantissa)
      = sign.toBitVec := by
    apply BitVec.eq_of_getElem_eq
    intro i hi
    obtain rfl : i = 0 := by omega
    unfold unpackSign packComponents
    simp only [BitVec.extractLsb, BitVec.getElem_cast, BitVec.getElem_extractLsb',
      BitVec.getLsbD_append]
    rfl
  rw [hbit]
  cases sign <;> rfl

/-- The significand of a packed number has its first bit back. -/
theorem unpack_packComponents {m b : Nat} (sign : Sign) (hm : Full m) (hlow : 0 < b)
    (hhigh : b < 2047) :
    UnpackedFloat.unpack Format.binary64
        (packComponents Format.binary64 sign (BitVec.ofNat 11 b) (BitVec.ofNat 52 m))
      = .finite sign m (b - 1075) hm.pos := by
  have hexponent : (BitVec.ofNat 11 b).toNat = b := by
    rw [BitVec.toNat_ofNat, Nat.mod_eq_of_lt (by omega)]
  have hfinite : BitVec.ofNat 11 b ≠ -1#11 := by
    intro h
    have hb : b = 2047 := hexponent ▸ congrArg BitVec.toNat h
    omega
  have hnormal : BitVec.ofNat 11 b ≠ 0#11 := by
    intro h
    have hb : b = 0 := hexponent ▸ congrArg BitVec.toNat h
    omega
  have hbits : 2 ^ 52 + (BitVec.ofNat 52 m).toNat = m := by
    obtain ⟨hlow, hhigh⟩ := hm
    rw [BitVec.toNat_ofNat]
    omega
  have hpacked : unpackExponent (packComponents Format.binary64 sign (BitVec.ofNat 11 b)
      (BitVec.ofNat 52 m)) = BitVec.ofNat 11 b := unpackExponent_packComponents
  rw [← hpacked] at hfinite hnormal
  rw [unpack_of_normal hfinite hnormal]
  apply finite_eq
  · exact unpackSign_pack sign _ _
  · rw [unpackMantissa_packComponents]
    exact hbits
  · rw [hpacked, hexponent]

/-- A number with a full significand fits 64 bits. -/
theorem unpack_pack {m : Nat} {e : Int} (sign : Sign) (hm : Full m) (hlow : -1000 ≤ e)
    (hhigh : e ≤ 900) :
    (Float.Model.pack (.finite sign m e hm.pos)).unpack = .finite sign m e hm.pos := by
  obtain ⟨b, hb⟩ := Int.eq_ofNat_of_zero_le (show 0 ≤ e + 1075 by omega)
  have hbiased : (e + (Format.binary64.exponentBias : Int)
      + (Format.binary64.mantissaBitsWithoutImplicit : Int)).toNat = b := by
    show (e + 1023 + 52).toNat = b
    omega
  have hfinite : ¬ 2 ^ Format.binary64.exponentBits ≤ b + 1 := by
    show ¬ 2048 ≤ b + 1
    omega
  have hpack : UnpackedFloat.pack Format.binary64 (.finite sign m e hm.pos)
      = packComponents Format.binary64 sign (BitVec.ofNat 11 b) (BitVec.ofNat 52 m) := by
    unfold UnpackedFloat.pack
    dsimp only
    rw [hbiased, hm.log2_eq, if_neg hfinite,
      if_pos (show 52 + 1 = Format.binary64.mantissaBits from rfl)]
  unfold Float.Model.unpack Float.Model.pack
  show UnpackedFloat.unpack Format.binary64 (UnpackedFloat.pack Format.binary64 _) = _
  rw [hpack, unpack_packComponents sign hm (by omega) (by omega)]
  exact finite_eq rfl rfl (by omega)

-- ================================================================= doubles

/-- A positive double, by its significand and its exponent. -/
structure Holds (x : Float) (m : Nat) (e : Int) : Prop where
  full : Full m
  unpack_eq : x.toModel.unpack = .finite .positive m e full.pos

/-- The double nearest to a number in range. -/
theorem holds_pack {m : Nat} {e : Int} (hm : Full m) (hlow : -1000 ≤ e) (hhigh : e ≤ 900) :
    Holds (.ofModel (.pack (.finite .positive m e hm.pos))) m e :=
  ⟨hm, unpack_pack .positive hm hlow hhigh⟩

/-- A word of at most 53 bits is a double. -/
theorem holds_toFloat {n : Nat} (hpos : 0 < n) (hn : n < 2 ^ 53) :
    Holds n.toUInt64.toFloat (n <<< (52 - n.log2)) (-(52 - n.log2 : Nat)) := by
  have hlog : n.log2 ≤ 52 :=
    Nat.le_of_lt_succ ((Nat.log2_lt (Nat.ne_of_gt hpos)).mpr hn)
  have hfull := Full.shiftLeft hpos hlog
  have hword : n.toUInt64.toNat = n := Nat.mod_eq_of_lt (Nat.lt_trans hn (by decide))
  have htarget : Format.binary64.targetExponent (totalExponent n 0) = -(52 - n.log2 : Nat) := by
    unfold totalExponent
    rw [targetExponent_eq (by omega)]
    omega
  have hdecrease : decreaseExponent n 0 (-(52 - n.log2 : Nat))
      = (n <<< (52 - n.log2), -((52 - n.log2 : Nat) : Int)) := by
    simp only [decreaseExponent, zero_sub, neg_neg, Int.toNat_natCast]
  have hround : UnpackedFloat.ofUInt64 Format.binary64 n.toUInt64
      = .finite .positive (n <<< (52 - n.log2)) (-(52 - n.log2 : Nat)) hfull.pos := by
    show UnpackedFloat.normalize Format.binary64 (n.toUInt64.toNat : Int) 0 .positive = _
    rw [hword]
    unfold UnpackedFloat.normalize
    rw [Int.compare_eq_gt.mpr (Int.natCast_pos.mpr hpos)]
    show UnpackedFloat.round Format.binary64 .positive n 0 = _
    unfold UnpackedFloat.round
    rw [htarget]
    dsimp only
    rw [hdecrease]
    exact roundWithAccuracy_full .positive hfull (by omega)
  show Holds (.ofModel (.pack (UnpackedFloat.ofUInt64 Format.binary64 n.toUInt64))) _ _
  rw [hround]
  exact holds_pack hfull (by omega) (by omega)

/-- The double nearest to a number, if the number is in range. -/
theorem holds_round {m : Nat} {e : Int} (accuracy : Accuracy) (hlow : 52 ≤ m.log2)
    (hhigh : m.log2 ≤ 105) (he : -1000 ≤ e) (he' : e ≤ 800) :
    ∃ m' e',
      Holds (.ofModel (.pack (roundWithAccuracy Format.binary64 .positive m e accuracy))) m' e'
        ∧ Rounded m e m' e' := by
  obtain ⟨m', e', hpos, hround, hrounded⟩ := roundWithAccuracy_eq .positive accuracy hlow he
  refine ⟨m', e', ?_, hrounded⟩
  have hle := hrounded.le_exponent
  have hge := hrounded.exponent_le
  rw [hround]
  exact holds_pack hrounded.full (by omega) (by omega)

namespace Holds

variable {x y : Float} {m n : Nat} {e f : Int}

/-- A product is rounded once. -/
theorem mul (hx : Holds x m e) (hy : Holds y n f) (hlow : -1000 ≤ e + f) (hhigh : e + f ≤ 800) :
    ∃ m' e', Holds (x * y) m' e' ∧ value m' e' ≤ value m e * value n f * (1 + slack) := by
  have hmul : x * y = .ofModel (.pack
      (roundWithAccuracy Format.binary64 .positive (m * n) (e + f) .exact)) := by
    show Float.ofModel (.pack
      (UnpackedFloat.mul Format.binary64 x.toModel.unpack y.toModel.unpack)) = _
    rw [hx.unpack_eq, hy.unpack_eq]
    rfl
  obtain ⟨hmlow, hmhigh⟩ := hx.full
  obtain ⟨hnlow, hnhigh⟩ := hy.full
  have hplow : 2 ^ 52 * 2 ^ 52 ≤ m * n := Nat.mul_le_mul hmlow hnlow
  have hphigh : m * n < 2 ^ 53 * 2 ^ 53 := Nat.mul_lt_mul'' hmhigh hnhigh
  have hne : m * n ≠ 0 := by omega
  obtain ⟨m', e', hproduct, hrounded⟩ := holds_round .exact
    ((Nat.le_log2 hne).mpr (by omega)) (Nat.le_of_lt_succ ((Nat.log2_lt hne).mpr (by omega)))
    hlow hhigh
  rw [hmul]
  refine ⟨m', e', hproduct, ?_⟩
  rw [← value_mul]
  exact hrounded.value_le

/-- A quotient is rounded once, after all that is left over has been noted. -/
theorem div (hx : Holds x m e) (hy : Holds y n f) (hlow : -900 ≤ e - f) (hhigh : e - f ≤ 800) :
    ∃ m' e', Holds (x / y) m' e' ∧ e - f - 53 ≤ e' ∧ e' ≤ e - f
      ∧ value m' e' ≤ value m e / value n f * (1 + slack) := by
  have htarget : Format.binary64.targetExponent (totalExponent m e - totalExponent n f)
      = e - f - 53 := by
    unfold totalExponent
    rw [hx.full.log2_eq, hy.full.log2_eq, targetExponent_eq (by omega)]
    omega
  have hcore : divCore Format.binary64 m e n f
      = (m * 2 ^ 53 / n, e - f - 53, accuracyOfFraction (m * 2 ^ 53 % n) n) := by
    unfold divCore
    rw [htarget, min_eq_right (by omega)]
    dsimp only
    rw [show (e - f - (e - f - 53)).toNat = 53 by omega, Nat.shiftLeft_eq]
  have hdiv : x / y = .ofModel (.pack (roundWithAccuracy Format.binary64 .positive
      (m * 2 ^ 53 / n) (e - f - 53) (accuracyOfFraction (m * 2 ^ 53 % n) n))) := by
    show Float.ofModel (.pack
      (UnpackedFloat.div Format.binary64 x.toModel.unpack y.toModel.unpack)) = _
    rw [hx.unpack_eq, hy.unpack_eq]
    unfold UnpackedFloat.div
    dsimp only
    rw [hcore]
    rfl
  obtain ⟨hmlow, hmhigh⟩ := hx.full
  obtain ⟨hnlow, hnhigh⟩ := hy.full
  have hqlow : 2 ^ 52 ≤ m * 2 ^ 53 / n := by
    rw [Nat.le_div_iff_mul_le hy.full.pos]
    omega
  have hqhigh : m * 2 ^ 53 / n < 2 ^ 54 := by
    rw [Nat.div_lt_iff_lt_mul hy.full.pos]
    omega
  have hne : m * 2 ^ 53 / n ≠ 0 := by omega
  have hlog : (m * 2 ^ 53 / n).log2 ≤ 53 := Nat.le_of_lt_succ ((Nat.log2_lt hne).mpr hqhigh)
  obtain ⟨m', e', hquotient, hrounded⟩ :=
    holds_round (accuracyOfFraction (m * 2 ^ 53 % n) n)
      ((Nat.le_log2 hne).mpr hqlow) (Nat.le_trans hlog (by decide))
      (show -1000 ≤ e - f - 53 by omega) (by omega)
  have hexponent := hrounded.exponent_le
  rw [hdiv]
  refine ⟨m', e', hquotient, hrounded.le_exponent, by omega, hrounded.value_le.trans ?_⟩
  exact mul_le_mul_of_nonneg_right (value_div_le m e f hy.full.pos) one_add_slack_nonneg

/-- What is left when the fraction is dropped. -/
theorem toInt_eq (hx : Holds x m e) (largest : Int) :
    x.toModel.unpack.toInt 0 largest = (m * 2 ^ e.toNat / 2 ^ (-e).toNat : Nat) := by
  rw [hx.unpack_eq]
  show roundToInt .positive m e = _
  have hshift : (0 - (e - ((e - 0).toNat : Int))).toNat = (-e).toNat := by omega
  unfold roundToInt decreaseExponent shiftToExponent
  dsimp only
  rw [hshift, mantissa_shiftRight, mantissa_ofMantissaAndAccuracy, Nat.shiftLeft_eq, sub_zero]
  rfl

theorem toUInt64_le (hx : Holds x m e) {bound : Nat} (h : value m e < bound + 1) :
    x.toUInt64.toNat ≤ bound := by
  have hpowers : (2 : ℚ) ^ e * 2 ^ (-e).toNat = 2 ^ e.toNat := by
    rw [← zpow_natCast, ← zpow_natCast, ← zpow_add₀ two_ne_zero]
    congr 1
    omega
  have hscaled : (m : ℚ) * 2 ^ e.toNat < (bound + 1) * 2 ^ (-e).toNat := by
    rw [← hpowers, ← mul_assoc]
    exact mul_lt_mul_of_pos_right h (pow_pos two_pos _)
  have hnat : m * 2 ^ e.toNat < (bound + 1) * 2 ^ (-e).toNat := by exact_mod_cast hscaled
  have hle : m * 2 ^ e.toNat / 2 ^ (-e).toNat ≤ bound :=
    Nat.le_of_lt_succ ((Nat.div_lt_iff_lt_mul (Nat.two_pow_pos _)).mpr hnat)
  show (UInt64.ofNatClamp (x.toModel.unpack.toInt 0 (UInt64.size - 1)).toNat).toNat ≤ bound
  rw [hx.toInt_eq, Int.toNat_natCast]
  refine Nat.le_trans ?_ hle
  unfold UInt64.ofNatClamp
  split
  · exact Nat.le_refl _
  · next hlarge => exact Nat.le_of_lt (Nat.not_lt.mp hlarge)

end Holds

-- =================================================================== scaling

theorem toNat_zero_mul {x : Float} {m : Nat} {e : Int} (hx : Holds x m e) :
    ((0 : Nat).toUInt64.toFloat * x).toUInt64 = 0 := by
  have hzero : ((0 : Nat).toUInt64.toFloat).toModel.unpack = .zero .positive := by rfl
  have hmul : (0 : Nat).toUInt64.toFloat * x = .ofModel (.pack (.zero .positive)) := by
    show Float.ofModel (.pack (UnpackedFloat.mul Format.binary64
      ((0 : Nat).toUInt64.toFloat).toModel.unpack x.toModel.unpack)) = _
    rw [hzero, hx.unpack_eq]
    rfl
  rw [hmul]
  decide

/-- A part of a bound is never rounded past the bound: the product is off by
far less than one. -/
theorem scaled_le {side bound larger : Nat} (hbound : 0 < bound) (hside : side ≤ larger)
    (hlarge : larger < 2 ^ 50) (hbelow : bound ≤ larger) :
    (side.toUInt64.toFloat * (bound.toUInt64.toFloat / larger.toUInt64.toFloat)).toUInt64.toNat
      ≤ bound := by
  have hb := holds_toFloat hbound (by omega)
  have hl := holds_toFloat (show 0 < larger by omega) (by omega)
  obtain ⟨m, e, hscale, hlow, hhigh, hscaled⟩ := hb.div hl (by omega) (by omega)
  obtain hzero | hpos := Nat.eq_zero_or_pos side
  · rw [hzero, toNat_zero_mul hscale]
    exact Nat.zero_le _
  have hs := holds_toFloat hpos (by omega)
  obtain ⟨m', e', hproduct, hvalue⟩ := hs.mul hscale (by omega) (by omega)
  apply hproduct.toUInt64_le
  rw [value_shiftLeft, value_shiftLeft] at hscaled
  rw [value_shiftLeft] at hvalue
  have hpart : (side : ℚ) * (bound / larger) ≤ bound := by
    have hside' : (side : ℚ) ≤ larger := Nat.cast_le.mpr hside
    have hlarger : (0 : ℚ) < larger := Nat.cast_pos.mpr (by omega)
    rw [← mul_div_assoc, div_le_iff₀ hlarger, mul_comm]
    exact mul_le_mul_of_nonneg_left hside' (Nat.cast_nonneg _)
  have hsmall : (bound : ℚ) < 2 ^ 50 := by exact_mod_cast Nat.lt_of_le_of_lt hbelow hlarge
  calc value m' e'
      ≤ side * value m e * (1 + slack) := hvalue
    _ ≤ side * (bound / larger * (1 + slack)) * (1 + slack) :=
      mul_le_mul_of_nonneg_right
        (mul_le_mul_of_nonneg_left hscaled (Nat.cast_nonneg _)) one_add_slack_nonneg
    _ = side * (bound / larger) * (1 + slack) ^ 2 := by ring
    _ ≤ bound * (1 + slack) ^ 2 := mul_le_mul_of_nonneg_right hpart (sq_nonneg _)
    _ < bound + 1 := by
      unfold slack
      linarith

end ReceiptPrinter.Double
