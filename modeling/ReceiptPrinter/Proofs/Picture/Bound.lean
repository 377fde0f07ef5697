/-
A fitted picture keeps to its bound.

The larger side of a picture that is shrunk becomes the bound itself. The
other is a product of doubles, which `Double.scaled_le` keeps from being
rounded past the bound, and a side that would vanish is one pixel. So the
orientation stays, a fitted picture is within its bound, and to fit it again
changes nothing.
-/
import ReceiptPrinter.Proofs.Number.Double
import ReceiptPrinter.Proofs.Picture.Fit

namespace ReceiptPrinter.PixelMatrix

variable {picture image : PixelMatrix} {bound : Int}

-- ================================================================== sides

/-- A fitted side: the larger one becomes the limit, any other stays within
it and does not vanish. -/
structure IsFitted (limit larger side fitted : Nat) : Prop where
  of_larger : side = larger → fitted = limit
  positive : 0 < fitted
  le_limit : fitted ≤ limit

theorem isFitted_scaledSide {limit larger side : Nat} (hlimit : 0 < limit)
    (hbelow : limit < larger) (hside : side ≤ larger) (hword : larger < UInt32.size) :
    IsFitted limit larger side (shortSide (scaledSide limit larger side)) := by
  have hsmall : limit < 4294967296 := Nat.lt_trans hbelow hword
  have hshort : ∀ fitted ≤ limit, shortSide fitted = fitted :=
    fun fitted hle => Nat.mod_eq_of_lt (Nat.lt_of_le_of_lt hle hsmall)
  unfold scaledSide
  by_cases hsame : side = larger
  · rw [if_pos hsame, hshort limit (Nat.le_refl _)]
    exact ⟨fun _ => rfl, hlimit, Nat.le_refl _⟩
  · rw [if_neg hsame]
    have hproduct : max 1 (side.toUInt64.toFloat
        * (limit.toUInt64.toFloat / larger.toUInt64.toFloat)).toUInt64.toNat ≤ limit :=
      Nat.max_le.mpr ⟨hlimit, Double.scaled_le hlimit hside
        (Nat.lt_trans hword (by decide)) (Nat.le_of_lt hbelow)⟩
    dsimp only
    rw [hshort _ hproduct]
    exact ⟨fun h => absurd h hsame, Nat.le_max_left _ _, hproduct⟩

/-- Both sides of a picture that was too large. -/
theorem isFitted_of_fit (hword : picture.larger < UInt32.size)
    (hlarge : bound < picture.larger) (h : picture.fit bound = .ok image) :
    IsFitted bound.toNat picture.larger picture.width image.width
      ∧ IsFitted bound.toNat picture.larger picture.height image.height := by
  obtain ⟨hbound, ⟨hfits, -⟩ | ⟨hbelow, rfl⟩⟩ := fit_eq_ok_iff.mp h
  · omega
  · have hlimit : 0 < bound.toNat := by omega
    obtain ⟨hwidth, hheight⟩ := Resample.sides_resample picture.shortened
      (shortSide (scaledSide bound.toNat picture.larger picture.width))
      (shortSide (scaledSide bound.toNat picture.larger picture.height))
    rw [hwidth, hheight]
    exact ⟨isFitted_scaledSide hlimit hbelow (Nat.le_max_left _ _) hword,
      isFitted_scaledSide hlimit hbelow (Nat.le_max_right _ _) hword⟩

theorem larger_le_of_fit (hword : picture.larger < UInt32.size)
    (h : picture.fit bound = .ok image) : image.larger ≤ bound.toNat := by
  by_cases hfits : picture.larger ≤ bound.toNat
  · rw [eq_of_fit hfits h]
    exact hfits
  · obtain ⟨hwidth, hheight⟩ := isFitted_of_fit hword (by omega) h
    exact Nat.max_le.mpr ⟨hwidth.le_limit, hheight.le_limit⟩

/-- What is fitted once is fitted. -/
theorem fit_of_fit {wider : Int} (hword : picture.larger < UInt32.size) (hwider : bound ≤ wider)
    (h : picture.fit bound = .ok image) : image.fit wider = .ok image := by
  have hbound := (fit_eq_ok_iff.mp h).1
  have hlarger := larger_le_of_fit hword h
  exact fit_eq_ok_iff.mpr ⟨by omega, .inl ⟨by omega, rfl⟩⟩

/-- Whichever side is at least as long as the other stays so. -/
theorem orientation_of_fit (hword : picture.larger < UInt32.size)
    (h : picture.fit bound = .ok image) :
    (picture.height ≤ picture.width → image.height ≤ image.width)
      ∧ (picture.width ≤ picture.height → image.width ≤ image.height) := by
  by_cases hfits : picture.larger ≤ bound.toNat
  · rw [eq_of_fit hfits h]
    exact ⟨id, id⟩
  · obtain ⟨hwidth, hheight⟩ := isFitted_of_fit hword (by omega) h
    constructor
    · intro hwide
      rw [hwidth.of_larger (Nat.max_eq_left hwide).symm]
      exact hheight.le_limit
    · intro hhigh
      rw [hheight.of_larger (Nat.max_eq_right hhigh).symm]
      exact hwidth.le_limit

/-- Fitting a picture with sides of 32 bits.

A bound that is not positive is refused, and nothing else is. A picture
within the bound is left as it is. Of one beyond it, each side as long as the
larger one becomes the bound, and any other is at least one and at most the
bound. The orientation is kept, a picture with a pixel for every place still
has one, and to fit the result to the same bound or any larger one leaves it
as it is. -/
theorem fit_keeps_bound (picture : PixelMatrix) (hwidth : picture.width < 2 ^ 32)
    (hheight : picture.height < 2 ^ 32) (bound : Int) :
    (bound ≤ 0 → ∃ message, picture.fit bound = .error (.invalidArgument message))
      ∧ (1 ≤ bound → ∃ image, picture.fit bound = .ok image
        ∧ (picture.larger ≤ bound → image = picture)
        ∧ (bound < picture.larger →
            (picture.width = picture.larger → (image.width : Int) = bound)
            ∧ (picture.height = picture.larger → (image.height : Int) = bound)
            ∧ 1 ≤ image.width ∧ image.width ≤ bound
            ∧ 1 ≤ image.height ∧ image.height ≤ bound)
        ∧ (picture.height ≤ picture.width → image.height ≤ image.width)
        ∧ (picture.width ≤ picture.height → image.width ≤ image.height)
        ∧ (picture.Filled → image.Filled)
        ∧ ∀ wider, bound ≤ wider → image.fit wider = .ok image) := by
  have hword : picture.larger < UInt32.size := Nat.max_lt.mpr ⟨hwidth, hheight⟩
  refine ⟨fun hbound => ⟨_, fit_eq_error_iff.mpr ⟨hbound, rfl⟩⟩, fun hbound => ?_⟩
  obtain ⟨image, hfit⟩ := exists_fit picture hbound
  obtain ⟨hwide, hhigh⟩ := orientation_of_fit hword hfit
  refine ⟨image, hfit, fun hfits => eq_of_fit (by omega) hfit, fun hlarge => ?_, hwide, hhigh,
    fun hfilled => filled_of_fit hfilled hfit, fun wider hwider => fit_of_fit hword hwider hfit⟩
  obtain ⟨hw, hh⟩ := isFitted_of_fit hword hlarge hfit
  have hlimit : (bound.toNat : Int) = bound := Int.toNat_of_nonneg (by omega)
  refine ⟨fun h => ?_, fun h => ?_, hw.positive, ?_, hh.positive, ?_⟩
  · rw [hw.of_larger h, hlimit]
  · rw [hh.of_larger h, hlimit]
  · exact hlimit ▸ Int.ofNat_le.mpr hw.le_limit
  · exact hlimit ▸ Int.ofNat_le.mpr hh.le_limit

/-- A wide picture: half as high as wide before, and no higher than wide
after. -/
theorem wide_picture_fitted :
    ∃ image, (tabulate 400 200 fun _ _ => Pixel.white).fit 200 = .ok image
      ∧ image.width = 200 ∧ 1 ≤ image.height ∧ image.height ≤ 200 ∧ image.Filled
      ∧ image.fit 300 = .ok image := by
  obtain ⟨-, hfits⟩ := fit_keeps_bound (tabulate 400 200 fun _ _ => Pixel.white)
    (show 400 < 2 ^ 32 by decide) (show 200 < 2 ^ 32 by decide) 200
  obtain ⟨image, hfit, -, hsides, -, -, hfilled, hagain⟩ := hfits (by decide)
  obtain ⟨hwidth, -, -, -, hpositive, hheight⟩ := hsides (by decide)
  have hwide : (image.width : Int) = 200 := hwidth rfl
  have hhigh : (image.height : Int) ≤ 200 := hheight
  exact ⟨image, hfit, by omega, hpositive, by omega, hfilled (filled_tabulate _ _ _),
    hagain 300 (by decide)⟩

example : scaledSide 200 400 200 = 100 := by rfl

end ReceiptPrinter.PixelMatrix
