/-
What fitting does to a picture.

`fit_eq_ok_iff` says once all that fitting can do: a picture within the bound
is left alone, and one beyond it is resampled. Only the bound can be refused.
The resampler is handed a full buffer whatever the picture, and gives one
back.
-/
import ReceiptPrinter.Picture.Fit

namespace ReceiptPrinter

-- ============================================================= resampling

namespace Resample

theorem sides_resample (picture : PixelMatrix) (width height : Nat) :
    (resample picture width height).width = width
      ∧ (resample picture width height).height = height := by
  unfold resample
  split
  · exact ⟨rfl, rfl⟩
  · split
    · next hsame => exact hsame
    · exact ⟨rfl, rfl⟩

theorem filled_resample {picture : PixelMatrix} (h : picture.Filled) (width height : Nat) :
    (resample picture width height).Filled := by
  unfold resample
  split
  · exact PixelMatrix.filled_tabulate _ _ _
  · split
    · exact h
    · exact PixelMatrix.filled_tabulate _ _ _

end Resample

namespace PixelMatrix

variable {picture image : PixelMatrix} {bound : Int}

/-- The resampler gets a buffer that fits its sides, whatever the picture. -/
theorem filled_shortened (picture : PixelMatrix) : picture.shortened.Filled := by
  unfold shortened
  dsimp only
  split
  · next hcovers =>
    unfold Filled
    rw [Array.size_extract, Nat.min_eq_left hcovers, Nat.sub_zero]
  · exact filled_tabulate _ _ _

-- ================================================================ fitting

theorem fit_eq_error_iff {e : PrinterError} :
    picture.fit bound = .error e ↔ bound ≤ 0 ∧ e = BadBound.error ⟨bound⟩ := by
  unfold fit
  dsimp only
  by_cases hbound : bound ≤ 0
  · rw [if_pos hbound, Except.error.injEq]
    exact ⟨fun h => ⟨hbound, h.symm⟩, fun h => h.2.symm⟩
  · rw [if_neg hbound]
    split <;> exact ⟨nofun, fun h => absurd h.1 hbound⟩

/-- All that fitting can do with a picture. -/
theorem fit_eq_ok_iff :
    picture.fit bound = .ok image ↔ 0 < bound
      ∧ ((picture.larger ≤ bound.toNat ∧ image = picture)
        ∨ (bound.toNat < picture.larger
          ∧ image = Resample.resample picture.shortened
              (shortSide (scaledSide bound.toNat picture.larger picture.width))
              (shortSide (scaledSide bound.toNat picture.larger picture.height)))) := by
  unfold fit
  dsimp only
  by_cases hbound : bound ≤ 0
  · rw [if_pos hbound]
    exact ⟨nofun, fun h => absurd h.1 (Int.not_lt.mpr hbound)⟩
  rw [if_neg hbound]
  by_cases hfits : picture.larger ≤ bound.toNat
  · rw [if_pos hfits, Except.ok.injEq]
    constructor
    · exact fun h => ⟨Int.not_le.mp hbound, .inl ⟨hfits, h.symm⟩⟩
    · rintro ⟨-, ⟨-, h⟩ | ⟨hlarge, -⟩⟩
      · exact h.symm
      · omega
  · rw [if_neg hfits, Except.ok.injEq]
    constructor
    · exact fun h => ⟨Int.not_le.mp hbound, .inr ⟨Nat.not_le.mp hfits, h.symm⟩⟩
    · rintro ⟨-, ⟨hsmall, -⟩ | ⟨-, h⟩⟩
      · exact absurd hsmall hfits
      · exact h.symm

/-- A picture within the bound is left as it is. -/
theorem eq_of_fit (hfits : picture.larger ≤ bound.toNat) (h : picture.fit bound = .ok image) :
    image = picture := by
  obtain ⟨-, ⟨-, hsame⟩ | ⟨hbelow, -⟩⟩ := fit_eq_ok_iff.mp h
  · exact hsame
  · exact absurd hfits (Nat.not_le.mpr hbelow)

/-- Only the bound can keep a picture from being fitted. -/
theorem exists_fit (picture : PixelMatrix) {bound : Int} (hbound : 0 < bound) :
    ∃ image, picture.fit bound = .ok image := by
  cases h : picture.fit bound with
  | ok image => exact ⟨image, rfl⟩
  | error e => exact absurd (fit_eq_error_iff.mp h).1 (Int.not_le.mpr hbound)

/-- A picture that is fitted is no wider than the bound, if a side that is
not the larger one is never scaled past it. -/
theorem width_fit_le
    (hscaled : picture.width < picture.larger →
      scaledSide bound.toNat picture.larger picture.width ≤ bound.toNat)
    (h : picture.fit bound = .ok image) : image.width ≤ bound.toNat := by
  have hlarger : picture.width ≤ picture.larger := Nat.le_max_left _ _
  obtain ⟨-, ⟨hfits, rfl⟩ | ⟨-, rfl⟩⟩ := fit_eq_ok_iff.mp h
  · exact Nat.le_trans hlarger hfits
  · rw [(Resample.sides_resample _ _ _).1]
    apply Nat.le_trans (Nat.mod_le _ _)
    by_cases hside : picture.width = picture.larger
    · unfold scaledSide
      exact Nat.le_of_eq (if_pos hside)
    · exact hscaled (by omega)

/-- A picture that is shrunk has a pixel for every place. -/
theorem filled_of_fit (hfilled : picture.Filled) (h : picture.fit bound = .ok image) :
    image.Filled := by
  obtain ⟨-, ⟨-, rfl⟩ | ⟨-, rfl⟩⟩ := fit_eq_ok_iff.mp h
  · exact hfilled
  · exact Resample.filled_resample (filled_shortened _) _ _

end PixelMatrix

end ReceiptPrinter
