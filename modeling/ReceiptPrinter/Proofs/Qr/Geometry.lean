/-
Where the modules of a symbol are in its picture.

One placing fits a symbol into a side (`isFit_iff`): its modules are as large
as can be, with a margin of a module on every side, and it is in the middle.
The picture of a text shows the symbol there and is white around it. There
is such a picture unless the side is not allowed, the text is too long or
the symbol does not fit, and then the text is refused.
-/
import Mathlib.Order.Bounds.Basic
import ReceiptPrinter.Proofs.Qr.Picture

namespace ReceiptPrinter.Qr

-- =============================================================== placings

/-- Modules that are as large as the side allows, if a margin of one module
on every side is added, in the middle of the side; an odd pixel is left over
at the end. -/
structure Placing.IsFit (p : Placing) (modules side : Nat) : Prop where
  largest : IsGreatest {scale | scale * (modules + 2) ≤ side} p.scale
  marginBefore : p.scale ≤ p.origin
  marginAfter : p.origin + modules * p.scale + p.scale ≤ side
  middle : side - (p.origin + modules * p.scale) = p.origin
    ∨ side - (p.origin + modules * p.scale) = p.origin + 1

/-- The largest scale is a quotient. -/
theorem isGreatest_scale (total side : Nat) (htotal : 0 < total) :
    IsGreatest {scale | scale * total ≤ side} (side / total) := by
  constructor
  · exact Nat.div_mul_le_self side total
  · intro scale hscale
    exact (Nat.le_div_iff_mul_le htotal).mpr hscale

theorem isFit_placing (modules side : Nat) : (placing modules side).IsFit modules side := by
  have hlargest := isGreatest_scale (modules + 2) side (Nat.succ_pos _)
  have hroom : side / (modules + 2) * (modules + 2) ≤ side := hlargest.1
  have horigin : (placing modules side).origin
      = (side - (modules + 2) * (side / (modules + 2))) / 2 + 1 * (side / (modules + 2)) := rfl
  have hscale : (placing modules side).scale = side / (modules + 2) := rfl
  constructor
  · exact hlargest
  all_goals
    rw [horigin, hscale]
    generalize side / (modules + 2) = scale at *
    rw [Nat.mul_add] at hroom
    rw [Nat.add_mul, Nat.mul_comm modules scale]
    omega

/-- Exactly one placing fits. -/
theorem isFit_iff {p : Placing} {modules side : Nat} :
    p.IsFit modules side ↔ p = placing modules side := by
  constructor
  · intro h
    have hfit := isFit_placing modules side
    have hscale := h.largest.unique hfit.largest
    have hbefore := h.middle
    have hafter := hfit.middle
    have hend := h.marginAfter
    have hend' := hfit.marginAfter
    obtain ⟨scale, origin⟩ := p
    dsimp only at hscale hbefore hend
    subst hscale
    have horigin : origin = (placing modules side).origin := by omega
    rw [horigin]
  · rintro rfl
    exact isFit_placing modules side

example : placing 21 100 = ⟨4, 8⟩ := by decide

-- =============================================================== pictures

/-- The picture has a block of equal pixels for every module, black if the
module is dark, and nothing but white around these blocks. -/
structure Shows (picture : PixelMatrix) (s : Symbol) (p : Placing) : Prop where
  block : ∀ i j dx dy, i < s.side → j < s.side → dx < p.scale → dy < p.scale →
    picture.at? (p.origin + i * p.scale + dx) (p.origin + j * p.scale + dy)
      = some (if s.dark i j then Pixel.black else Pixel.white)
  around : ∀ x y, x < picture.width → y < picture.height →
    ¬ ((p.origin ≤ x ∧ x < p.origin + s.side * p.scale)
      ∧ (p.origin ≤ y ∧ y < p.origin + s.side * p.scale)) →
    picture.at? x y = some Pixel.white

/-- A pixel of a block is in the square of all blocks, and the block can be
told from it. -/
theorem block_spec (origin : Nat) {scale n i d : Nat} (hi : i < n) (hd : d < scale) :
    origin ≤ origin + i * scale + d ∧ origin + i * scale + d < origin + n * scale
      ∧ (origin + i * scale + d - origin) / scale = i := by
  have hblocks : (i + 1) * scale ≤ n * scale := Nat.mul_le_mul_right scale hi
  rw [Nat.add_mul] at hblocks
  refine ⟨by omega, by omega, ?_⟩
  rw [Nat.add_assoc, Nat.add_sub_cancel_left, Nat.mul_comm, Nat.mul_add_div (by omega),
    Nat.div_eq_of_lt hd, Nat.add_zero]

theorem shows_draw (s : Symbol) (side : Nat) : Shows (draw s side) s (placing s.side side) := by
  have hend := (isFit_placing s.side side).marginAfter
  constructor
  · intro i j dx dy hi hj hdx hdy
    obtain ⟨hlowx, hhighx, hcolumn⟩ := block_spec (placing s.side side).origin hi hdx
    obtain ⟨hlowy, hhighy, hrow⟩ := block_spec (placing s.side side).origin hj hdy
    unfold draw
    rw [PixelMatrix.at?_tabulate _ (by omega) (by omega), if_neg (by omega), hcolumn, hrow]
  · intro x y hx hy hout
    have hx' : x < side := hx
    have hy' : y < side := hy
    unfold draw
    rw [PixelMatrix.at?_tabulate _ hx' hy', if_pos (by omega)]

theorem two_colours_draw (s : Symbol) (side : Nat) :
    ∀ pixel ∈ (draw s side).pixels, pixel = Pixel.black ∨ pixel = Pixel.white := by
  intro pixel hpixel
  obtain ⟨i, rfl⟩ := Array.mem_ofFn.mp hpixel
  dsimp only
  split
  · exact .inr rfl
  · split
    · exact .inl rfl
    · exact .inr rfl

-- =============================================================== refusals

/-- With headers of each width, the text takes more bits than the largest
symbol of that width holds. -/
def IsTooLong (text : Bytes) : Prop :=
  ∀ headers ∈ headerClasses, capacity headers < totalCost headers (merge headers (scan text))

/-- What the largest symbol of a class holds, some smallest symbol holds. -/
theorem versionFor?_ne_none {headers bits : Nat} (hheaders : headers ∈ headerClasses)
    (hbits : bits ≤ capacity headers) : versionFor? bits ≠ none := by
  have htable : ∀ headers ∈ headerClasses, capacity headers ∈ capacities := by decide
  intro hnone
  have hsmall := List.findIdx?_eq_none_iff.mp (Option.map_eq_none_iff.mp hnone)
  exact of_decide_eq_false (hsmall _ (htable headers hheaders)) hbits

theorem layOut?_eq_none_iff {segments : List Segment} {headers : Nat}
    (hheaders : headers ∈ headerClasses) :
    layOut? segments headers = none
      ↔ capacity headers < totalCost headers (merge headers segments) := by
  unfold layOut?
  dsimp only
  by_cases hbits : totalCost headers (merge headers segments) ≤ capacity headers
  · rw [if_pos hbits, Option.map_eq_none_iff]
    constructor
    · intro hnone
      exact absurd hnone (versionFor?_ne_none hheaders hbits)
    · intro hlarge
      omega
  · rw [if_neg hbits]
    exact ⟨fun _ => Nat.not_le.mp hbits, fun _ => rfl⟩

theorem ofText?_eq_none_iff {text : Bytes} : Symbol.ofText? text = none ↔ IsTooLong text := by
  unfold Symbol.ofText? pack?
  simp only [Option.map_eq_none_iff, List.findSome?_eq_none_iff]
  exact forall₂_congr fun headers hheaders => layOut?_eq_none_iff hheaders

/-- Whatever is refused is refused as a failure of the encoding. -/
theorem encode_error {text : Bytes} {side : Int} {e : PrinterError}
    (h : encode text side = .error e) : ∃ message, e = .encodingFailed message := by
  unfold encode at h
  cases hpicture : picture text side with
  | ok m =>
    rw [hpicture] at h
    cases h
  | error refusal =>
    rw [hpicture] at h
    cases h
    cases refusal with
    | notPositive | tooLarge | textTooLong | doesNotFit => exact ⟨_, rfl⟩

/-- A text is refused if and only if it has no picture. -/
theorem encode_failed_iff_no_picture {text : Bytes} {side : Int} :
    (∃ message, encode text side = .error (.encodingFailed message)) ↔
      ¬ ∃ picture, encode text side = .ok picture := by
  cases h : encode text side with
  | ok picture => simp
  | error e =>
    obtain ⟨message, rfl⟩ := encode_error h
    simp

theorem encode_failed_iff {text : Bytes} {side : Int} :
    (∃ message, encode text side = .error (.encodingFailed message)) ↔
      side ≤ 0 ∨ 4096 < side ∨ IsTooLong text
        ∨ ∃ s, Symbol.ofText? text = some s ∧ side.toNat < s.side + 2 := by
  rw [encode_failed_iff_no_picture, ← ofText?_eq_none_iff]
  constructor
  · intro hnone
    by_contra hallowed
    push Not at hallowed
    obtain ⟨hpositive, hmax, hsymbol, hfits⟩ := hallowed
    obtain ⟨s, hs⟩ := Option.ne_none_iff_exists'.mp hsymbol
    exact hnone ⟨_, encode_eq_ok_iff.mpr ⟨hpositive, hmax, s, hs, hfits s hs, rfl⟩⟩
  · rintro hrefused ⟨picture, hencode⟩
    obtain ⟨hpositive, hmax, s, hs, hfits, -⟩ := encode_eq_ok_iff.mp hencode
    rcases hrefused with hside | hside | hlong | ⟨s', hs', hsmall⟩
    · exact absurd hpositive (Int.not_lt.mpr hside)
    · exact absurd hmax (Int.not_le.mpr hside)
    · rw [hs] at hlong
      cases hlong
    · cases hs.symm.trans hs'
      exact absurd hfits (Nat.not_le.mpr hsmall)

/-- The picture of a text, for every text and every side.

If the side is allowed and the symbol fits, the picture is a full square of
that side in black and white. There is exactly one placing that fits and at
which the picture shows the symbol: every module has its block of pixels, no
two blocks overlap and nothing is left between them, and around them there
is a white margin, at least as wide as a module and equal on all sides but
for an odd pixel. In all other cases, and only in them, the text is
refused. -/
theorem code_geometry (text : Bytes) (side : Int) :
    (∀ s, Symbol.ofText? text = some s → 1 ≤ side → side ≤ 4096 → s.side + 2 ≤ side.toNat →
        s.IsSquare ∧ ∃ picture, encode text side = .ok picture
          ∧ picture.width = side.toNat ∧ picture.height = side.toNat ∧ picture.Filled
          ∧ (∀ pixel ∈ picture.pixels, pixel = Pixel.black ∨ pixel = Pixel.white)
          ∧ ∃! p : Placing, p.IsFit s.side side.toNat ∧ Shows picture s p)
      ∧ ((∃ message, encode text side = .error (.encodingFailed message)) ↔
          side ≤ 0 ∨ 4096 < side ∨ IsTooLong text
            ∨ ∃ s, Symbol.ofText? text = some s ∧ side.toNat < s.side + 2)
      ∧ ∀ e, encode text side = .error e → ∃ message, e = .encodingFailed message := by
  refine ⟨fun s hs hpositive hmax hfits => ?_, encode_failed_iff, fun e => encode_error⟩
  have hencode := encode_eq_ok_iff.mpr ⟨by omega, hmax, s, hs, hfits, rfl⟩
  refine ⟨isSquare_of_ofText? hs, _, hencode, rfl, rfl, PixelMatrix.filled_tabulate _ _ _,
    two_colours_draw s side.toNat, placing s.side side.toNat,
    ⟨isFit_placing s.side side.toNat, shows_draw s side.toNat⟩, ?_⟩
  rintro p ⟨hfit, -⟩
  exact isFit_iff.mp hfit

end ReceiptPrinter.Qr
