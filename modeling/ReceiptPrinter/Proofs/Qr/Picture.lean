/-
From a text to dots.

Of every text there is one symbol, and it is a square. It is drawn with each
module as a square block of pixels, the blocks side by side, and a light
margin around them. A picture of this kind never has to be shrunk, for it is
no larger than the bound and than the widest band; so what is printed is
just what was drawn, and the dots are the blocks of the dark modules.
-/
import ReceiptPrinter.Proofs.Raster.RoundTrip
import ReceiptPrinter.Qr.Picture

namespace ReceiptPrinter.Qr

-- ================================================================ symbols

/-- A symbol has a module for every place of a square. -/
def Symbol.IsSquare (s : Symbol) : Prop := s.modules.size = s.side * s.side

/-- The best of several is one of them. -/
theorem exists_rated (rated : Nat → Symbol × Nat) (masks : List Nat) {best : Symbol × Nat}
    (hbest : ∃ mask, best = rated mask) :
    ∃ mask, masks.foldl (fun best mask => better best (rated (mask + 1))) best = rated mask := by
  induction masks generalizing best with
  | nil => exact hbest
  | cons mask rest ih =>
    have hbetter : ∃ mask', better best (rated (mask + 1)) = rated mask' := by
      unfold better
      split
      · exact ⟨mask + 1, rfl⟩
      · exact hbest
    exact ih hbetter

/-- A symbol is one of those that differ in their masks only. -/
theorem exists_masked (version : Nat) (all : Bytes) :
    ∃ mask, Symbol.ofCodewords version all
      = masked (sideOf version) (roles version) (placed (sideOf version) (roles version) all)
          mask := by
  unfold Symbol.ofCodewords
  obtain ⟨mask, hmask⟩ := exists_rated (fun mask =>
    let s := masked (sideOf version) (roles version) (placed (sideOf version) (roles version) all)
      mask
    (s, s.penalty)) (List.range 7) ⟨0, rfl⟩
  exact ⟨mask, congrArg Prod.fst hmask⟩

theorem isSquare_ofCodewords (version : Nat) (all : Bytes) :
    (Symbol.ofCodewords version all).IsSquare := by
  obtain ⟨mask, hmask⟩ := exists_masked version all
  rw [hmask]
  exact Array.size_ofFn

theorem side_ofCodewords (version : Nat) (all : Bytes) :
    (Symbol.ofCodewords version all).side = sideOf version := by
  obtain ⟨mask, hmask⟩ := exists_masked version all
  rw [hmask]
  rfl

theorem isSquare_of_ofText? {text : Bytes} {s : Symbol} (h : Symbol.ofText? text = some s) :
    s.IsSquare := by
  obtain ⟨payload, -, rfl⟩ := Option.map_eq_some_iff.mp h
  exact isSquare_ofCodewords _ _

-- ================================================================ drawing

/-- A text can be drawn if the side is allowed, the text is not too long and
the symbol fits with its margin. -/
theorem encode_eq_ok_iff {text : Bytes} {side : Int} {picture : PixelMatrix} :
    encode text side = .ok picture ↔
      0 < side ∧ side ≤ maxSide ∧ ∃ s, Symbol.ofText? text = some s
        ∧ s.side + 2 * marginModules ≤ side.toNat ∧ picture = draw s side.toNat := by
  have hencode : encode text side = .ok picture ↔ Qr.picture text side = .ok picture := by
    unfold encode
    cases Qr.picture text side with
    | ok m => constructor <;> (intro h; cases h; rfl)
    | error refusal => exact ⟨nofun, nofun⟩
  rw [hencode]
  unfold Qr.picture
  by_cases hpositive : side ≤ 0
  · rw [if_pos hpositive]
    exact ⟨nofun, fun h => absurd h.1 (Int.not_lt.mpr hpositive)⟩
  · rw [if_neg hpositive]
    by_cases hlarge : (maxSide : Int) < side
    · rw [if_pos hlarge]
      exact ⟨nofun, fun h => absurd h.2.1 (Int.not_le.mpr hlarge)⟩
    · rw [if_neg hlarge]
      cases Symbol.ofText? text with
      | none => exact ⟨nofun, fun ⟨_, _, s, hs, _⟩ => nomatch hs⟩
      | some s =>
        dsimp only
        by_cases hroom : side.toNat < s.side + 2 * marginModules
        · rw [if_pos hroom]
          refine ⟨nofun, ?_⟩
          rintro ⟨-, -, s', hs, hfits, -⟩
          cases hs
          exact absurd hroom (Nat.not_lt.mpr hfits)
        · rw [if_neg hroom]
          constructor
          · intro h
            cases h
            exact ⟨Int.not_le.mp hpositive, Int.not_lt.mp hlarge, s, rfl, Nat.not_lt.mp hroom, rfl⟩
          · rintro ⟨-, -, s', hs, -, rfl⟩
            cases hs
            rfl

/-- The pixel in column `x` of row `y` belongs to the block of the module in
column `i` of row `j`. -/
def Placing.Covers (p : Placing) (i j x y : Nat) : Prop :=
  (p.origin + i * p.scale ≤ x ∧ x < p.origin + (i + 1) * p.scale)
    ∧ (p.origin + j * p.scale ≤ y ∧ y < p.origin + (j + 1) * p.scale)

/-- A symbol that fits with its margin has blocks of at least one pixel, and
all of them are in the picture. -/
theorem placing_spec {modules side : Nat} (h : modules + 2 * marginModules ≤ side) :
    1 ≤ (placing modules side).scale
      ∧ (placing modules side).origin + modules * (placing modules side).scale ≤ side := by
  unfold placing marginModules at *
  dsimp only
  have hscale : 1 ≤ side / (modules + 2 * 1) := (Nat.one_le_div_iff (by omega)).mpr h
  have htotal : (modules + 2 * 1) * (side / (modules + 2 * 1)) ≤ side := Nat.mul_div_le _ _
  refine ⟨hscale, ?_⟩
  generalize side / (modules + 2 * 1) = scale at *
  rw [Nat.add_mul] at htotal ⊢
  omega

/-- The module whose block a coordinate lies in. -/
theorem block_iff {origin scale n i x : Nat} (hscale : 1 ≤ scale) (hx : origin ≤ x)
    (hend : x < origin + n * scale) :
    (i < n ∧ origin + i * scale ≤ x ∧ x < origin + (i + 1) * scale) ↔ i = (x - origin) / scale := by
  constructor
  · rintro ⟨-, hlow, hhigh⟩
    symm
    rw [Nat.div_eq_iff (by omega)]
    rw [Nat.add_mul] at hhigh
    omega
  · rintro rfl
    have hdiv := Nat.div_add_mod' (x - origin) scale
    have hmod := Nat.mod_lt (x - origin) hscale
    refine ⟨?_, ?_, ?_⟩
    · rw [Nat.div_lt_iff_lt_mul hscale]
      omega
    · omega
    · rw [Nat.add_mul]
      omega

theorem prints_black : Pixel.black.prints = true := by decide

theorem prints_white : Pixel.white.prints = false := by decide

/-- The dots of a drawn symbol, in terms of the module whose block a pixel
belongs to. -/
theorem dot_draw {s : Symbol} {side x y : Nat} (hx : x < side) (hy : y < side) :
    let p := placing s.side side
    Raster.dot (draw s side) x y = true ↔
      (p.origin ≤ x ∧ x < p.origin + s.side * p.scale)
        ∧ (p.origin ≤ y ∧ y < p.origin + s.side * p.scale)
        ∧ s.dark ((x - p.origin) / p.scale) ((y - p.origin) / p.scale) = true := by
  intro p
  have hpixel : (draw s side).at? x y = some
      (if x < p.origin ∨ y < p.origin ∨ p.origin + s.side * p.scale ≤ x
          ∨ p.origin + s.side * p.scale ≤ y then Pixel.white
        else if s.dark ((x - p.origin) / p.scale) ((y - p.origin) / p.scale) then Pixel.black
        else Pixel.white) := PixelMatrix.at?_tabulate _ hx hy
  have hheight : y < (draw s side).height := hy
  unfold Raster.dot
  rw [hpixel, decide_eq_true hheight, Bool.true_and, Option.any_some]
  split
  · next hmargin =>
    rw [prints_white]
    refine ⟨nofun, ?_⟩
    rintro ⟨⟨hlowx, hhighx⟩, ⟨hlowy, hhighy⟩, -⟩
    omega
  · next hinside =>
    have hin : (p.origin ≤ x ∧ x < p.origin + s.side * p.scale)
        ∧ (p.origin ≤ y ∧ y < p.origin + s.side * p.scale) := by omega
    split
    · next hdark =>
      rw [prints_black]
      exact ⟨fun _ => ⟨hin.1, hin.2, hdark⟩, fun _ => rfl⟩
    · next hlight =>
      rw [prints_white]
      exact ⟨nofun, fun h => absurd h.2.2 hlight⟩

/-- The dots of a drawn symbol are the blocks of its dark modules. -/
theorem dot_draw_iff {s : Symbol} {side : Nat} (h : s.side + 2 * marginModules ≤ side) (x y : Nat) :
    (x < side ∧ Raster.dot (draw s side) x y = true) ↔
      ∃ i j, i < s.side ∧ j < s.side ∧ s.dark i j = true
        ∧ (placing s.side side).Covers i j x y := by
  obtain ⟨hscale, hend⟩ := placing_spec h
  constructor
  · rintro ⟨hx, hdot⟩
    have hy : y < side := by
      unfold Raster.dot at hdot
      exact of_decide_eq_true (Bool.and_eq_true_iff.mp hdot).1
    obtain ⟨⟨hlowx, hhighx⟩, ⟨hlowy, hhighy⟩, hdark⟩ := (dot_draw hx hy).mp hdot
    obtain ⟨hi, hcolumn⟩ := (block_iff hscale hlowx hhighx).mpr rfl
    obtain ⟨hj, hrow⟩ := (block_iff hscale hlowy hhighy).mpr rfl
    exact ⟨_, _, hi, hj, hdark, hcolumn, hrow⟩
  · rintro ⟨i, j, hi, hj, hdark, ⟨hlowx, hhighx⟩, ⟨hlowy, hhighy⟩⟩
    -- the block is in the picture, past the margin
    have hinside : ∀ {k}, k < s.side → (placing s.side side).origin
        + (k + 1) * (placing s.side side).scale
          ≤ (placing s.side side).origin + s.side * (placing s.side side).scale := fun hk =>
      Nat.add_le_add_left (Nat.mul_le_mul_right _ hk) _
    have hendx := Nat.lt_of_lt_of_le hhighx (hinside hi)
    have hendy := Nat.lt_of_lt_of_le hhighy (hinside hj)
    have hstartx : (placing s.side side).origin ≤ x := Nat.le_of_add_right_le hlowx
    have hstarty : (placing s.side side).origin ≤ y := Nat.le_of_add_right_le hlowy
    have hx : x < side := Nat.lt_of_lt_of_le hendx hend
    have hy : y < side := Nat.lt_of_lt_of_le hendy hend
    refine ⟨hx, (dot_draw hx hy).mpr ⟨⟨hstartx, hendx⟩, ⟨hstarty, hendy⟩, ?_⟩⟩
    rw [← (block_iff hscale hstartx hendx).mp ⟨hi, hlowx, hhighx⟩,
      ← (block_iff hscale hstarty hendy).mp ⟨hj, hlowy, hhighy⟩]
    exact hdark

-- =============================================================== printing

/-- What can be drawn is printed as it is. -/
theorem encode_draw {s : Symbol} {side bound : Int} (hpositive : 0 < side) (hmax : side ≤ maxSide)
    (hbound : side ≤ bound) :
    (draw s side.toNat).fit bound = .ok (draw s side.toNat)
      ∧ Raster.encode (draw s side.toNat) bound = .ok (Raster.bands (draw s side.toNat)) := by
  have hwidth : (draw s side.toNat).width = side.toNat := rfl
  have hlarger : (draw s side.toNat).larger = side.toNat := Nat.max_self side.toNat
  have hfit : (draw s side.toNat).fit bound = .ok (draw s side.toNat) := by
    unfold PixelMatrix.fit
    dsimp only
    rw [if_neg (by omega), if_pos (by omega)]
  refine ⟨hfit, Raster.encode_eq_ok_iff.mpr ⟨_, hfit, ?_, rfl⟩⟩
  rw [hwidth]
  unfold maxSide at hmax
  show side.toNat < 65536
  omega

/-- The bands of a drawn symbol, read by the grammar, hold the blocks of its
dark modules and nothing else. -/
theorem bands_draw {s : Symbol} {side : Nat} (h : s.side + 2 * marginModules ≤ side)
    (hmax : side ≤ maxSide) :
    ∃ bands, Raster.IsPicture (Raster.bands (draw s side)).bytes bands
      ∧ bands.length = (side + 23) / 24 ∧ (∀ band ∈ bands, band.width = side)
      ∧ ∀ x y, Raster.dotAt bands x y = true ↔
          ∃ i j, i < s.side ∧ j < s.side ∧ s.dark i j = true
            ∧ (placing s.side side).Covers i j x y := by
  have hwidth : (draw s side).width < UInt16.size := by
    show side < 65536
    unfold maxSide at hmax
    omega
  refine ⟨Raster.imageBands (draw s side), Raster.isPicture_bands hwidth, ?_, ?_, fun x y => ?_⟩
  · unfold Raster.imageBands
    rw [List.length_map, List.length_range]
    rfl
  · intro band hband
    obtain ⟨number, -, rfl⟩ := List.mem_map.mp hband
    rfl
  · rw [Raster.dotAt_imageBands, Bool.and_eq_true, decide_eq_true_iff]
    exact dot_draw_iff h x y

end ReceiptPrinter.Qr
