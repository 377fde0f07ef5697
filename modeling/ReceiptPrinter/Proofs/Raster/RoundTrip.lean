/-
A printed picture can be read back.

The bytes of a picture are read by the grammar in one way only, and the
dots that are read are those of the picture: every dot in its place, and
nothing beside or below the picture. It goes from the smallest part up: eight
dots in a byte, bytes in a column, columns in a band, bands in a picture.
-/
import Mathlib.Algebra.Group.Nat.Defs
import ReceiptPrinter.Proofs.Picture.Fit
import ReceiptPrinter.Proofs.Raster.Grammar

namespace ReceiptPrinter.Raster

-- ================================================== eight dots in a byte

/-- The first `n` dots as a number, the first in the highest place. -/
def packed (dots : Nat → Bool) (n : Nat) : Nat :=
  (List.range n).foldl (fun value bit => value * 2 + if dots bit then 1 else 0) 0

theorem packed_succ (dots : Nat → Bool) (n : Nat) :
    packed dots (n + 1) = packed dots n * 2 + if dots n then 1 else 0 := by
  unfold packed
  rw [List.range_succ, List.foldl_append, List.foldl_cons, List.foldl_nil]

theorem packed_lt (dots : Nat → Bool) (n : Nat) : packed dots n < 2 ^ n := by
  induction n with
  | zero => exact Nat.one_pos
  | succ n ih =>
    rw [packed_succ, Nat.pow_succ]
    split <;> omega

/-- Each dot is in its place. -/
theorem testBit_packed (dots : Nat → Bool) {n bit : Nat} (h : bit < n) :
    (packed dots n).testBit (n - 1 - bit) = dots bit := by
  induction n with
  | zero => omega
  | succ n ih =>
    rw [packed_succ]
    -- the last dot is in the lowest place, the others have moved up by one
    by_cases hlast : bit = n
    · subst hlast
      rw [show bit + 1 - 1 - bit = 0 by omega, Nat.testBit_zero]
      cases dots bit <;> simp
    · rw [show n + 1 - 1 - bit = (n - 1 - bit) + 1 by omega, Nat.testBit_succ]
      rw [show (packed dots n * 2 + if dots n then 1 else 0) / 2 = packed dots n by
        split <;> omega]
      exact ih (by omega)

/-- A byte has room for eight dots. -/
theorem toNat_packByte (dots : Nat → Bool) : (packByte dots).toNat = packed dots 8 := by
  have hfold : ∀ n, n ≤ 8 → ((List.range n).foldl
      (fun (byte : UInt8) bit => byte * 2 + if dots bit then 1 else 0) 0).toNat = packed dots n := by
    intro n
    induction n with
    | zero => exact fun _ => rfl
    | succ n ih =>
      intro hn
      -- up to eight dots nothing runs over
      have hlt := packed_lt dots (n + 1)
      have hbyte : 2 ^ (n + 1) ≤ 2 ^ 8 := Nat.pow_le_pow_right (by omega) hn
      rw [packed_succ] at hlt ⊢
      rw [List.range_succ, List.foldl_append, List.foldl_cons, List.foldl_nil, UInt8.toNat_add,
        UInt8.toNat_mul, ih (by omega)]
      cases dots n <;> simp at hlt ⊢ <;> omega
  exact hfold 8 (Nat.le_refl 8)

theorem testBit_packByte (dots : Nat → Bool) {bit : Nat} (h : bit < 8) :
    (packByte dots).toNat.testBit (7 - bit) = dots bit := by
  rw [toNat_packByte]
  exact testBit_packed dots h

-- ===================================================== columns in a band

theorem length_flatMap_range {f : Nat → Bytes} (hf : ∀ x, (f x).length = 3) (n : Nat) :
    ((List.range n).flatMap f).length = 3 * n := by
  induction n with
  | zero => rfl
  | succ n ih =>
    rw [List.range_succ, List.flatMap_append, List.length_append, ih, List.flatMap_singleton, hf]
    omega

/-- Where a byte of a piece is among all pieces. -/
theorem getElem?_flatMap_range {f : Nat → Bytes} (hf : ∀ x, (f x).length = 3) {n x s : Nat}
    (hx : x < n) (hs : s < 3) : ((List.range n).flatMap f)[3 * x + s]? = (f x)[s]? := by
  induction n with
  | zero => omega
  | succ n ih =>
    have hlength := length_flatMap_range hf n
    rw [List.range_succ, List.flatMap_append, List.flatMap_singleton]
    -- in the last piece, or in one before it
    by_cases hlast : x = n
    · subst hlast
      rw [List.getElem?_append_right (by omega), hlength, Nat.add_sub_cancel_left]
    · rw [List.getElem?_append_left (by omega)]
      exact ih (by omega)

theorem length_bandData (image : PixelMatrix) (top : Nat) :
    (bandData image top).length = 3 * image.width :=
  length_flatMap_range (fun _ => rfl) image.width

theorem getElem?_columnSlice (image : PixelMatrix) (top x : Nat) {s : Nat} (hs : s < 3) :
    (columnSlice image top x)[s]? = some (packByte fun bit => dot image x (top + 8 * s + bit)) := by
  match s, hs with
  | 0, _ => rfl
  | 1, _ => rfl
  | 2, _ => rfl

-- ===================================================== bands in a picture

/-- The band with the given number. -/
def imageBand (image : PixelMatrix) (band : Nat) : Band :=
  ⟨image.width, bandData image (band * bandHeight)⟩

/-- All bands of a picture. -/
def imageBands (image : PixelMatrix) : List Band :=
  (List.range (bandCount image.height)).map (imageBand image)

theorem dot_imageBand (image : PixelMatrix) (band x : Nat) {y : Nat} (hy : y < bandHeight) :
    (imageBand image band).dot x y
      = (decide (x < image.width) && dot image x (band * bandHeight + y)) := by
  have hs : y / 8 < 3 := by
    unfold bandHeight at hy
    omega
  unfold Band.dot
  dsimp only [imageBand]
  by_cases hx : x < image.width
  · -- dot `y` of a column is in its byte `y / 8`
    have hbyte : (bandData image (band * bandHeight))[3 * x + y / 8]?
        = some (packByte fun bit => dot image x (band * bandHeight + 8 * (y / 8) + bit)) :=
      (getElem?_flatMap_range (fun _ => rfl) hx hs).trans (getElem?_columnSlice image _ x hs)
    rw [hbyte]
    dsimp only
    rw [testBit_packByte _ (Nat.mod_lt y (by omega)), decide_eq_true hx, Bool.true_and,
      Nat.add_assoc, Nat.div_add_mod]
  · -- past the last column the data has ended
    have hlength := length_bandData image (band * bandHeight)
    rw [List.getElem?_eq_none (by omega), decide_eq_false hx, Bool.false_and]

/-- The bands hold every dot of the picture, and no other. -/
theorem dotAt_imageBands (image : PixelMatrix) (x y : Nat) :
    dotAt (imageBands image) x y = (decide (x < image.width) && dot image x y) := by
  have hy : y % bandHeight < bandHeight := Nat.mod_lt y (by decide)
  unfold dotAt imageBands
  rw [List.getElem?_map]
  by_cases hband : y / bandHeight < bandCount image.height
  · rw [List.getElem?_range hband, Option.map_some]
    dsimp only
    rw [dot_imageBand image _ x hy, Nat.div_add_mod']
  · -- below the last band the picture has ended, too
    have hbelow : ¬ y < image.height := by
      unfold bandCount bandHeight at hband
      omega
    rw [List.getElem?_eq_none (by rw [List.length_range]; omega), Option.map_none]
    dsimp only [dot]
    rw [decide_eq_false hbelow, Bool.false_and, Bool.and_false]

-- ================================================================ framing

/-- A width of two bytes is read as it was written. -/
theorem width_of_bytes {width : Nat} (h : width < UInt16.size) :
    width.toUInt16.toUInt8.toNat + 256 * (width.toUInt16 >>> 8).toUInt8.toNat = width := by
  have hword : width.toUInt16.toNat = width := Nat.mod_eq_of_lt h
  have hbytes : width < 256 * 256 := h
  rw [UInt16.toNat_toUInt8, UInt16.toNat_toUInt8, UInt16.toNat_shiftRight, hword]
  show width % 2 ^ 8 + 256 * ((width >>> 8) % 2 ^ 8) = width
  rw [Nat.shiftRight_eq_div_pow]
  omega

theorem isBand_bandChunks {image : PixelMatrix} (h : image.width < UInt16.size) (band : Nat) :
    IsBand (bandChunks image band).flatten (imageBand image band) := by
  have hwidth := width_of_bytes h
  have hlength := length_bandData image (band * bandHeight)
  have hband : IsBand ([0x1B, 0x2A, 0x21, image.width.toUInt16.toUInt8,
      (image.width.toUInt16 >>> 8).toUInt8] ++ bandData image (band * bandHeight) ++ [0x0A])
      ⟨_, bandData image (band * bandHeight)⟩ := .band (by rw [hwidth, hlength])
  rw [hwidth] at hband
  unfold bandChunks
  rw [List.flatten_cons, List.flatten_cons, List.flatten_singleton, ← List.append_assoc]
  exact hband

theorem areBands_bandChunks {image : PixelMatrix} (h : image.width < UInt16.size)
    (numbers : List Nat) :
    AreBands (numbers.flatMap (bandChunks image)).flatten (numbers.map (imageBand image)) := by
  induction numbers with
  | nil => exact .nil
  | cons number rest ih =>
    rw [List.flatMap_cons, List.flatten_append, List.map_cons]
    exact .cons (isBand_bandChunks h number) ih

/-- The bytes of a picture are a picture. -/
theorem isPicture_bands {image : PixelMatrix} (h : image.width < UInt16.size) :
    IsPicture (bands image).bytes (imageBands image) := by
  refine ⟨_, areBands_bandChunks h (List.range (bandCount image.height)), ?_⟩
  show (opening ++ (List.range (bandCount image.height)).flatMap (bandChunks image)
    ++ closing).flatten = _
  rw [List.flatten_append, List.flatten_append]
  rfl

-- ======================================================= the whole picture

/-- What is read from the bytes of a picture is the picture. There is one
way to read them, it leaves no byte over, and it gives a band for every 24
rows, the last one begun or not; each has the width of the fitted picture.
A dot is set where the picture has a pixel that prints, and nowhere else. A
picture with a pixel for every place has one there after fitting, too. -/
theorem encode_round_trip {picture : PixelMatrix} {bound : Int} {stream : Stream}
    (h : encode picture bound = .ok stream) :
    ∃ image bands, picture.fit bound = .ok image
      ∧ IsPicture stream.bytes bands
      ∧ (∀ bands', IsPicture stream.bytes bands' → bands' = bands)
      ∧ decode? stream.bytes = some bands
      ∧ bands.length = (image.height + 23) / 24
      ∧ (∀ band ∈ bands, band.width = image.width)
      ∧ (∀ x y, dotAt bands x y = true ↔ x < image.width ∧ y < image.height
          ∧ ∃ pixel, image.at? x y = some pixel ∧ pixel.prints = true)
      ∧ (picture.Filled → ∀ x y, x < image.width → y < image.height →
          ∃ pixel, image.at? x y = some pixel ∧ dotAt bands x y = pixel.prints) := by
  obtain ⟨image, hfit, hwidth, rfl⟩ := encode_eq_ok_iff.mp h
  have hpicture := isPicture_bands hwidth
  refine ⟨image, imageBands image, hfit, hpicture, fun _ => hpicture.unique,
    decode?_eq_some_iff.mpr hpicture, ?_, ?_, ?_, ?_⟩
  · unfold imageBands
    rw [List.length_map, List.length_range]
    rfl
  · intro band hband
    obtain ⟨number, -, rfl⟩ := List.mem_map.mp hband
    rfl
  · intro x y
    rw [dotAt_imageBands, dot, Bool.and_eq_true, Bool.and_eq_true, decide_eq_true_iff,
      decide_eq_true_iff, Option.any_eq_true]
  · intro hfilled x y hx hy
    obtain ⟨pixel, hpixel⟩ := (PixelMatrix.filled_of_fit hfilled hfit).exists_at? hx hy
    refine ⟨pixel, hpixel, ?_⟩
    rw [dotAt_imageBands, dot, hpixel, decide_eq_true hx, decide_eq_true hy, Bool.true_and,
      Bool.true_and, Option.any_some]

/-- A picture of two bands, the second one begun only, whose width takes two
bytes. -/
theorem round_trip_two_bands :
    ∃ bands, decode? (Raster.bands (PixelMatrix.tabulate 300 30 fun _ _ => Pixel.black)).bytes
        = some bands
      ∧ bands.length = 2
      ∧ (∀ band ∈ bands, band.width = 300)
      ∧ dotAt bands 299 29 = Pixel.black.prints
      ∧ dotAt bands 299 30 = false := by
  have hencode : encode (PixelMatrix.tabulate 300 30 fun _ _ => Pixel.black) 512
      = .ok (Raster.bands (PixelMatrix.tabulate 300 30 fun _ _ => Pixel.black)) :=
    encode_eq_ok_iff.mpr ⟨_, rfl, by decide, rfl⟩
  obtain ⟨image, bands, hfit, -, -, hdecode, hlength, hwidth, hdots, hpixels⟩ :=
    encode_round_trip hencode
  cases hfit
  obtain ⟨pixel, hpixel, hdot⟩ :=
    hpixels (PixelMatrix.filled_tabulate _ _ _) 299 29 (by decide) (by decide)
  rw [PixelMatrix.at?_tabulate _ (by decide) (by decide)] at hpixel
  cases hpixel
  refine ⟨bands, hdecode, hlength, hwidth, hdot, ?_⟩
  rw [← Bool.not_eq_true, hdots]
  rintro ⟨-, hy, -⟩
  exact absurd hy (by decide)

end ReceiptPrinter.Raster
