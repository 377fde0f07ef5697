/-
Where the encoder reads.

`encode` takes a missing pixel for a dot that is not set. The program has no
such way out: it reads the pixel from the buffer, and a read past the end of
the buffer ends it. `encode?` is the same job with reads that can fail, where
a failed read fails the whole job; rows past the picture are not read at all.
Its reads are the places of the picture, each of them and no other: it gives
the job that `encode` gives if there is a pixel for every place, and nothing
if there is a place without one. That goes from a dot up to the whole job, as
on each level a step that fails fails the level. A buffer that is full makes
every read good, before a picture is shrunk and after.
-/
import ReceiptPrinter.Proofs.Picture.Fit
import ReceiptPrinter.Raster.Encode

namespace ReceiptPrinter.Raster

-- ================================================================= dots

/-- Whether there is a dot in column `x` of row `y`, if the pixel can be
read. -/
def readDot (image : PixelMatrix) (x y : Nat) : Option Bool :=
  if y < image.height then (image.at? x y).map Pixel.prints else some false

/-- Eight dots of column `x` as a byte, from row `top` on. -/
def readByte (image : PixelMatrix) (top x : Nat) : Option UInt8 :=
  (List.range 8).foldlM (fun byte bit => do
    let set ← readDot image x (top + bit)
    return byte * 2 + if set then 1 else 0) 0

/-- One column of the band that starts at row `top`. -/
def readColumn (image : PixelMatrix) (top x : Nat) : Option Bytes :=
  (List.range 3).mapM fun segment => readByte image (top + segment * 8) x

-- ================================================================ chunks

/-- The three chunks of the band with the given number. -/
def readBand (image : PixelMatrix) (band : Nat) : Option (List Bytes) := do
  let columns ← (List.range image.width).mapM (readColumn image (band * bandHeight))
  return [bandHeader image.width, columns.flatten, Command.lineFeed]

/-- The job that prints a picture as it is. -/
def readBands (image : PixelMatrix) : Option Stream := do
  let bands ← (List.range (bandCount image.height)).mapM (readBand image)
  return ⟨opening ++ bands.flatten ++ closing⟩

/-- The job that prints a picture with no side above `bound`, or the error
of it; nothing if a pixel is read past the end of the buffer. -/
def encode? (picture : PixelMatrix) (bound : Int) : Option (Outcome Stream) :=
  match picture.fit bound with
  | .error e => some (.error e)
  | .ok image =>
    if image.width < UInt16.size then
      (readBands image).map .ok
    else
      some (.error (TooWide.error ⟨image.width⟩))

-- ========================================================= steps that fail

section Steps

variable {α β : Type} {l : List α} {a : α}

/-- If no step fails, the steps are those that cannot. -/
theorem mapM_eq_some {step : α → Option β} {result : α → β}
    (h : ∀ a ∈ l, step a = some (result a)) : l.mapM step = some (l.map result) := by
  induction l with
  | nil => rfl
  | cons a rest ih =>
    rw [List.mapM_cons, h a List.mem_cons_self,
      ih fun b hb => h b (List.mem_cons_of_mem a hb)]
    rfl

theorem foldlM_eq_some {step : β → α → Option β} {result : β → α → β}
    (h : ∀ b, ∀ a ∈ l, step b a = some (result b a)) (b : β) :
    l.foldlM step b = some (l.foldl result b) := by
  induction l generalizing b with
  | nil => rfl
  | cons a rest ih =>
    rw [List.foldlM_cons, h b a List.mem_cons_self]
    exact ih (fun b' a' ha => h b' a' (List.mem_cons_of_mem a ha)) (result b a)

/-- One step that fails is enough. -/
theorem mapM_eq_none {step : α → Option β} (ha : a ∈ l) (h : step a = none) :
    l.mapM step = none := by
  induction l with
  | nil => cases ha
  | cons a' rest ih =>
    rw [List.mapM_cons]
    rcases List.mem_cons.mp ha with rfl | ha
    · rw [h]
      rfl
    · rw [ih ha]
      cases step a' <;> rfl

theorem foldlM_eq_none {step : β → α → Option β} (ha : a ∈ l) (h : ∀ b, step b a = none)
    (b : β) : l.foldlM step b = none := by
  induction l generalizing b with
  | nil => cases ha
  | cons a' rest ih =>
    rw [List.foldlM_cons]
    rcases List.mem_cons.mp ha with rfl | ha
    · rw [h]
      rfl
    · cases step b a' with
      | none => rfl
      | some b' => exact ih ha b'

end Steps

-- ============================================================ every place

section Everywhere

variable {image : PixelMatrix}
  (hplaces : ∀ x y, x < image.width → y < image.height → ∃ pixel, image.at? x y = some pixel)
include hplaces

theorem readDot_eq {x : Nat} (hx : x < image.width) (y : Nat) :
    readDot image x y = some (dot image x y) := by
  unfold readDot dot
  by_cases hy : y < image.height
  · obtain ⟨pixel, hpixel⟩ := hplaces x y hx hy
    rw [if_pos hy, hpixel, decide_eq_true hy]
    rfl
  · rw [if_neg hy, decide_eq_false hy]
    rfl

theorem readByte_eq {x : Nat} (hx : x < image.width) (top : Nat) :
    readByte image top x = some (packByte fun bit => dot image x (top + bit)) := by
  apply foldlM_eq_some
  intro byte bit _
  rw [readDot_eq hplaces hx]
  rfl

theorem readColumn_eq {x : Nat} (hx : x < image.width) (top : Nat) :
    readColumn image top x = some (columnSlice image top x) :=
  mapM_eq_some fun segment _ => readByte_eq hplaces hx (top + segment * 8)

theorem readBand_eq (band : Nat) : readBand image band = some (bandChunks image band) := by
  have hcolumns : (List.range image.width).mapM (readColumn image (band * bandHeight))
      = some ((List.range image.width).map (columnSlice image (band * bandHeight))) :=
    mapM_eq_some fun x hx => readColumn_eq hplaces (List.mem_range.mp hx) _
  unfold readBand bandChunks bandData
  rw [hcolumns, List.flatMap_def]
  rfl

theorem readBands_eq : readBands image = some (bands image) := by
  have hbands : (List.range (bandCount image.height)).mapM (readBand image)
      = some ((List.range (bandCount image.height)).map (bandChunks image)) :=
    mapM_eq_some fun band _ => readBand_eq hplaces band
  unfold readBands bands
  rw [hbands, List.flatMap_def]
  rfl

end Everywhere

-- ========================================================= a missing place

/-- A place without a pixel fails the job: it is in a band, in a column of
it, and in a byte of that. -/
theorem readBands_eq_none {image : PixelMatrix} {x y : Nat} (hx : x < image.width)
    (hy : y < image.height) (hmissing : image.at? x y = none) : readBands image = none := by
  have hdot : readDot image x y = none := by
    unfold readDot
    rw [if_pos hy, hmissing]
    rfl
  have hbyte : readByte image (y / 24 * 24 + y % 24 / 8 * 8) x = none := by
    apply foldlM_eq_none (List.mem_range.mpr (Nat.mod_lt y (by decide : 8 > 0)))
    intro byte
    rw [show y / 24 * 24 + y % 24 / 8 * 8 + y % 8 = y by omega, hdot]
    rfl
  have hcolumn : readColumn image (y / 24 * bandHeight) x = none :=
    mapM_eq_none (List.mem_range.mpr (show y % 24 / 8 < 3 by omega)) hbyte
  have hband : readBand image (y / 24) = none := by
    unfold readBand
    rw [mapM_eq_none (List.mem_range.mpr hx) hcolumn]
    rfl
  have hcount : y / 24 < bandCount image.height := by
    unfold bandCount bandHeight
    omega
  unfold readBands
  rw [mapM_eq_none (List.mem_range.mpr hcount) hband]
  rfl

/-- A job fails for a missing place and for nothing else. -/
theorem readBands_eq_none_iff {image : PixelMatrix} : readBands image = none ↔
    ∃ x y, x < image.width ∧ y < image.height ∧ image.at? x y = none := by
  constructor
  · intro h
    apply Classical.byContradiction
    intro hfull
    have hplaces : ∀ x y, x < image.width → y < image.height →
        ∃ pixel, image.at? x y = some pixel := by
      intro x y hx hy
      cases hpixel : image.at? x y with
      | some pixel => exact ⟨pixel, rfl⟩
      | none => exact absurd ⟨x, y, hx, hy, hpixel⟩ hfull
    rw [readBands_eq hplaces] at h
    cases h
  · intro ⟨x, y, hx, hy, hmissing⟩
    exact readBands_eq_none hx hy hmissing

-- =============================================================== encoding

/-- A full buffer is enough for every bound: a picture that is shrunk has a
full buffer again. -/
theorem encode?_eq {picture : PixelMatrix} (hfilled : picture.Filled) (bound : Int) :
    encode? picture bound = some (encode picture bound) := by
  unfold encode? encode
  cases hfit : picture.fit bound with
  | error e => rfl
  | ok image =>
    have hfull := PixelMatrix.filled_of_fit hfilled hfit
    show (if image.width < UInt16.size then _ else _)
      = some (if image.width < UInt16.size then _ else _)
    rw [readBands_eq fun x y hx hy => hfull.exists_at? hx hy]
    split <;> rfl

/-- A picture is read once it has been fitted and its columns can be counted;
the encoder ends there exactly if it has a place without a pixel. -/
theorem encode?_eq_none_iff {picture : PixelMatrix} {bound : Int} :
    encode? picture bound = none ↔ ∃ image, picture.fit bound = .ok image
      ∧ image.width < UInt16.size
      ∧ ∃ x y, x < image.width ∧ y < image.height ∧ image.at? x y = none := by
  unfold encode?
  cases hfit : picture.fit bound with
  | error e =>
    constructor
    · intro h
      cases h
    · intro ⟨image, himage, _⟩
      cases himage
  | ok image =>
    dsimp only
    by_cases hwidth : image.width < UInt16.size
    · rw [if_pos hwidth, Option.map_eq_none_iff, readBands_eq_none_iff]
      constructor
      · exact fun hmissing => ⟨image, rfl, hwidth, hmissing⟩
      · intro ⟨image', himage, _, hmissing⟩
        cases himage
        exact hmissing
    · rw [if_neg hwidth]
      constructor
      · intro h
        cases h
      · intro ⟨image', himage, hwidth', _⟩
        cases himage
        exact absurd hwidth' hwidth

end ReceiptPrinter.Raster
