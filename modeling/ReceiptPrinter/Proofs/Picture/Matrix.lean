/-
Which pictures have a pixel for every place.

The places of a picture are counted in a machine word. If they fit in one, a
buffer is held against their number and nothing else can happen; if they do
not, there is no number to hold it against, and the program stops. So a
buffer that is accepted is full, and everything the program makes into a
picture has a full buffer (`Made.filled`): by induction on how it was made, a
picture that is shrunk being full whatever it was shrunk from. To stop is the
one thing that goes wrong: no pixels at all are refused for a picture of
2^63 places, and for one of 2^64 they end the program.
-/
import Mathlib.Algebra.Group.Nat.Defs
import ReceiptPrinter.Picture.Sample
import ReceiptPrinter.Proofs.Qr.Picture
import ReceiptPrinter.Proofs.Raster.Read

namespace ReceiptPrinter.PixelMatrix

variable {width height places : Nat} {pixels : Array Pixel} {image : PixelMatrix}
  {f : Nat → Nat → Pixel}

-- ============================================================== the places

theorem places?_eq_some_iff : places? width height = some places ↔
    width * height < UInt64.size ∧ places = width * height := by
  unfold places?
  by_cases hword : width * height < UInt64.size
  · rw [if_pos hword, Option.some.injEq]
    exact ⟨fun h => ⟨hword, h.symm⟩, fun h => h.2.symm⟩
  · rw [if_neg hword]
    exact ⟨nofun, fun h => absurd h.1 hword⟩

theorem places?_eq_none_iff : places? width height = none ↔ UInt64.size ≤ width * height := by
  unfold places?
  by_cases hword : width * height < UInt64.size
  · rw [if_pos hword]
    exact ⟨nofun, fun h => absurd hword (Nat.not_lt.mpr h)⟩
  · rw [if_neg hword]
    exact ⟨fun _ => Nat.le_of_not_lt hword, fun _ => rfl⟩

-- ============================================================== the buffers

theorem ofPixels?_eq_none_iff :
    ofPixels? width height pixels = none ↔ UInt64.size ≤ width * height := by
  unfold ofPixels?
  rw [Option.map_eq_none_iff, places?_eq_none_iff]

/-- What becomes of a buffer whose places can be counted. -/
theorem ofPixels?_eq_some_iff {answer : Outcome PixelMatrix} :
    ofPixels? width height pixels = some answer ↔ width * height < UInt64.size
      ∧ ((pixels.size = width * height ∧ answer = .ok ⟨width, height, pixels⟩)
        ∨ (pixels.size ≠ width * height
          ∧ answer = .error (WrongLength.error ⟨pixels.size, width, height⟩))) := by
  unfold ofPixels?
  rw [Option.map_eq_some_iff]
  constructor
  · intro ⟨places, hplaces, hcheck⟩
    obtain ⟨hword, rfl⟩ := places?_eq_some_iff.mp hplaces
    by_cases hsize : pixels.size = width * height
    · rw [if_pos hsize] at hcheck
      exact ⟨hword, .inl ⟨hsize, hcheck.symm⟩⟩
    · rw [if_neg hsize] at hcheck
      exact ⟨hword, .inr ⟨hsize, hcheck.symm⟩⟩
  · intro ⟨hword, hanswer⟩
    refine ⟨_, places?_eq_some_iff.mpr ⟨hword, rfl⟩, ?_⟩
    obtain ⟨hsize, rfl⟩ | ⟨hsize, rfl⟩ := hanswer
    · exact if_pos hsize
    · exact if_neg hsize

theorem ofPixels?_eq_ok_iff : ofPixels? width height pixels = some (.ok image) ↔
    width * height < UInt64.size ∧ pixels.size = width * height
      ∧ image = ⟨width, height, pixels⟩ := by
  rw [ofPixels?_eq_some_iff]
  constructor
  · intro ⟨hword, hanswer⟩
    obtain ⟨hsize, heq⟩ | ⟨-, heq⟩ := hanswer
    · exact ⟨hword, hsize, Except.ok.inj heq⟩
    · cases heq
  · intro ⟨hword, hsize, himage⟩
    exact ⟨hword, .inl ⟨hsize, congrArg Except.ok himage⟩⟩

-- ============================================================= the drawings

/-- A picture is drawn exactly if there is room for it; its places can then be
counted, too. -/
theorem ofFn?_eq_some_iff : ofFn? width height f = some image ↔
    4 * (width * height) < allocationLimit ∧ image = tabulate width height f := by
  unfold ofFn?
  rw [Option.bind_eq_some_iff]
  constructor
  · intro ⟨places, hplaces, hdrawn⟩
    obtain ⟨-, rfl⟩ := places?_eq_some_iff.mp hplaces
    by_cases hroom : 4 * (width * height) < allocationLimit
    · rw [if_pos hroom] at hdrawn
      cases hdrawn
      exact ⟨hroom, rfl⟩
    · rw [if_neg hroom] at hdrawn
      cases hdrawn
  · intro ⟨hroom, himage⟩
    have hword : width * height < UInt64.size := by
      have hlimit : allocationLimit ≤ UInt64.size := by decide
      omega
    refine ⟨_, places?_eq_some_iff.mpr ⟨hword, rfl⟩, ?_⟩
    rw [if_pos hroom, himage]

theorem filled_of_ofFn? (h : ofFn? width height f = some image) : image.Filled := by
  obtain ⟨-, rfl⟩ := ofFn?_eq_some_iff.mp h
  exact filled_tabulate width height f

/-- A code is a drawing, and there is always room for it. -/
theorem drawn_of_encode {text : Bytes} {side : Int} (h : Qr.encode text side = .ok image) :
    ∃ f, ofFn? side.toNat side.toNat f = some image := by
  obtain ⟨-, hlarge, s, -, -, rfl⟩ := Qr.encode_eq_ok_iff.mp h
  have hside : side.toNat ≤ 4096 := Int.toNat_le.mpr hlarge
  have hroom : 4 * (side.toNat * side.toNat) < allocationLimit := by
    have hplaces : side.toNat * side.toNat ≤ 4096 * 4096 := Nat.mul_le_mul hside hside
    have hlimit : 4 * (4096 * 4096) < allocationLimit := by decide
    omega
  unfold Qr.draw
  exact ⟨_, ofFn?_eq_some_iff.mpr ⟨hroom, rfl⟩⟩

-- ============================================================= what is made

/-- How the program comes by a picture: from a buffer, place by place, from a
decoded file, from a text, or from another picture. -/
inductive Made : PixelMatrix → Prop where
  | given {width height : Nat} {pixels : Array Pixel} {image : PixelMatrix}
      (h : ofPixels? width height pixels = some (.ok image)) : Made image
  | drawn {width height : Nat} {f : Nat → Nat → Pixel} {image : PixelMatrix}
      (h : ofFn? width height f = some image) : Made image
  | decoded (file : DecodedImage) : Made file.toMatrix
  | symbol {text : Bytes} {side : Int} {image : PixelMatrix}
      (h : Qr.encode text side = .ok image) : Made image
  | fitted {picture image : PixelMatrix} {bound : Int} (hmade : Made picture)
      (h : picture.fit bound = .ok image) : Made image

theorem Made.filled (h : Made image) : image.Filled := by
  induction h with
  | given h =>
    obtain ⟨-, hsize, rfl⟩ := ofPixels?_eq_ok_iff.mp h
    exact hsize
  | drawn h => exact filled_of_ofFn? h
  | decoded file => exact filled_tabulate _ _ _
  | symbol h =>
    obtain ⟨f, hdrawn⟩ := drawn_of_encode h
    exact filled_of_ofFn? hdrawn
  | fitted _ h ih => exact filled_of_fit ih h

/-- Buffers, places and reads.

As long as the places of a picture can be counted in a word, a buffer is
accepted exactly if its length is their number, and any other buffer is an
invalid argument; if they cannot, the program stops, and only then. A picture
from a buffer has each element in the place it was put. A picture is drawn
exactly if there is room for it, with the value at each place, and a code is
such a drawing. The encoder reads a fitted picture place by place, and would
end exactly at a place without a pixel. But every picture the program makes
has as many pixels as places and one in each of them, and to encode it for any
bound reads nothing past the end. -/
theorem pixel_in_every_place (width height : Nat) (pixels : Array Pixel) :
    (ofPixels? width height pixels = some (.ok ⟨width, height, pixels⟩) ↔
        width * height < UInt64.size ∧ pixels.size = width * height)
      ∧ ((∃ message, ofPixels? width height pixels = some (.error (.invalidArgument message))) ↔
        width * height < UInt64.size ∧ pixels.size ≠ width * height)
      ∧ (ofPixels? width height pixels = none ↔ UInt64.size ≤ width * height)
      ∧ (∀ image, ofPixels? width height pixels = some (.ok image) →
          image.width = width ∧ image.height = height
            ∧ ∀ x y, image.at? x y = pixels[y * width + x]?)
      ∧ (∀ f, (∃ image, ofFn? width height f = some image) ↔
          4 * (width * height) < 2 ^ 63)
      ∧ (∀ f image, ofFn? width height f = some image →
          image.width = width ∧ image.height = height
            ∧ ∀ x y, x < width → y < height → image.at? x y = some (f x y))
      ∧ (∀ text side image, Qr.encode text side = .ok image →
          ∃ f, ofFn? side.toNat side.toNat f = some image)
      ∧ (∀ picture bound, Raster.encode? picture bound = none ↔
          ∃ image, picture.fit bound = .ok image ∧ image.width ≤ 65535
            ∧ ∃ x y, x < image.width ∧ y < image.height ∧ image.at? x y = none)
      ∧ ∀ image, Made image →
          image.pixels.size = image.width * image.height
            ∧ (∀ x y, x < image.width → y < image.height →
                ∃ pixel, image.at? x y = some pixel)
            ∧ ∀ bound, Raster.encode? image bound = some (Raster.encode image bound) := by
  refine ⟨?_, ?_, ofPixels?_eq_none_iff, fun image himage => ?_, fun f => ?_,
    fun f image himage => ?_, fun _ _ _ => drawn_of_encode, fun picture bound => ?_,
    fun image hmade => ?_⟩
  · rw [ofPixels?_eq_ok_iff]
    exact ⟨fun h => ⟨h.1, h.2.1⟩, fun h => ⟨h.1, h.2, rfl⟩⟩
  · constructor
    · intro ⟨message, hmessage⟩
      obtain ⟨hword, ⟨-, heq⟩ | ⟨hsize, -⟩⟩ := ofPixels?_eq_some_iff.mp hmessage
      · cases heq
      · exact ⟨hword, hsize⟩
    · exact fun ⟨hword, hsize⟩ => ⟨_, ofPixels?_eq_some_iff.mpr ⟨hword, .inr ⟨hsize, rfl⟩⟩⟩
  · obtain ⟨-, -, rfl⟩ := ofPixels?_eq_ok_iff.mp himage
    exact ⟨rfl, rfl, fun x y => rfl⟩
  · constructor
    · intro ⟨image, himage⟩
      exact (ofFn?_eq_some_iff.mp himage).1
    · exact fun hroom => ⟨_, ofFn?_eq_some_iff.mpr ⟨hroom, rfl⟩⟩
  · obtain ⟨-, rfl⟩ := ofFn?_eq_some_iff.mp himage
    exact ⟨rfl, rfl, fun x y hx hy => at?_tabulate f hx hy⟩
  · rw [Raster.encode?_eq_none_iff]
    exact exists_congr fun image => and_congr_right fun _ => and_congr_left' Nat.lt_succ_iff
  · exact ⟨hmade.filled, fun x y hx hy => hmade.filled.exists_at? hx hy,
      Raster.encode?_eq hmade.filled⟩

/-- A checkerboard of four. -/
theorem four_pixels_in_place :
    ∃ image, ofPixels? 2 2 #[Pixel.black, Pixel.white, Pixel.white, Pixel.black] = some (.ok image)
      ∧ image.at? 1 0 = some Pixel.white ∧ image.at? 1 1 = some Pixel.black
      ∧ Raster.encode? image 8 = some (Raster.encode image 8) := by
  obtain ⟨haccepted, -, -, hplaces, -, -, -, -, hmade⟩ := pixel_in_every_place 2 2
    #[Pixel.black, Pixel.white, Pixel.white, Pixel.black]
  have himage := haccepted.mpr ⟨by decide, rfl⟩
  obtain ⟨-, -, hpixels⟩ := hplaces _ himage
  obtain ⟨-, -, hencode⟩ := hmade _ (.given himage)
  exact ⟨_, himage, hpixels 1 0, hpixels 1 1, hencode 8⟩

/-- A picture of 2^32 columns and as many rows needs 2^64 pixels. An empty
buffer for it is not refused: the program stops. -/
theorem stopped_by_places :
    (#[] : Array Pixel).size ≠ 2 ^ 32 * 2 ^ 32
      ∧ (¬∃ message, ofPixels? (2 ^ 32) (2 ^ 32) #[] = some (.error (.invalidArgument message)))
      ∧ ofPixels? (2 ^ 32) (2 ^ 32) #[] = none := by
  have hstopped : ofPixels? (2 ^ 32) (2 ^ 32) #[] = none :=
    ofPixels?_eq_none_iff.mpr (by decide)
  refine ⟨by decide, ?_, hstopped⟩
  intro ⟨message, hmessage⟩
  rw [hstopped] at hmessage
  cases hmessage

end ReceiptPrinter.PixelMatrix
