/-
The chunks of a picture.

A transport may make a transfer of every chunk, so where chunks begin and end
counts as much as the bytes. Every band is three chunks, of lengths that the
width alone determines; what holds of all bands is by induction on them. A
picture is refused only for its bound or for its width after fitting, and if
the bound is no larger than the widest band, it is never refused.
-/
import ReceiptPrinter.Proofs.Raster.Read
import ReceiptPrinter.Proofs.Raster.RoundTrip

namespace ReceiptPrinter.Raster

open PixelMatrix (fit_eq_error_iff exists_fit width_fit_le)
open Resample (sides_resample)

-- ================================================================== bands

/-- So many bands of the given width, in chunks: a header that counts the
columns, low byte first, three bytes for every column, and a line feed. -/
inductive BandsInChunks (width : Nat) : Nat → List Bytes → Prop where
  | nil : BandsInChunks width 0 []
  | band {low high : UInt8} {data : Bytes} {count : Nat} {rest : List Bytes}
    (hwidth : low.toNat + 256 * high.toNat = width) (hlength : data.length = 3 * width)
    (hrest : BandsInChunks width count rest) :
    BandsInChunks width (count + 1) ([0x1B, 0x2A, 0x21, low, high] :: data :: [0x0A] :: rest)

/-- A picture of the given sides, in chunks: two before its bands and two
after them. -/
def InChunks (width height : Nat) (chunks : List Bytes) : Prop :=
  ∃ body, BandsInChunks width ((height + 23) / 24) body
    ∧ chunks = [[0x1B, 0x33, 0x18], [0x1B, 0x61, 0x31]] ++ body ++ [[0x1B, 0x33, 0x20], [0x0A]]

theorem BandsInChunks.length_eq {width count : Nat} {chunks : List Bytes}
    (h : BandsInChunks width count chunks) : chunks.length = 3 * count := by
  induction h with
  | nil => rfl
  | band hwidth hlength hrest ih =>
    simp only [List.length_cons, ih]
    omega

theorem BandsInChunks.length_flatten {width count : Nat} {chunks : List Bytes}
    (h : BandsInChunks width count chunks) :
    chunks.flatten.length = count * (6 + 3 * width) := by
  induction h with
  | nil => rw [Nat.zero_mul, List.flatten_nil, List.length_nil]
  | band hwidth hlength hrest ih =>
    simp only [List.flatten_cons, List.length_append, List.length_cons, List.length_nil, ih,
      hlength, Nat.add_mul]
    omega

theorem InChunks.length_eq {width height : Nat} {chunks : List Bytes}
    (h : InChunks width height chunks) : chunks.length = 4 + 3 * ((height + 23) / 24) := by
  obtain ⟨body, hbody, rfl⟩ := h
  simp only [List.length_append, List.length_cons, List.length_nil, hbody.length_eq]
  omega

theorem InChunks.length_flatten {width height : Nat} {chunks : List Bytes}
    (h : InChunks width height chunks) :
    chunks.flatten.length = 10 + (height + 23) / 24 * (6 + 3 * width) := by
  obtain ⟨body, hbody, rfl⟩ := h
  simp only [List.flatten_append, List.flatten_cons, List.flatten_nil, List.length_append,
    List.length_cons, List.length_nil, hbody.length_flatten]
  omega

theorem bandsInChunks_flatMap {image : PixelMatrix} (h : image.width < UInt16.size)
    (numbers : List Nat) :
    BandsInChunks image.width numbers.length (numbers.flatMap (bandChunks image)) := by
  induction numbers with
  | nil => exact .nil
  | cons number rest ih =>
    exact .band (width_of_bytes h) (length_bandData image (number * bandHeight)) ih

theorem inChunks_bands {image : PixelMatrix} (h : image.width < UInt16.size) :
    InChunks image.width image.height (bands image).chunks := by
  have hbands := bandsInChunks_flatMap h (List.range (bandCount image.height))
  rw [List.length_range] at hbands
  exact ⟨_, hbands, rfl⟩

-- =============================================================== encoding

/-- A picture is refused for its bound, or for its width after fitting. -/
theorem encode_eq_error_iff {picture : PixelMatrix} {bound : Int} {e : PrinterError} :
    encode picture bound = .error e ↔
      (bound ≤ 0 ∧ e = BadBound.error ⟨bound⟩)
        ∨ ∃ image, picture.fit bound = .ok image ∧ 65535 < image.width
          ∧ e = TooWide.error ⟨image.width⟩ := by
  unfold encode
  rw [← fit_eq_error_iff]
  cases hfit : picture.fit bound with
  | error e' =>
    constructor
    · intro h
      cases h
      exact .inl rfl
    · rintro (h | ⟨image, himage, -⟩)
      · cases h
        rfl
      · cases himage
  | ok image =>
    show (if image.width < 65536 then _ else _) = _ ↔ _
    by_cases hwidth : image.width < 65536
    · rw [if_pos hwidth]
      refine ⟨nofun, ?_⟩
      rintro (h | ⟨image', himage, hwide, -⟩)
      · cases h
      · cases himage
        omega
    · rw [if_neg hwidth]
      constructor
      · intro h
        cases h
        exact .inr ⟨image, rfl, by omega, rfl⟩
      · rintro (h | ⟨image', himage, -, rfl⟩)
        · cases h
        · cases himage
          rfl

theorem encode_invalid_iff {picture : PixelMatrix} {bound : Int} :
    (∃ message, encode picture bound = .error (.invalidArgument message)) ↔ bound ≤ 0 := by
  simp only [encode_eq_error_iff]
  constructor
  · rintro ⟨message, ⟨hbound, -⟩ | ⟨image, -, -, herror⟩⟩
    · exact hbound
    · cases herror
  · intro hbound
    exact ⟨_, .inl ⟨hbound, rfl⟩⟩

theorem encode_failed_iff {picture : PixelMatrix} {bound : Int} :
    (∃ message, encode picture bound = .error (.encodingFailed message)) ↔
      0 < bound ∧ ∃ image, picture.fit bound = .ok image ∧ 65535 < image.width := by
  simp only [encode_eq_error_iff]
  constructor
  · rintro ⟨message, ⟨-, herror⟩ | ⟨image, hfit, hwide, -⟩⟩
    · cases herror
    · refine ⟨?_, image, hfit, hwide⟩
      apply Int.not_le.mp
      intro hbound
      rw [fit_eq_error_iff.mpr ⟨hbound, rfl⟩] at hfit
      cases hfit
  · rintro ⟨-, image, hfit, hwide⟩
    exact ⟨_, .inr ⟨image, hfit, hwide, rfl⟩⟩

/-- The chunks of a picture, for every picture and every bound.

A picture is refused exactly if the bound is not positive or if the fitted
picture is too wide for the header of a band, and each has its own kind of
error. Otherwise it is encoded, in chunks whose number and lengths follow
from the sides of the fitted picture. So no picture is refused for a
positive bound of two bytes, provided that a width below the larger side is
not scaled past the bound. All of this is also the answer of an encoder that
ends at a read past the buffer, if the picture has a full buffer. -/
theorem encode_in_chunks (picture : PixelMatrix) (bound : Int) :
    ((∃ message, encode picture bound = .error (.invalidArgument message)) ↔ bound ≤ 0)
      ∧ ((∃ message, encode picture bound = .error (.encodingFailed message)) ↔
          0 < bound ∧ ∃ image, picture.fit bound = .ok image ∧ 65535 < image.width)
      ∧ (0 < bound → ∃ image, picture.fit bound = .ok image
          ∧ (image.width ≤ 65535 → ∃ stream, encode picture bound = .ok stream
            ∧ InChunks image.width image.height stream.chunks
            ∧ stream.chunks.length = 4 + 3 * ((image.height + 23) / 24)
            ∧ stream.length = 10 + (image.height + 23) / 24 * (6 + 3 * image.width)))
      ∧ (1 ≤ bound → bound ≤ 65535 →
          (picture.width < picture.larger →
            PixelMatrix.scaledSide bound.toNat picture.larger picture.width ≤ bound.toNat) →
          ∃ stream, encode picture bound = .ok stream)
      ∧ (picture.Filled → encode? picture bound = some (encode picture bound)) := by
  refine ⟨encode_invalid_iff, encode_failed_iff, fun hbound => ?_,
    fun hpositive hbound hscaled => ?_, fun hfilled => encode?_eq hfilled bound⟩
  · obtain ⟨image, hfit⟩ := exists_fit picture hbound
    refine ⟨image, hfit, fun hwidth => ?_⟩
    have hcount : image.width < UInt16.size := Nat.lt_succ_of_le hwidth
    have hchunks := inChunks_bands hcount
    exact ⟨bands image, encode_eq_ok_iff.mpr ⟨image, hfit, hcount, rfl⟩, hchunks,
      hchunks.length_eq, hchunks.length_flatten⟩
  · obtain ⟨image, hfit⟩ := exists_fit picture (Int.lt_of_lt_of_le Int.one_pos hpositive)
    have hwidth := width_fit_le hscaled hfit
    have hcount : image.width < UInt16.size := by
      show image.width < 65536
      omega
    exact ⟨_, encode_eq_ok_iff.mpr ⟨image, hfit, hcount, rfl⟩⟩

/-- A square is shrunk to the bound on both sides; one band is left of two. -/
theorem square_in_seven_chunks :
    ∃ stream, encode (PixelMatrix.tabulate 48 48 fun _ _ => Pixel.black) 24 = .ok stream
      ∧ stream.chunks.length = 7 ∧ stream.length = 88 := by
  obtain ⟨-, -, hencode, -⟩ :=
    encode_in_chunks (PixelMatrix.tabulate 48 48 fun _ _ => Pixel.black) 24
  obtain ⟨image, hfit, hstream⟩ := hencode (by decide)
  have hfitted : image = Resample.resample _ 24 24 := (Except.ok.inj hfit).symm
  obtain ⟨hwidth, hheight⟩ := sides_resample (PixelMatrix.shortened _) 24 24
  rw [← hfitted] at hwidth hheight
  rw [hwidth, hheight] at hstream
  obtain ⟨stream, hencode, -, hcount, hlength⟩ := hstream (by decide)
  exact ⟨stream, hencode, hcount, hlength⟩

end ReceiptPrinter.Raster
