/-
The reader of pictures reads the grammar.

`decode?_eq_some_iff` is the main statement: the reader accepts exactly the
byte strings that are pictures, and gives the bands that they are made of.
So a byte string is a picture in one way at most, whatever bytes the dots
consist of.
-/
import ReceiptPrinter.Raster.Grammar

namespace ReceiptPrinter.Raster

-- ============================================================== one band

/-- A band at the beginning is read, and nothing after it. -/
theorem band?_append {front : Bytes} {band : Band} (h : IsBand front band) (rest : Bytes) :
    band? (front ++ rest) = some (band, rest) := by
  cases h with
  | @band low high data hlength =>
    have hbytes : [0x1B, 0x2A, 0x21, low, high] ++ data ++ [0x0A] ++ rest
        = 0x1B :: 0x2A :: 33 :: low :: high :: (data ++ 0x0A :: rest) := by simp
    have hdrop : (data ++ 0x0A :: rest).drop (3 * (low.toNat + 256 * high.toNat)) = 0x0A :: rest := by
      rw [← hlength, List.drop_left]
    have htake : (data ++ 0x0A :: rest).take (3 * (low.toNat + 256 * high.toNat)) = data := by
      rw [← hlength, List.take_left]
    simp only [hbytes, band?, hdrop, htake]

/-- What is read is a band, and the rest is what follows it. -/
theorem isBand_of_band? {bytes rest : Bytes} {band : Band} (h : band? bytes = some (band, rest)) :
    ∃ front, IsBand front band ∧ bytes = front ++ rest := by
  unfold band? at h
  split at h
  · next low high tail =>
    dsimp only at h
    split at h
    · next after hdrop =>
      cases h
      -- the data is as long as announced, because the line feed is behind it
      have hsplit := List.take_append_drop (3 * (low.toNat + 256 * high.toNat)) tail
      have hlength := congrArg List.length hdrop
      rw [List.length_drop, List.length_cons] at hlength
      rw [hdrop] at hsplit
      refine ⟨[0x1B, 0x2A, 0x21, low, high] ++ tail.take (3 * (low.toNat + 256 * high.toNat))
        ++ [0x0A], .band ?_, ?_⟩
      · rw [List.length_take]
        omega
      · conv => lhs; rw [← hsplit]
        simp
    · cases h
  · cases h

theorem band?_closing : band? closing.flatten = none := rfl

-- =========================================================== many bands

/-- After one band the others are read. -/
theorem bandsUntilClosing?_of_band? {bytes rest : Bytes} {band : Band}
    (h : band? bytes = some (band, rest)) :
    bandsUntilClosing? bytes = (bandsUntilClosing? rest).map (band :: ·) := by
  rw [bandsUntilClosing?]
  split
  · next band' rest' h' =>
    rw [h] at h'
    cases h'
    rfl
  · next h' =>
    rw [h] at h'
    cases h'

/-- Bands are read one after another, up to the closing commands. -/
theorem bandsUntilClosing?_append {body : Bytes} {bands : List Band} (h : AreBands body bands) :
    bandsUntilClosing? (body ++ closing.flatten) = some bands := by
  induction h with
  | nil =>
    rw [List.nil_append, bandsUntilClosing?]
    split
    · next band rest h =>
      rw [band?_closing] at h
      cases h
    · exact if_pos rfl
  | @cons front rest band bands hband hrest ih =>
    rw [List.append_assoc, bandsUntilClosing?_of_band? (band?_append hband _), ih]
    rfl

/-- What is read are bands, and then the closing commands. -/
theorem areBands_of_bandsUntilClosing? {bytes : Bytes} {bands : List Band}
    (h : bandsUntilClosing? bytes = some bands) :
    ∃ body, AreBands body bands ∧ bytes = body ++ closing.flatten := by
  -- a band and what follows it, the closing commands, or neither
  fun_induction bandsUntilClosing? bytes generalizing bands with
  | case1 bytes band rest hband ih =>
    obtain ⟨others, hothers, rfl⟩ := Option.map_eq_some_iff.mp h
    obtain ⟨body, hbody, rfl⟩ := ih hothers
    obtain ⟨front, hfront, rfl⟩ := isBand_of_band? hband
    exact ⟨front ++ body, .cons hfront hbody, (List.append_assoc _ _ _).symm⟩
  | case2 hband =>
    cases h
    exact ⟨[], .nil, rfl⟩
  | case3 => cases h

/-- The reader accepts exactly the pictures. -/
theorem decode?_eq_some_iff {bytes : Bytes} {bands : List Band} :
    decode? bytes = some bands ↔ IsPicture bytes bands := by
  unfold decode?
  constructor
  · intro h
    obtain ⟨rest, hrest, hbands⟩ := Option.bind_eq_some_iff.mp h
    obtain ⟨body, hbody, rfl⟩ := areBands_of_bandsUntilClosing? hbands
    have hbytes := Text.afterStart?_eq_some_iff.mp hrest
    exact ⟨body, hbody, hbytes.trans (List.append_assoc _ _ _).symm⟩
  · rintro ⟨body, hbody, rfl⟩
    refine Option.bind_eq_some_iff.mpr ⟨body ++ closing.flatten, ?_, bandsUntilClosing?_append hbody⟩
    exact Text.afterStart?_eq_some_iff.mpr (List.append_assoc _ _ _)

/-- A byte string is a picture in one way at most. -/
theorem IsPicture.unique {bytes : Bytes} {bands bands' : List Band} (h : IsPicture bytes bands)
    (h' : IsPicture bytes bands') : bands' = bands := by
  rw [← decode?_eq_some_iff] at h h'
  rw [h] at h'
  exact (Option.some.inj h').symm

end ReceiptPrinter.Raster
