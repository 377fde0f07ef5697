/-
The byte strings that are pictures.

This is the command grammar, byte by byte and without any reader: six bytes
that set the line spacing and centre the output, then bands, then four
bytes that restore the spacing and end the line. A band tells how many
columns it has, holds three bytes for each of them, whatever they are, and
ends with a line feed.
-/
import ReceiptPrinter.Raster.Decode

namespace ReceiptPrinter.Raster

/-- The byte strings that are a band. -/
inductive IsBand : Bytes → Band → Prop where
  | band {low high : UInt8} {data : Bytes}
    (hlength : data.length = 3 * (low.toNat + 256 * high.toNat)) :
    IsBand ([0x1B, 0x2A, 0x21, low, high] ++ data ++ [0x0A])
      ⟨low.toNat + 256 * high.toNat, data⟩

/-- The byte strings that are bands, one after another. -/
inductive AreBands : Bytes → List Band → Prop where
  | nil : AreBands [] []
  | cons {front rest : Bytes} {band : Band} {bands : List Band} (hband : IsBand front band)
    (hrest : AreBands rest bands) : AreBands (front ++ rest) (band :: bands)

/-- The byte strings that are a picture. -/
def IsPicture (bytes : Bytes) (bands : List Band) : Prop :=
  ∃ body, AreBands body bands
    ∧ bytes = [0x1B, 0x33, 0x18, 0x1B, 0x61, 0x31] ++ body ++ [0x1B, 0x33, 0x20, 0x0A]

end ReceiptPrinter.Raster
