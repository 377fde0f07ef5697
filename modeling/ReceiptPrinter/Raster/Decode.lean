/-
Reading the bands of a picture back.

The reader knows nothing but the commands: what comes before the first
band, bands one after another, what comes after the last one, and then the
end. How many bytes a band holds is said in its header, so the bytes of
the dots themselves are never looked at, whatever they are.
-/
import ReceiptPrinter.Raster.Encode
import ReceiptPrinter.Text.Basic

namespace ReceiptPrinter.Raster

/-- A band: its number of columns, and three bytes for each of them. -/
structure Band where
  width : Nat
  data : Bytes
  deriving DecidableEq, Repr

/-- The dot in column `x` of row `y`, counted from the top of the band. -/
def Band.dot (b : Band) (x y : Nat) : Bool :=
  match b.data[3 * x + y / 8]? with
  | some byte => byte.toNat.testBit (7 - y % 8)
  | none => false

/-- The band at the beginning of a byte string, and what follows it. -/
def band? : Bytes → Option (Band × Bytes)
  | 0x1B :: 0x2A :: 33 :: low :: high :: rest =>
    let width := low.toNat + 256 * high.toNat
    match rest.drop (3 * width) with
    | 0x0A :: after => some (⟨width, rest.take (3 * width)⟩, after)
    | _ => none
  | _ => none

theorem length_of_band? {bytes after : Bytes} {band : Band} (h : band? bytes = some (band, after)) :
    after.length < bytes.length := by
  unfold band? at h
  split at h
  · next low high rest =>
    dsimp only at h
    split at h
    · next tail hd =>
      have hlen := congrArg List.length hd
      simp only [List.length_drop, List.length_cons] at hlen
      simp only [Option.some.injEq, Prod.mk.injEq] at h
      obtain ⟨_, rfl⟩ := h
      simp only [List.length_cons]
      omega
    · exact absurd h nofun
  · exact absurd h nofun

/-- The bands up to the closing commands, after which there must be
nothing. -/
def bandsUntilClosing? (bytes : Bytes) : Option (List Band) :=
  match _h : band? bytes with
  | some (band, after) => (bandsUntilClosing? after).map (band :: ·)
  | none => if bytes = closing.flatten then some [] else none
termination_by bytes.length
decreasing_by exact length_of_band? _h

/-- The bands of a printed picture. -/
def decode? (bytes : Bytes) : Option (List Band) := do
  bandsUntilClosing? (← Text.afterStart? opening.flatten bytes)

/-- The dot in column `x` of row `y` of a row of bands. -/
def dotAt (bands : List Band) (x y : Nat) : Bool :=
  match bands[y / bandHeight]? with
  | some band => band.dot x (y % bandHeight)
  | none => false

end ReceiptPrinter.Raster
