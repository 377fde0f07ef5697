/-
Printing a QR code.

Once a text could be made a code, nothing stands between its symbol and the
paper but the channel: the job writes the bands of the drawn symbol, and it
fails only if one of its writes or the flush fails.
-/
import ReceiptPrinter.Proofs.Qr.Picture
import ReceiptPrinter.Proofs.Session.Outcome

namespace ReceiptPrinter

variable {W ι κ ρ : Type}

namespace Backend

variable {b : Backend (StateM W) ι κ ρ} {channel : Numbered κ} {stream : Stream}
  {deeds : List (Deed ι)} {w w' : W}

/-- What is sent without a failure is received chunk by chunk. -/
theorem Sends.received (h : b.Sends channel stream w (.ok ()) deeds w') :
    deeds.filterMap Deed.received? = stream.chunks.map (Prod.mk channel.number) := by
  cases h with
  | flushed hsent hflush =>
    rw [List.filterMap_append, List.filterMap_map]
    show stream.chunks.filterMap (some ∘ Prod.mk channel.number) ++ [] = _
    rw [List.append_nil, List.filterMap_eq_map]

/-- Sending fails only with the error of a write or of the flush. -/
theorem Sends.failed {e : PrinterError} (h : b.Sends channel stream w (.error e) deeds w') :
    (∃ chunk, .wrote channel.number chunk (.error e) ∈ deeds)
      ∨ .flushed channel.number (.error e) ∈ deeds := by
  cases h with
  | @broke sent rest chunk _ _ _ hchunks hsent hwrite =>
    exact .inl ⟨chunk, List.mem_append_right _ (List.mem_singleton_self _)⟩
  | flushed hsent hflush => exact .inr (List.mem_append_right _ (List.mem_singleton_self _))

end Backend

namespace Printer

/-- A job that is prepared, on a session that is connected: either all its
chunks are received, or a write or the flush has failed. -/
theorem print_connected [DecidableEq ι] (p : Printer (StateM W) ι κ ρ) {job : Job}
    {stream : Stream} {s : Situation (W × Journal ι) ι (Numbered κ) ρ} {id : ι}
    {record : DeviceRecord} {channel : Numbered κ}
    (hjob : Prepares p job s.2.1 (.ok stream) s.2.1)
    (hc : s.1.connection = .connected id record channel) :
    let (outcome, s') := p.journaled.respond (.print job) s
    ∃ deeds, s'.2.2.deeds = s.2.2.deeds ++ deeds
      ∧ ((outcome = .ok .done ∧ s'.1 = s.1
          ∧ deeds.filterMap Deed.received? = stream.chunks.map (Prod.mk channel.number))
        ∨ ∃ e, outcome = .error e
          ∧ ((∃ chunk, .wrote channel.number chunk (.error e) ∈ deeds)
            ∨ .flushed channel.number (.error e) ∈ deeds)) := by
  obtain ⟨⟨initialized, c⟩, w, j⟩ := s
  cases hc
  obtain ⟨result, deeds, w', hsend⟩ := sends_total p channel stream w
  cases result with
  | ok _ =>
    rw [(Printed.done .connected hjob hsend).eq]
    exact ⟨deeds, rfl, .inl ⟨rfl, rfl, hsend.received⟩⟩
  | error e =>
    rw [(Printed.broken .connected hjob hsend).eq]
    refine ⟨deeds ++ [.closed channel.number], rfl, .inr ⟨e, rfl, ?_⟩⟩
    rcases hsend.failed with ⟨chunk, hwrote⟩ | hflushed
    · exact .inl ⟨chunk, List.mem_append_left _ hwrote⟩
    · exact .inr (List.mem_append_left _ hflushed)

end Printer

open Qr in
/-- From a text to dots, wherever it could be made a code.

There is one symbol of the text, a square of modules. The picture is not
shrunk for any bound that is at least its side, and its bands can be read in
one way. They are as wide as the picture, and a dot is set where a block of
a dark module is, every module having a block of at least one dot and no
block being cut off; all other dots are clear, those below the picture
too. On a session that is connected the job that prints the code either
writes these bands, or it fails with the error of a write or of the
flush. -/
theorem code_to_dots (text : String) (size : Int) (picture : PixelMatrix)
    (h : Qr.encode (utf8 text.toList) size = .ok picture) :
    ∃ symbol bands, Symbol.ofText? (utf8 text.toList) = some symbol
      ∧ symbol.IsSquare
      ∧ 1 ≤ (placing symbol.side size.toNat).scale
      ∧ (placing symbol.side size.toNat).origin
          + symbol.side * (placing symbol.side size.toNat).scale ≤ size.toNat
      ∧ (∀ bound, size ≤ bound → picture.fit bound = .ok picture
          ∧ Raster.encode picture bound = .ok (Raster.bands picture))
      ∧ Raster.decode? (Raster.bands picture).bytes = some bands
      ∧ (∀ bands', Raster.IsPicture (Raster.bands picture).bytes bands' → bands' = bands)
      ∧ bands.length = (size.toNat + 23) / 24
      ∧ (∀ band ∈ bands, band.width = size.toNat)
      ∧ (∀ x y, Raster.dotAt bands x y = true ↔
          ∃ i j, i < symbol.side ∧ j < symbol.side ∧ symbol.dark i j = true
            ∧ (placing symbol.side size.toNat).Covers i j x y)
      ∧ ∀ {W ι κ ρ : Type} [DecidableEq ι] (p : Printer (StateM W) ι κ ρ) (requested : Option Int),
          p.settings.qrSide requested = size →
          ∀ (s : Situation (W × Journal ι) ι (Numbered κ) ρ) (id : ι) (record : DeviceRecord)
            (channel : Numbered κ), s.1.connection = .connected id record channel →
          let (outcome, s') := p.journaled.respond (.print (.qr text requested)) s
          p.respond (.print (.qr text requested)) s.forget = (outcome, s'.forget)
            ∧ ∃ deeds, s'.2.2.deeds = s.2.2.deeds ++ deeds
              ∧ ((outcome = .ok .done ∧ s'.1 = s.1
                  ∧ deeds.filterMap Deed.received?
                    = (Raster.bands picture).chunks.map (Prod.mk channel.number))
                ∨ ∃ e, outcome = .error e
                  ∧ ((∃ chunk, .wrote channel.number chunk (.error e) ∈ deeds)
                    ∨ .flushed channel.number (.error e) ∈ deeds)) := by
  obtain ⟨hpositive, hmax, symbol, hsymbol, hfits, rfl⟩ := encode_eq_ok_iff.mp h
  have hprinted : ∀ bound, size ≤ bound → _ := fun bound hbound =>
    encode_draw (s := symbol) hpositive hmax hbound
  obtain ⟨bands, hpicture, hlength, hwidth, hdots⟩ := bands_draw hfits (Int.toNat_le.mpr hmax)
  obtain ⟨hscale, hend⟩ := placing_spec hfits
  refine ⟨symbol, bands, hsymbol, isSquare_of_ofText? hsymbol, hscale, hend, hprinted,
    Raster.decode?_eq_some_iff.mpr hpicture, fun _ => hpicture.unique, hlength, hwidth, hdots, ?_⟩
  intro W ι κ ρ _ p requested hsize s id record channel hc
  have hjob : Printer.Prepares p (.qr text requested) s.2.1
      (.ok (Raster.bands (draw symbol size.toNat))) s.2.1 := by
    have hcode : Printer.Prepares p (.qr text requested) s.2.1 _ s.2.1 :=
      .code (by rw [hsize]; exact h)
    rw [hsize, (hprinted size (Int.le_refl size)).2] at hcode
    exact hcode
  exact ⟨Printer.respond_journaled p (.print (.qr text requested)) s, p.print_connected hjob hc⟩

open Qr in
/-- A symbol of 21 modules, in blocks of four dots with a margin of eight. -/
theorem code_of_a_receipt :
    ∃ picture symbol bands, Qr.encode (utf8 "receipt 7".toList) 100 = .ok picture
      ∧ Symbol.ofText? (utf8 "receipt 7".toList) = some symbol ∧ symbol.side = 21
      ∧ Raster.decode? (Raster.bands picture).bytes = some bands ∧ bands.length = 5
      ∧ ∀ x y, Raster.dotAt bands x y = true ↔
          ∃ i j, i < 21 ∧ j < 21 ∧ symbol.dark i j = true
            ∧ (Placing.mk 4 8).Covers i j x y := by
  -- only the version of the symbol has to be known
  obtain ⟨payload, hpayload, hversion⟩ : ∃ payload,
      pack? (utf8 "receipt 7".toList) = some payload ∧ payload.version = 1 :=
    Option.map_eq_some_iff.mp
      (show (pack? (utf8 "receipt 7".toList)).map Payload.version = some 1 by decide)
  obtain ⟨symbol, hsymbol, hside⟩ : ∃ symbol,
      Symbol.ofText? (utf8 "receipt 7".toList) = some symbol ∧ symbol.side = 21 := by
    refine ⟨_, congrArg (Option.map _) hpayload, ?_⟩
    rw [side_ofCodewords, hversion]
    rfl
  have hencode := encode_eq_ok_iff.mpr ⟨show (0 : Int) < 100 by decide, by decide, symbol, hsymbol,
    by rw [hside]; decide, rfl⟩
  obtain ⟨same, bands, hsame, -, -, -, -, hdecode, -, hlength, -, hdots, -⟩ :=
    code_to_dots "receipt 7" 100 _ hencode
  obtain rfl : same = symbol := Option.some.inj (hsame.symm.trans hsymbol)
  rw [hside] at hdots
  exact ⟨_, same, bands, hencode, hsymbol, hside, hdecode, hlength, hdots⟩

end ReceiptPrinter
