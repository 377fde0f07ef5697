/-
The journal changes nothing.

Whatever a printer with a journal does, the same printer without one does
too: it answers the same, and it ends in the situation that is left when
journal and channel numbers are forgotten. It is one of the printers that
`Imitates` speaks of, so this holds of every operation and every life. What
the journal says is thereby said about the printer itself.
-/
import ReceiptPrinter.Proofs.Session.Simulation

namespace ReceiptPrinter

variable {W ι κ ρ α E : Type}

theorem aside_eq (x : StateM W α) (w : W) (j : Journal ι) :
    Journal.aside x (w, j) = ((x w).1, ((x w).2, j)) := rfl

namespace Printer

variable (p : Printer (StateM W) ι κ ρ)

-- ======================================================= what is noted

theorem write_journaled (channel : Numbered κ) (chunk : Bytes) (w : W) (j : Journal ι) :
    p.journaled.backend.write channel chunk (w, j)
      = ((p.backend.write channel.channel chunk w).1,
         ((p.backend.write channel.channel chunk w).2,
          j.note (.wrote channel.number chunk (p.backend.write channel.channel chunk w).1))) := rfl

theorem flush_journaled (channel : Numbered κ) (w : W) (j : Journal ι) :
    p.journaled.backend.flush channel (w, j)
      = ((p.backend.flush channel.channel w).1,
         ((p.backend.flush channel.channel w).2,
          j.note (.flushed channel.number (p.backend.flush channel.channel w).1))) := rfl

theorem connect_journaled (id : ι) (w : W) (j : Journal ι) :
    p.journaled.backend.connect id (w, j)
      = ((j.noteOpen id (p.backend.connect id w).1).1,
         ((p.backend.connect id w).2, (j.noteOpen id (p.backend.connect id w).1).2)) := rfl

-- ================================================== with and without it

/-- A printer with a journal imitates the printer without it. -/
theorem imitates_journaled :
    p.journaled.Imitates (Prod.fst (β := Journal ι)) Numbered.channel p where
  settings := rfl
  prepare := fun _ => rfl
  devices := fun _ => rfl
  connect := by
    rintro id ⟨w, j⟩
    rw [connect_journaled]
    dsimp only
    rcases p.backend.connect id w with ⟨outcome, w'⟩
    cases outcome with
    | error e => rfl
    | ok opened =>
      obtain ⟨record, link⟩ := opened
      cases link <;> rfl
  poll := fun _ _ => rfl
  write := fun _ _ _ => rfl
  flush := fun _ _ => rfl
  close := fun _ _ => rfl
  fetch := fun _ _ => rfl

/-- A job is prepared beside the journal. -/
theorem stream_journaled (job : Job) (w : W) (j : Journal ι) :
    p.journaled.stream job (w, j) = ((p.stream job w).1, ((p.stream job w).2, j)) := by
  have hshows := shows_stream p.imitates_journaled job (w, j)
  -- that the journal is left alone is not said by the simulation
  have hjournal : (p.journaled.stream job (w, j)).2.2 = j := by
    cases job with
    | image locator max =>
      show (p.journaled.imageStream locator max (w, j)).2.2 = j
      simp only [imageStream, journaled, bind, StateT.bind, aside_eq]
      rcases p.fetch locator w with ⟨outcome, w'⟩
      cases outcome <;> rfl
    | _ => rfl
  rw [hshows]
  exact Prod.ext rfl (Prod.ext rfl hjournal)

variable [DecidableEq ι]

/-- Operations are answered with a journal as they are without. -/
theorem respond_journaled (operation : Operation ι)
    (s : Situation (W × Journal ι) ι (Numbered κ) ρ) :
    p.respond operation s.forget
      = ((p.journaled.respond operation s).1, (p.journaled.respond operation s).2.forget) :=
  respond_seen p.imitates_journaled operation s

/-- A life is the same with a journal as without. -/
theorem live_journaled (nature : E → W → W) (life : List (Happening ι E))
    (s : Situation (W × Journal ι) ι (Numbered κ) ρ) :
    p.live nature s.forget life = (p.journaled.live (Journal.beside nature) s life).forget :=
  live_seen p.imitates_journaled (fun _ _ => rfl) life s

end Printer

end ReceiptPrinter
