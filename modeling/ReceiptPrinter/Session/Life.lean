/-
What happens to a printer in the course of time.

A situation is a session together with the world around it. A life is a row
of happenings: operations, each carried to its end before the next one
begins, and between them changes of the world that the printer has no part
in, such as an answer of the user or an adapter that is switched off. What
can change from outside is given by a type of changes and what each of them
does to the world.
-/
import ReceiptPrinter.Session.Operation

namespace ReceiptPrinter

/-- A session and the world around it. -/
abbrev Situation (W ι κ ρ : Type) := Session ι κ ρ × W

/-- Something that happens to a printer. -/
inductive Happening (ι E : Type) where
  /-- An operation, carried to its end. -/
  | operation (operation : Operation ι)
  /-- A change of the world that the printer has no part in. -/
  | outside (change : E)

namespace Printer

variable {W ι κ ρ E : Type} [DecidableEq ι]

/-- What an operation answers, and the situation afterwards. -/
def respond (p : Printer (StateM W) ι κ ρ) (operation : Operation ι)
    (s : Situation W ι κ ρ) : Outcome Reply × Situation W ι κ ρ :=
  let ((outcome, session), world) := ((p.run operation).run s.1).run s.2
  (outcome, (session, world))

/-- The situation after a happening. -/
def undergo (p : Printer (StateM W) ι κ ρ) (nature : E → W → W) (s : Situation W ι κ ρ) :
    Happening ι E → Situation W ι κ ρ
  | .operation operation => (p.respond operation s).2
  | .outside change => (s.1, nature change s.2)

/-- The situation after a whole life. -/
def live (p : Printer (StateM W) ι κ ρ) (nature : E → W → W) (s : Situation W ι κ ρ)
    (life : List (Happening ι E)) : Situation W ι κ ρ :=
  life.foldl (p.undergo nature) s

end Printer

/-- A situation in which nothing has happened yet. -/
def Situation.fresh {W ι κ ρ : Type} (world : W) : Situation W ι κ ρ := (.fresh, world)

end ReceiptPrinter
