/-
A printer whose transport keeps a journal.

It is the same printer on the same transport; only the channels in its
session carry numbers, and the world has a journal beside it. Forgetting
both gives back what the printer would have done without them.
-/
import ReceiptPrinter.Session.Life
import ReceiptPrinter.Session.Schedule
import ReceiptPrinter.Transport.Journal

namespace ReceiptPrinter

/-- A printer with a journal of what its transport is asked to do. -/
def Printer.journaled {W ι κ ρ : Type} (p : Printer (StateM W) ι κ ρ) :
    Printer (StateM (W × Journal ι)) ι (Numbered κ) ρ where
  backend := p.backend.journaled
  settings := p.settings
  fetch locator := Journal.aside (p.fetch locator)

variable {W ι κ κ' ρ : Type}

/-- The link with another form of its channel. -/
def Link.mapChannel (f : κ → κ') : Link κ ρ → Link κ' ρ
  | .channel c => .channel (f c)
  | .request r => .request r

/-- The connection with another form of its channel. -/
def Connection.mapChannel (f : κ → κ') : Connection ι κ ρ → Connection ι κ' ρ
  | .ready => .ready
  | .awaiting id record request => .awaiting id record request
  | .connected id record channel => .connected id record (f channel)

/-- The session with another form of its channel. -/
def Session.mapChannel (f : κ → κ') (session : Session ι κ ρ) : Session ι κ' ρ :=
  ⟨session.initialized, session.connection.mapChannel f⟩

/-- The situation without the journal and the numbers. -/
def Situation.forget (s : Situation (W × Journal ι) ι (Numbered κ) ρ) : Situation W ι κ ρ :=
  (s.1.mapChannel Numbered.channel, s.2.1)

/-- The task with another form of its channel. -/
def Task.mapChannel (f : κ → κ') : Task ι κ → Task ι κ'
  | .started operation => .started operation
  | .selecting id => .selecting id
  | .preparing job => .preparing job
  | .prepared stream => .prepared stream
  | .writing channel chunks => .writing (f channel) chunks
  | .sending channel chunk rest => .sending (f channel) chunk rest
  | .ended outcome => .ended outcome

/-- What goes on, without the journal and the numbers. -/
def Traffic.forget (t : Traffic (W × Journal ι) ι (Numbered κ) ρ) : Traffic W ι κ ρ :=
  ⟨t.world.1, t.session.mapChannel Numbered.channel,
    t.tasks.map (Task.mapChannel Numbered.channel)⟩

end ReceiptPrinter
