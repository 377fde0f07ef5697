/-
A printer that watches for devices which are unplugged.

A watcher takes what a bus has for it, one by one, until there is nothing
new, and gives up the connection to every device that it is told has gone.
If it has fallen behind and events were lost, it goes on with those that are
left. It has its turn whenever a batch of events has been published.
-/
import ReceiptPrinter.Event.Bus
import ReceiptPrinter.Session.Life

namespace ReceiptPrinter

/-- Whatever a subscriber gets brings it nearer to the end of the log. -/
theorem EventBus.receive_nearer {bus : EventBus} {s s' : Subscriber} {receipt : Receipt}
    (h : bus.receive s = (receipt, s')) (hnew : receipt ≠ .empty) :
    bus.log.length - s'.position < bus.log.length - s.position := by
  unfold receive at h
  dsimp only at h
  split at h
  · cases h
    dsimp only
    omega
  · split at h
    · next hevent =>
      cases h
      have := (List.getElem?_eq_some_iff.mp hevent).1
      dsimp only
      omega
    · cases h
      exact absurd rfl hnew

/-- A printer with a watcher, and the bus on which it is told of devices that
come and go. -/
structure Watched (W ι κ ρ : Type) where
  situation : Situation W ι κ ρ
  bus : EventBus
  watcher : Subscriber

/-- A printer for which a watcher has just been started. -/
def Situation.watched {W ι κ ρ : Type} (s : Situation W ι κ ρ) (bus : EventBus) :
    Watched W ι κ ρ := ⟨s, bus, bus.subscribe⟩

/-- Something that happens to a printer with a watcher. -/
inductive Incident (ι E : Type) where
  | happening (happening : Happening ι E)
  /-- Events are published, and then the watcher has its turn. -/
  | events (batch : List Event)

namespace Printer

/-- The turn of a watcher, and how far it has come afterwards. -/
def watch {m : Type → Type} [Monad m] {ι κ ρ : Type} [DecidableEq ι] (p : Printer m ι κ ρ)
    (bus : EventBus) (s : Subscriber) : StateT (Session ι κ ρ) m Subscriber :=
  match _ : bus.receive s with
  | (.empty, s) => return s
  | (.lagged _, s) => p.watch bus s
  | (.event e, s) => do
    p.follow [e]
    p.watch bus s
termination_by bus.log.length - s.position
decreasing_by
  · exact EventBus.receive_nearer ‹bus.receive _ = (.lagged _, _)› nofun
  · exact EventBus.receive_nearer ‹bus.receive _ = (.event _, _)› nofun

variable {W ι κ ρ E : Type} [DecidableEq ι]

/-- What has become of a printer with a watcher after an incident. -/
def meet (p : Printer (StateM W) ι κ ρ) (nature : E → W → W) (t : Watched W ι κ ρ) :
    Incident ι E → Watched W ι κ ρ
  | .happening happening => { t with situation := p.undergo nature t.situation happening }
  | .events batch =>
    let bus := t.bus.publishAll batch
    let ((watcher, session), world) := ((p.watch bus t.watcher).run t.situation.1).run t.situation.2
    ⟨(session, world), bus, watcher⟩

/-- What has become of it after several incidents. -/
def meetAll (p : Printer (StateM W) ι κ ρ) (nature : E → W → W) (t : Watched W ι κ ρ)
    (incidents : List (Incident ι E)) : Watched W ι κ ρ :=
  incidents.foldl (p.meet nature) t

end Printer

end ReceiptPrinter
