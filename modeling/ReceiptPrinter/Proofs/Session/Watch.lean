/-
What a watcher does to a printer.

Told of several events, a printer gives up its connection if one of them
says that the device it is bound to has gone, and else does nothing. A
watcher tells it of everything that the bus still has, and is done with all
of it when its turn ends; so each batch of events is dealt with by itself,
however many came before and however many of them were lost.
-/
import ReceiptPrinter.Proofs.Event.Bus
import ReceiptPrinter.Proofs.Transport.Gate
import ReceiptPrinter.Session.Watch

namespace ReceiptPrinter

variable {W ι κ ρ E : Type} [DecidableEq ι]

namespace Printer

-- ============================================================= being told

/-- The device that has gone according to an event, as the transport names
it. -/
def gone? (p : Printer (StateM W) ι κ ρ) : Event → Option ι
  | .deviceDetached device => p.backend.narrow (.usb device)
  | .scannerRunning _ | .scannerResolved _ | .registerError _ | .deviceAttached => none

/-- The situation once the connection has been given up. -/
def giveUp (p : Printer (StateM W) ι κ ρ) (s : Situation W ι κ ρ) : Situation W ι κ ρ :=
  ({ s.1 with connection := .ready }, p.hangUp s.1.connection s.2)

/-- The situation after a printer has been told of events. -/
def told (p : Printer (StateM W) ι κ ρ) (events : List Event) (s : Situation W ι κ ρ) :
    Situation W ι κ ρ :=
  let ((_, session), world) := ((p.follow events).run s.1).run s.2
  (session, world)

variable (p : Printer (StateM W) ι κ ρ)

theorem respond_closeIf (id : ι) (s : Situation W ι κ ρ) :
    (p.respond (.closeIf id) s).2
      = if s.1.connection.bound? = some id then p.giveUp s else s := by
  rw [respond_eq_eval]
  show (Step.eval (p.closeIf id >>= fun wasBound => pure (Reply.closed wasBound)) s).2 = _
  rw [Step.eval_bind, eval_closeIf]
  by_cases hbound : s.1.connection.bound? = some id
  · rw [if_pos hbound, if_pos hbound]
    rfl
  · rw [if_neg hbound, if_neg hbound]
    rfl

theorem told_cons (e : Event) (rest : List Event) (s : Situation W ι κ ρ) :
    p.told (e :: rest) s = p.told rest (p.told [e] s) := by
  cases e with
  | deviceDetached device =>
    unfold told
    rw [follow, follow]
    cases p.backend.narrow (.usb device) <;> rfl
  | _ => rfl

theorem told_one (e : Event) (s : Situation W ι κ ρ) :
    p.told [e] s =
      match p.gone? e with
      | some id => if s.1.connection.bound? = some id then p.giveUp s else s
      | none => s := by
  cases e with
  | deviceDetached device =>
    have hgone : p.gone? (.deviceDetached device) = p.backend.narrow (.usb device) := rfl
    rw [hgone]
    unfold told
    rw [follow]
    cases p.backend.narrow (.usb device) with
    | none => rfl
    | some id => exact p.respond_closeIf id s
  | _ => rfl

variable {p} {s : Situation W ι κ ρ}

/-- Nothing comes of events as long as the bound device is not gone. -/
theorem told_of_kept {events : List Event}
    (h : ∀ e ∈ events, ∀ id, p.gone? e = some id → s.1.connection.bound? ≠ some id) :
    p.told events s = s := by
  induction events with
  | nil => rfl
  | cons e rest ih =>
    have hfirst : p.told [e] s = s := by
      rw [told_one]
      cases hgone : p.gone? e with
      | none => rfl
      | some id => exact if_neg (h e List.mem_cons_self id hgone)
    rw [told_cons, hfirst]
    exact ih fun e he => h e (List.mem_cons_of_mem _ he)

/-- The connection to a device that is gone is given up, once, no matter how
often this is said. -/
theorem told_of_gone {events : List Event} {e : Event} (he : e ∈ events) {id : ι}
    (hgone : p.gone? e = some id) (hbound : s.1.connection.bound? = some id) :
    p.told events s = p.giveUp s := by
  induction events with
  | nil => cases he
  | cons first rest ih =>
    rw [told_cons, told_one]
    by_cases hfirst : p.gone? first = some id
    · -- what is bound to nothing stays as it is
      simp only [hfirst, hbound, if_true]
      exact told_of_kept fun _ _ _ _ => nofun
    · have hkept : (match p.gone? first with
          | some id => if s.1.connection.bound? = some id then p.giveUp s else s
          | none => s) = s := by
        cases hother : p.gone? first with
        | none => rfl
        | some other =>
          refine if_neg fun heq => hfirst ?_
          rw [hother, ← heq, hbound]
      rw [hkept]
      rcases List.mem_cons.mp he with rfl | hrest
      · exact absurd hgone hfirst
      · exact ih hrest

-- ============================================================= the watcher

section

variable (p) {bus : EventBus} {watcher watcher' : Subscriber}

theorem watch_empty (h : bus.receive watcher = (.empty, watcher')) :
    p.watch bus watcher = pure watcher' := by
  rw [watch]
  split
  · next heq => rw [h] at heq; cases heq; rfl
  · next heq => rw [h] at heq; cases heq
  · next heq => rw [h] at heq; cases heq

theorem watch_lagged {missed : Nat} (h : bus.receive watcher = (.lagged missed, watcher')) :
    p.watch bus watcher = p.watch bus watcher' := by
  rw [watch]
  split
  · next heq => rw [h] at heq; cases heq
  · next heq => rw [h] at heq; cases heq; rfl
  · next heq => rw [h] at heq; cases heq

theorem watch_event {e : Event} (h : bus.receive watcher = (.event e, watcher')) :
    p.watch bus watcher = (do
      p.follow [e]
      p.watch bus watcher') := by
  rw [watch]
  split
  · next heq => rw [h] at heq; cases heq
  · next heq => rw [h] at heq; cases heq
  · next heq => rw [h] at heq; cases heq; rfl

/-- A watcher that has its turn tells the printer of all that the bus still
has, and is then up to date. -/
theorem run_watch (s : Situation W ι κ ρ) (h : watcher.position ≤ bus.log.length) :
    ((p.watch bus watcher).run s.1).run s.2
      = ((⟨bus.log.length⟩, (p.told (bus.visible watcher) s).1),
          (p.told (bus.visible watcher) s).2) := by
  -- by what lies between the watcher and the end of the log
  induction hn : bus.log.length - watcher.position using Nat.strongRecOn generalizing watcher s with
  | ind n ih =>
    subst hn
    by_cases hlagged : bus.capacity < bus.log.length - watcher.position
    · have hreceive := EventBus.receive_lagged hlagged
      rw [watch_lagged p hreceive, ← EventBus.visible_lagged hlagged]
      exact ih _ (EventBus.receive_nearer hreceive nofun) s (Nat.sub_le _ _) rfl
    · have hkept : bus.log.length - watcher.position ≤ bus.capacity := Nat.le_of_not_lt hlagged
      by_cases hlt : watcher.position < bus.log.length
      · have hreceive := EventBus.receive_event hkept hlt
        rw [watch_event p hreceive, EventBus.visible_event hkept hlt, told_cons]
        exact ih _ (EventBus.receive_nearer hreceive nofun)
          (p.told [bus.log[watcher.position]] s) hlt rfl
      · have hend : watcher.position = bus.log.length := by omega
        rw [watch_empty p (EventBus.receive_empty hend), EventBus.visible_empty hend, ← hend]
        rfl

end

end Printer

-- ================================================================ incidents

section

variable {p : Printer (StateM W) ι κ ρ} {nature : E → W → W}

open Printer

/-- A watcher that is up to date tells the printer of the latest events of a
batch, as many as the bus keeps, and is then up to date again. -/
theorem meet_events {t : Watched W ι κ ρ} (h : t.watcher = t.bus.subscribe)
    (batch : List Event) :
    p.meet nature t (.events batch)
      = (p.told (batch.drop (batch.length - t.bus.capacity)) t.situation).watched
          (t.bus.publishAll batch) := by
  have hposition : t.watcher.position ≤ (t.bus.publishAll batch).log.length := by
    rw [h, EventBus.publishAll_eq]
    show t.bus.log.length ≤ (t.bus.log ++ batch).length
    rw [List.length_append]
    exact Nat.le_add_right _ _
  have hvisible : (t.bus.publishAll batch).visible t.watcher
      = batch.drop (batch.length - t.bus.capacity) := by
    rw [h, EventBus.publishAll_eq]
    show ((t.bus.log ++ batch).drop t.bus.log.length).drop
      ((t.bus.log ++ batch).length - t.bus.log.length - t.bus.capacity) = _
    rw [List.drop_left, List.length_append, Nat.add_sub_cancel_left]
  unfold meet
  dsimp only
  rw [run_watch p t.situation hposition, hvisible]
  rfl

/-- Whatever is told, the printer only acts. -/
theorem acts_told (events : List Event) (s : Situation W ι κ ρ) : Acts p s (p.told events s) := by
  by_cases h : ∃ e ∈ events, ∃ id, p.gone? e = some id ∧ s.1.connection.bound? = some id
  · obtain ⟨e, he, id, hgone, hbound⟩ := h
    have hclose := acts_close (p := p) s
    rw [eval_close] at hclose
    rw [told_of_gone he hgone hbound]
    exact hclose
  · have hkept : p.told events s = s :=
      told_of_kept fun e he id hgone hbound => h ⟨e, he, id, hgone, hbound⟩
    rw [hkept]

variable (nature) in
/-- After any incidents the watcher is up to date; and what is kept by each
act, each transfer and each change from outside has been kept. -/
theorem meetAll_keep {P : Situation W ι κ ρ → Prop} (hact : ∀ {s s'}, Act p s s' → P s → P s')
    (htransfer : ∀ {s s'}, Transfer p s s' → P s → P s')
    (houtside : ∀ {session w} change, P (session, w) → P (session, nature change w))
    {t : Watched W ι κ ρ} (hup : t.watcher = t.bus.subscribe) (hP : P t.situation)
    (incidents : List (Incident ι E)) :
    let t' := p.meetAll nature t incidents
    t'.watcher = t'.bus.subscribe ∧ t'.bus.capacity = t.bus.capacity ∧ P t'.situation := by
  induction incidents generalizing t with
  | nil => exact ⟨hup, rfl, hP⟩
  | cons incident rest ih =>
    cases incident with
    | happening happening =>
      refine ih (t := { t with situation := p.undergo nature t.situation happening }) hup ?_
      exact live_keep hact htransfer houtside [happening] hP
    | events batch =>
      have hmet : p.meet nature t (.events batch) = _ := meet_events hup batch
      have hP' : P (p.meet nature t (.events batch)).situation := by
        rw [hmet]
        exact Doings.keep hact htransfer (acts_told _ t.situation).doings hP
      have hup' : (p.meet nature t (.events batch)).watcher
          = (p.meet nature t (.events batch)).bus.subscribe := by
        rw [hmet]
        rfl
      have hcapacity : (p.meet nature t (.events batch)).bus.capacity = t.bus.capacity := by
        rw [hmet]
        exact t.bus.capacity_publishAll batch
      obtain ⟨hrest, hsame, hkept⟩ := ih hup' hP'
      exact ⟨hrest, hsame.trans hcapacity, hkept⟩

end

-- ============================================================= the result

namespace Memory

open Printer

variable {F : Type}

theorem detached_of_gone {kind : TransportKind} {settings : Settings}
    {fetch : String → StateM F (Outcome PixelMatrix)} {e : Event} {id : DeviceIdentity}
    (h : (printer kind settings fetch).gone? e = some id) :
    ∃ device, e = .deviceDetached device ∧ id = .usb device := by
  cases e with
  | deviceDetached device =>
    cases h
    exact ⟨device, rfl, rfl⟩
  | _ => cases h

/-- What is closed when a printer in memory gives up its connection. -/
theorem hangUp_eq (kind : TransportKind) (settings : Settings)
    (fetch : String → StateM F (Outcome PixelMatrix))
    {c : Connection DeviceIdentity Nat Request} {w : World} (h : Tallied w c) (f : F) :
    (printer kind settings fetch).hangUp c (w, f)
      = ({ w with closed := w.closed ++ c.channel?.toList }, f) := by
  cases c with
  | ready =>
    show (w, f) = ({ w with closed := w.closed ++ [] }, f)
    rw [List.append_nil]
  | awaiting id record request =>
    show (w, f) = ({ w with closed := w.closed ++ [] }, f)
    rw [List.append_nil]
  | connected id record channel =>
    show (w.close channel, f) = _
    unfold World.close
    rw [if_neg]
    · rfl
    · rw [List.contains_iff_mem]
      exact (h.held channel rfl).2

/-- Unplugged devices, on a printer in memory with a watcher, whatever has
happened before.

A bus of any capacity but zero can be made; it keeps as many events as the
least power of two that is not less. However the printer came to where it
is, and whatever became of it since the watcher was started, with any number
of events before, lost or not: if the latest events of a batch, as many as
the bus keeps, say that the bound device has gone, the session is ready
afterwards, and its channel, if it had one, is closed, once. Else nothing
has changed. -/
theorem detach_watcher (kind : TransportKind) (settings : Settings)
    (fetch : String → StateM F (Outcome PixelMatrix)) (f : F) (devices : List DeviceRecord)
    (gated : Bool) (s : Situation (World × F) DeviceIdentity Nat Request)
    (h : (printer kind settings fetch).Reaches provoke (.fresh kind devices gated, f) s)
    (capacity : Nat) (hcapacity : 1 ≤ capacity) :
    let m := printer kind settings fetch
    ∃ bus, EventBus.create? capacity = some bus
      ∧ (∃ k, bus.capacity = 2 ^ k ∧ capacity ≤ 2 ^ k ∧ ∀ other, capacity ≤ 2 ^ other → k ≤ other)
      ∧ ∀ (earlier : List Event) (incidents : List (Incident DeviceIdentity Provocation))
          (batch : List Event),
        let t := m.meetAll provoke (s.watched (bus.publishAll earlier)) incidents
        let t' := m.meet provoke t (.events batch)
        let visible := batch.drop (batch.length - bus.capacity)
        visible.length = min batch.length bus.capacity
          ∧ (∀ device, t.situation.1.connection.bound? = some (.usb device) →
              .deviceDetached device ∈ visible →
              t'.situation.1.connection = .ready
                ∧ t'.situation.2.1.closes
                  = t.situation.2.1.closes
                    + (if t.situation.1.connection.channel?.isSome then 1 else 0)
                ∧ t'.situation.2.1.opens = t.situation.2.1.opens
                ∧ t'.situation.2.1.prompts = t.situation.2.1.prompts
                ∧ t'.situation.2.1.chunks = t.situation.2.1.chunks)
          ∧ ((∀ device, t.situation.1.connection.bound? = some (.usb device) →
              .deviceDetached device ∉ visible) → t'.situation = t.situation) := by
  intro m
  have hnonzero : capacity ≠ 0 := Nat.ne_of_gt hcapacity
  refine ⟨⟨EventBus.roundUp capacity, []⟩, if_neg hnonzero, EventBus.roundUp_spec capacity, ?_⟩
  intro earlier incidents batch t t' visible
  obtain ⟨hup, hsame, htally⟩ := meetAll_keep (p := m) provoke
    (P := fun s => Tallied s.2.1 s.1.connection) (Deal.keep_act Tallied.deal)
    (Deal.keep_transfer Tallied.deal) (fun change hs => hs.provocation change)
    (t := s.watched ((⟨EventBus.roundUp capacity, []⟩ : EventBus).publishAll earlier)) rfl
    (tallied_reaches h) incidents
  have hkeeps : t.bus.capacity = EventBus.roundUp capacity :=
    hsame.trans (EventBus.capacity_publishAll _ earlier)
  have htold : t'.situation = m.told visible t.situation := by
    show (m.meet provoke t (.events batch)).situation = _
    rw [meet_events hup, hkeeps]
    rfl
  refine ⟨?_, fun device hbound hgone => ?_, fun hkept => ?_⟩
  · show (batch.drop (batch.length - EventBus.roundUp capacity)).length = _
    rw [List.length_drop]
    dsimp only
    omega
  · have hup : t'.situation = m.giveUp t.situation := htold.trans (told_of_gone hgone rfl hbound)
    have hworld := hangUp_eq kind settings fetch htally t.situation.2.2
    have hafter : t'.situation.2 = ({ t.situation.2.1 with closed := t.situation.2.1.closed
        ++ t.situation.1.connection.channel?.toList }, t.situation.2.2) := by
      rw [hup]
      exact hworld
    rw [hafter, hup]
    refine ⟨rfl, ?_, rfl, rfl, rfl⟩
    show (t.situation.2.1.closed ++ t.situation.1.connection.channel?.toList).length = _
    rw [List.length_append]
    cases t.situation.1.connection.channel? <;> rfl
  · rw [htold]
    refine told_of_kept fun e he id hgone hbound => ?_
    obtain ⟨device, rfl, rfl⟩ := detached_of_gone hgone
    exact hkept device hbound he

/-- The till is unplugged in a burst of four events, of which two are kept. -/
theorem till_unplugged :
    ∃ bus, EventBus.create? 2 = some bus
      ∧ let t := plain.meetAll provoke ((Situation.fresh free).watched bus)
          [.happening (.operation (.select till.identity))]
        let t' := plain.meet provoke t
          (.events [.deviceAttached, .deviceAttached, .deviceDetached ⟨1, 2⟩, .deviceAttached])
        t.situation.1.connection = .connected till.identity till 0
          ∧ t'.situation.1.connection = .ready ∧ t'.situation.2.1.closes = 1 := by
  obtain ⟨bus, hbus, -, hlaw⟩ := detach_watcher .usb .default _ () [till] false (.fresh free)
    (.inl ⟨[], rfl⟩) 2 (by decide)
  have hcapacity : bus = ⟨2, []⟩ := by
    cases hbus
    rfl
  subst hcapacity
  obtain ⟨-, hgone, -⟩ := hlaw [] [.happening (.operation (.select till.identity))]
    [.deviceAttached, .deviceAttached, .deviceDetached ⟨1, 2⟩, .deviceAttached]
  obtain ⟨hready, hcloses, -, -, -⟩ := hgone ⟨1, 2⟩ rfl (by decide)
  exact ⟨_, hbus, rfl, hready, hcloses⟩

end Memory

end ReceiptPrinter
