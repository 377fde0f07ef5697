/-
What selecting a device leads to.

A transport that is not known to be usable is checked first. Then the
session keeps what it has, if it is connected to the device already or
still waits for the user to answer for it; in all other cases its
connection gives way and the device is opened. `Selects` is the table of
this. So a select that fails leaves nothing bound, and one that succeeds
leaves the device bound that was asked for. Devices that the transport has
no name for are turned away before any of this, and nothing happens.
-/
import ReceiptPrinter.Proofs.Session.LifeCycle
import ReceiptPrinter.Registry

namespace ReceiptPrinter

variable {W ι κ ρ E : Type}

/-- The session is bound to `id`, and `record` is what callers are told. -/
def Connection.Shows (c : Connection ι κ ρ) (id : ι) (record : DeviceRecord) : Prop :=
  c.bound? = some id ∧ (c.status = .connected record ∨ c.status = .awaitingPermission record)

/-- Callers are told the device that is bound. -/
theorem Connection.Shows.narrow_eq {c : Connection ι κ ρ} {id : ι} {record : DeviceRecord}
    (h : c.Shows id record) {narrow : DeviceIdentity → Option ι} (hc : c.Described narrow) :
    narrow record.identity = some id := by
  obtain ⟨hbound, hstatus⟩ := h
  cases c with
  | ready => cases hbound
  | awaiting current shown request =>
    cases hbound
    rcases hstatus with hstatus | hstatus <;> cases hstatus
    exact hc
  | connected current shown channel =>
    cases hbound
    rcases hstatus with hstatus | hstatus <;> cases hstatus
    exact hc

/-- With another form of its channel, a connection shows the same. -/
theorem Connection.Shows.mapChannel {κ' : Type} {c : Connection ι κ ρ} {id : ι}
    {record : DeviceRecord} (h : c.Shows id record) (f : κ → κ') :
    (c.mapChannel f).Shows id record := by
  cases c <;> exact h

namespace Printer

open Step

-- ============================================================== the table

section

variable (p : Printer (StateM W) ι κ ρ)

/-- How the check comes out that comes before any use of a transport. -/
inductive Checks : Situation W ι κ ρ → Outcome Unit → Situation W ι κ ρ → Prop where
  /-- The transport is known to be usable and is not asked. -/
  | known {c : Connection ι κ ρ} {w : W} : Checks (⟨true, c⟩, w) (.ok ()) (⟨true, c⟩, w)
  | usable {c : Connection ι κ ρ} {w w' : W} (h : p.backend.prepare w = (.ok (), w')) :
    Checks (⟨false, c⟩, w) (.ok ()) (⟨true, c⟩, w')
  | unusable {c : Connection ι κ ρ} {w w' : W} {e : PrinterError}
    (h : p.backend.prepare w = (.error e, w')) :
    Checks (⟨false, c⟩, w) (.error e) (⟨false, c⟩, w')

/-- How a connection gives way to a device that is to be opened. Only a
request for the same device is looked at, and it gives way once it has been
answered. -/
inductive GivesWay (id : ι) : Connection ι κ ρ → W → W → Prop where
  | unbound {w : W} : GivesWay id .ready w w
  | dropped {other : ι} {record : DeviceRecord} {request : ρ} {w : W} (hother : other ≠ id) :
    GivesWay id (.awaiting other record request) w w
  | answered {record : DeviceRecord} {request request' : ρ} {state : PermissionState} {w w' : W}
    (hstate : state ≠ .pending) (h : p.backend.poll request w = ((state, request'), w')) :
    GivesWay id (.awaiting id record request) w w'
  | closed {other : ι} {record : DeviceRecord} {channel : κ} {w w' : W} (hother : other ≠ id)
    (h : p.backend.close channel w = ((), w')) : GivesWay id (.connected other record channel) w w'

/-- All that selecting a device can lead to. -/
inductive Selects (id : ι) :
    Situation W ι κ ρ → Outcome DeviceRecord → Situation W ι κ ρ → Prop where
  | unusable {s s' : Situation W ι κ ρ} {e : PrinterError} (h : p.Checks s (.error e) s') :
    Selects id s (.error e) s'
  | kept {s : Situation W ι κ ρ} {initialized : Bool} {record : DeviceRecord} {channel : κ} {w : W}
    (h : p.Checks s (.ok ()) (⟨initialized, .connected id record channel⟩, w)) :
    Selects id s (.ok record) (⟨initialized, .connected id record channel⟩, w)
  | waiting {s : Situation W ι κ ρ} {initialized : Bool} {record : DeviceRecord}
    {request request' : ρ} {w w' : W}
    (h : p.Checks s (.ok ()) (⟨initialized, .awaiting id record request⟩, w))
    (hpoll : p.backend.poll request w = ((.pending, request'), w')) :
    Selects id s (.ok record) (⟨initialized, .awaiting id record request'⟩, w')
  | attempted {s : Situation W ι κ ρ} {initialized : Bool} {c : Connection ι κ ρ} {w w₁ w₂ : W}
    {outcome : Outcome (DeviceRecord × Link κ ρ)} (h : p.Checks s (.ok ()) (⟨initialized, c⟩, w))
    (hway : p.GivesWay id c w w₁) (hopen : p.backend.connect id w₁ = (outcome, w₂)) :
    Selects id s (outcome.map Prod.fst) (⟨initialized, .ofAttempt id outcome⟩, w₂)

end

-- ====================================================== the table is right

variable {p : Printer (StateM W) ι κ ρ} {s s' : Situation W ι κ ρ}

theorem Checks.eq {outcome : Outcome Unit} (h : p.Checks s outcome s') :
    eval p.ensureInit s = (outcome, s') := by
  rw [eval_ensureInit, eval_init]
  cases h with
  | known => rfl
  | usable h => simp only [h, Bool.false_eq_true, if_false]
  | unusable h => simp only [h, Bool.false_eq_true, if_false]

theorem checks_total (p : Printer (StateM W) ι κ ρ) (s : Situation W ι κ ρ) :
    ∃ outcome s', p.Checks s outcome s' := by
  obtain ⟨⟨initialized, c⟩, w⟩ := s
  cases initialized with
  | true => exact ⟨_, _, .known⟩
  | false =>
    rcases h : p.backend.prepare w with ⟨outcome, w'⟩
    cases outcome with
    | ok _ => exact ⟨_, _, .usable h⟩
    | error e => exact ⟨_, _, .unusable h⟩

/-- What is bound is not touched by the check. -/
theorem Checks.connection {outcome : Outcome Unit} (h : p.Checks s outcome s') :
    s'.1.connection = s.1.connection := by
  cases h <;> rfl

/-- A check whose outcome was not known finds the transport unusable before
anything is bound. -/
theorem Checks.ready_of_error {e : PrinterError} (h : p.Checks s (.error e) s')
    (hs : s.1.Sound) : s.1.connection = .ready := by
  by_contra hbound
  have husable := hs hbound
  cases h with
  | unusable h => cases husable

/-- A select that fails leaves nothing bound, and one that answers leaves the
device bound, and callers are told so. -/
theorem Selects.settles {id : ι} {outcome : Outcome DeviceRecord}
    (h : p.Selects id s outcome s') (hs : s.1.Sound) :
    match outcome with
    | .error _ => s'.1.connection = .ready
    | .ok record => s'.1.connection.Shows id record := by
  cases h with
  | unusable h => exact h.connection.trans (h.ready_of_error hs)
  | kept h => exact ⟨rfl, .inl rfl⟩
  | waiting h hpoll => exact ⟨rfl, .inr rfl⟩
  | @attempted _ _ _ _ _ outcome h hway hopen =>
    cases outcome with
    | error e => rfl
    | ok opened =>
      obtain ⟨record, link⟩ := opened
      cases link with
      | channel channel => exact ⟨rfl, .inl rfl⟩
      | request request => exact ⟨rfl, .inr rfl⟩

section

variable [DecidableEq ι] {id : ι}

/-- Where nothing can be kept, binding a device comes down to giving up the
connection and opening the device. -/
theorem eval_bindDevice_of_none (s₁ : Situation W ι κ ρ) {w w₂ : W}
    {outcome : Outcome (DeviceRecord × Link κ ρ)}
    (hreusable : eval (p.reusable? id) s = (.ok none, s₁))
    (hway : p.hangUp s₁.1.connection s₁.2 = w) (hopen : p.backend.connect id w = (outcome, w₂)) :
    eval (p.bindDevice id) s
      = (outcome.map Prod.fst, (⟨s₁.1.initialized, .ofAttempt id outcome⟩, w₂)) := by
  subst hway
  simp only [bindDevice, eval_bind, hreusable, eval_close, eval_openDevice, hopen]
  cases outcome <;> rfl

theorem GivesWay.eq {c : Connection ι κ ρ} {w w₁ w₂ : W} {initialized : Bool}
    {outcome : Outcome (DeviceRecord × Link κ ρ)} (hway : p.GivesWay id c w w₁)
    (hopen : p.backend.connect id w₁ = (outcome, w₂)) :
    eval (p.bindDevice id) (⟨initialized, c⟩, w)
      = (outcome.map Prod.fst, (⟨initialized, .ofAttempt id outcome⟩, w₂)) := by
  cases hway with
  | unbound => exact eval_bindDevice_of_none (⟨initialized, .ready⟩, _) rfl rfl hopen
  | @dropped other record request _ hother =>
    refine eval_bindDevice_of_none (⟨initialized, .awaiting other record request⟩, _) ?_ rfl hopen
    simp only [reusable?, eval_bind, eval_connection, if_neg hother, eval_pure]
  | @answered record request request' state _ _ hstate h =>
    refine eval_bindDevice_of_none (⟨initialized, .awaiting id record request'⟩, _) ?_ rfl hopen
    simp only [reusable?, eval_bind, eval_connection, if_true, eval_pollRequest, h]
    cases state with
    | pending => exact absurd rfl hstate
    | granted => rfl
    | denied => rfl
  | @closed other record channel w w₁ hother h =>
    refine eval_bindDevice_of_none (⟨initialized, .connected other record channel⟩, w) ?_
      (congrArg Prod.snd h) hopen
    simp only [reusable?, eval_bind, eval_connection, eval_pure, if_neg hother]

/-- What the table says is what happens. -/
theorem Selects.eq {outcome : Outcome DeviceRecord} (h : p.Selects id s outcome s') :
    eval (p.select id) s = (outcome, s') := by
  unfold select
  rw [eval_bind]
  cases h with
  | unusable h => rw [h.eq]
  | kept h =>
    rw [h.eq]
    simp only [bindDevice, reusable?, eval_bind, eval_connection, if_true, eval_pure]
  | waiting h hpoll =>
    rw [h.eq]
    simp only [bindDevice, reusable?, eval_bind, eval_connection, if_true, eval_pollRequest, hpoll,
      eval_pure]
  | attempted h hway hopen =>
    rw [h.eq]
    exact hway.eq hopen

/-- A connection is kept, or it gives way. -/
theorem selects_of_checks {s₁ : Situation W ι κ ρ} (h : p.Checks s (.ok ()) s₁) :
    ∃ outcome s', p.Selects id s outcome s' := by
  obtain ⟨⟨initialized, c⟩, w⟩ := s₁
  cases c with
  | ready => exact ⟨_, _, .attempted h .unbound rfl⟩
  | connected current record channel =>
    by_cases hcurrent : current = id
    · subst hcurrent
      exact ⟨_, _, .kept h⟩
    · exact ⟨_, _, .attempted h (.closed hcurrent rfl) rfl⟩
  | awaiting current record request =>
    by_cases hcurrent : current = id
    · subst hcurrent
      rcases hpoll : p.backend.poll request w with ⟨⟨state, request'⟩, w'⟩
      by_cases hstate : state = .pending
      · subst hstate
        exact ⟨_, _, .waiting h hpoll⟩
      · exact ⟨_, _, .attempted h (.answered hstate hpoll) rfl⟩
    · exact ⟨_, _, .attempted h (.dropped hcurrent) rfl⟩

/-- The table leaves nothing out. -/
theorem selects_total (p : Printer (StateM W) ι κ ρ) (id : ι) (s : Situation W ι κ ρ) :
    ∃ outcome s', p.Selects id s outcome s' := by
  obtain ⟨outcome, s₁, h⟩ := checks_total p s
  cases outcome with
  | ok _ => exact selects_of_checks h
  | error e => exact ⟨_, _, .unusable h⟩

theorem Selects.respond_eq {outcome : Outcome DeviceRecord} (h : p.Selects id s outcome s') :
    p.respond (.select id) s = (outcome.map .device, s') := by
  rw [respond_eq_eval, perform, eval_bind, h.eq]
  cases outcome <;> rfl

end

end Printer

-- ========================================================= what is noted

namespace Connection

/-- What is noted when a connection is given up. -/
def farewell (c : Connection ι (Numbered κ) ρ) : List (Deed ι) :=
  (c.channel?.map fun channel => .closed channel.number).toList

/-- What is noted when a connection is made. -/
def greeting : Connection ι (Numbered κ) ρ → List (Deed ι)
  | .ready => []
  | .awaiting id _ _ => [.prompted id]
  | .connected id _ channel => [.opened id channel.number]

end Connection

/-- What is noted of an attempt to open a device. -/
def Deed.ofAttempt (id : ι) : Outcome (DeviceRecord × Link (Numbered κ) ρ) → List (Deed ι)
  | .error e => [.refused id e]
  | .ok (record, link) => (Connection.ofLink id record link).greeting

/-- What a select that failed with `e` has left. If the session was bound to
anything, its connection was given up before the device was tried. -/
structure SelectFailed (id : ι) (e : PrinterError)
    (s s' : Situation (W × Journal ι) ι (Numbered κ) ρ) : Prop where
  ready : s'.1.connection = .ready
  deeds : s.1.connection = .ready ∧ s'.2.2.deeds = s.2.2.deeds
    ∨ s'.2.2.deeds = s.2.2.deeds ++ s.1.connection.farewell ++ [.refused id e]

/-- What a select that answered with `record` has left. The device was bound
before, and nothing was asked of any device; or else the connection was
given up before the device was opened. -/
structure SelectBound (id : ι) (record : DeviceRecord)
    (s s' : Situation (W × Journal ι) ι (Numbered κ) ρ) : Prop where
  shows : s'.1.connection.Shows id record
  deeds : s.1.connection.bound? = some id ∧ s'.2.2.deeds = s.2.2.deeds
    ∨ s'.2.2.deeds = s.2.2.deeds ++ s.1.connection.farewell ++ s'.1.connection.greeting

namespace Printer

variable {p : Printer (StateM W) ι κ ρ} {s s' : Situation (W × Journal ι) ι (Numbered κ) ρ}
  {id : ι}

theorem Checks.deeds {outcome : Outcome Unit} (h : p.journaled.Checks s outcome s') :
    s'.2.2.deeds = s.2.2.deeds := by
  cases h with
  | known => rfl
  | usable h => rw [journal_aside h]
  | unusable h => rw [journal_aside h]

theorem GivesWay.deeds {c : Connection ι (Numbered κ) ρ} {w w' : W × Journal ι}
    (h : p.journaled.GivesWay id c w w') : w'.2.deeds = w.2.deeds ++ c.farewell := by
  cases h with
  | unbound => exact (List.append_nil _).symm
  | dropped => exact (List.append_nil _).symm
  | answered hstate h =>
    rw [journal_aside h]
    exact (List.append_nil _).symm
  | closed hother h =>
    cases h
    rfl

theorem deeds_connect {w w' : W × Journal ι}
    {outcome : Outcome (DeviceRecord × Link (Numbered κ) ρ)}
    (h : p.journaled.backend.connect id w = (outcome, w')) :
    w'.2.deeds = w.2.deeds ++ Deed.ofAttempt id outcome := by
  rw [connect_journaled] at h
  cases h
  cases (p.backend.connect id w.1).1 with
  | error e => rfl
  | ok opened =>
    obtain ⟨record, link⟩ := opened
    cases link <;> rfl

/-- A device that was attempted has taken the place of what was bound. -/
theorem deeds_attempted {session : Session ι (Numbered κ) ρ} {w w₁ w₂ : W × Journal ι}
    {outcome : Outcome (DeviceRecord × Link (Numbered κ) ρ)}
    (h : p.journaled.Checks s (.ok ()) (session, w))
    (hway : p.journaled.GivesWay id session.connection w w₁)
    (hopen : p.journaled.backend.connect id w₁ = (outcome, w₂)) :
    w₂.2.deeds = s.2.2.deeds ++ s.1.connection.farewell ++ Deed.ofAttempt id outcome := by
  have hchecked : w.2.deeds = s.2.2.deeds := h.deeds
  have hbound : session.connection = s.1.connection := h.connection
  rw [deeds_connect hopen, hway.deeds, hchecked, hbound]

/-- What a select has left, be it a failure or an answer. -/
theorem Selects.leaves {outcome : Outcome DeviceRecord}
    (h : p.journaled.Selects id s outcome s') (hs : s.1.Sound) :
    match outcome with
    | .error e => SelectFailed id e s s'
    | .ok record => SelectBound id record s s' := by
  have hsettles := h.settles hs
  cases h with
  | unusable h => exact ⟨hsettles, .inl ⟨h.ready_of_error hs, h.deeds⟩⟩
  | kept h =>
    have hbound : s.1.connection.bound? = some id := by
      rw [← h.connection]
      rfl
    exact ⟨hsettles, .inl ⟨hbound, h.deeds⟩⟩
  | waiting h hpoll =>
    have hbound : s.1.connection.bound? = some id := by
      rw [← h.connection]
      rfl
    refine ⟨hsettles, .inl ⟨hbound, ?_⟩⟩
    rw [journal_aside hpoll]
    exact h.deeds
  | @attempted _ _ _ _ _ outcome h hway hopen =>
    have hdeeds := deeds_attempted h hway hopen
    cases outcome with
    | error e => exact ⟨hsettles, .inr hdeeds⟩
    | ok opened => exact ⟨hsettles, .inr hdeeds⟩

end Printer

-- ================================================== a device of any transport

/-- What is answered to an operation on a device of any transport, and the
situation afterwards. -/
def Printer.respondTo [DecidableEq ι] (p : Printer (StateM W) ι κ ρ)
    (operation : Operation DeviceIdentity) (s : Situation W ι κ ρ) :
    Outcome Reply × Situation W ι κ ρ :=
  match operation.narrow p with
  | .error e => (.error e, s)
  | .ok operation => p.respond operation s

section

variable [DecidableEq ι] {p : Printer (StateM W) ι κ ρ} {device : DeviceIdentity}

theorem Printer.respondTo_select_of_some {id : ι} (h : p.backend.narrow device = some id)
    (s : Situation W ι κ ρ) : p.respondTo (.select device) s = p.respond (.select id) s := by
  simp only [respondTo, Operation.narrow, accept, h]
  rfl

/-- A device that the transport has no name for is turned away. -/
theorem Printer.respondTo_select_of_none (h : p.backend.narrow device = none)
    (s : Situation W ι κ ρ) :
    p.respondTo (.select device) s = (.error (.invalidArgument
      s!"{device.text} cannot be used on the {p.backend.kind.name} transport"), s) := by
  simp only [respondTo, Operation.narrow, accept, h]
  rfl

end

/-- So it is answered by each of several printers, on its own session. -/
theorem Registry.within_eq [DecidableEq ι] {τ σ : Type} (p : Printer (StateM W) ι κ ρ)
    {part : Sessions τ σ → Session ι κ ρ} {put : Sessions τ σ → Session ι κ ρ → Sessions τ σ}
    {sessions : Sessions τ σ} (hput : put sessions (part sessions) = sessions)
    (operation : Operation DeviceIdentity) (w : W) :
    ((Registry.within p part put operation).run sessions).run w =
      let (outcome, s) := p.respondTo operation (part sessions, w)
      ((outcome, put sessions s.1), s.2) := by
  unfold Registry.within Printer.respondTo
  cases operation.narrow p with
  | error e =>
    show ((_, sessions), w) = ((_, put sessions (part sessions)), w)
    rw [hput]
  | ok operation => rfl

/-- Where a device is turned away, no session notices. -/
theorem Registry.within_select_of_none [DecidableEq ι] {τ σ : Type} {p : Printer (StateM W) ι κ ρ}
    {part : Sessions τ σ → Session ι κ ρ} {put : Sessions τ σ → Session ι κ ρ → Sessions τ σ}
    {sessions : Sessions τ σ} (hput : put sessions (part sessions) = sessions)
    {device : DeviceIdentity} (h : p.backend.narrow device = none) (w : W) :
    ((Registry.within p part put (.select device)).run sessions).run w
      = ((.error (.invalidArgument
          s!"{device.text} cannot be used on the {p.backend.kind.name} transport"), sessions), w) := by
  rw [within_eq p hput, Printer.respondTo_select_of_none h]
  dsimp only
  rw [hput]

/-- Each printer turns away the devices of the other transports. -/
theorem Registry.run_select_other {τ σ : Type} (r : Registry (StateM W) τ σ)
    {kind : TransportKind} {device : DeviceIdentity} (h : device.transport ≠ kind)
    (sessions : Sessions τ σ) (w : W) :
    ((r.run kind (.select device)).run sessions).run w
      = ((.error (.invalidArgument
          s!"{device.text} cannot be used on the {kind.name} transport"), sessions), w) := by
  unfold run
  cases kind with
  | ble =>
    apply within_select_of_none rfl (p := r.bluetooth)
    cases device with
    | ble id => exact absurd rfl h
    | usb id => rfl
    | net id => rfl
  | usb =>
    apply within_select_of_none rfl (p := r.usb)
    cases device with
    | usb id => exact absurd rfl h
    | ble id => rfl
    | net id => rfl
  | net =>
    apply within_select_of_none rfl (p := r.net)
    cases device with
    | net id => exact absurd rfl h
    | ble id => rfl
    | usb id => rfl

-- =============================================================== in memory

namespace Memory

variable {F : Type} {kind : TransportKind} {settings : Settings}
  {fetch : String → StateM F (Outcome PixelMatrix)} {id : DeviceIdentity}
  {s s' : Situation (World × F) DeviceIdentity Nat Request}

/-- Why selecting a device can fail in memory. -/
inductive SelectFailure (s : Situation (World × F) DeviceIdentity Nat Request)
    (id : DeviceIdentity) : PrinterError → Prop where
  /-- The adapter is off, and it was never found to be on. -/
  | unusable (hinit : s.1.initialized = false) (hready : s.2.1.ready = false) :
    SelectFailure s id (.adapterNotReady s!"{s.2.1.kind.name} adapter disabled")
  /-- The next open was made to fail. -/
  | armed {e : PrinterError} (harmed : s.2.1.armed = some e) : SelectFailure s id e
  | unknown (hdevices : ∀ record ∈ s.2.1.devices, record.identity ≠ id) :
    SelectFailure s id (.deviceNotFound id.text)

/-- What a select that failed in memory has left: one channel was closed if
the session was connected, and else none. -/
structure SelectFailed (id : DeviceIdentity) (e : PrinterError)
    (s s' : Situation (World × F) DeviceIdentity Nat Request) : Prop where
  ready : s'.1.connection = .ready
  closes : s'.2.1.closes = s.2.1.closes + (if s.1.connection.channel?.isSome then 1 else 0)
  reason : SelectFailure s id e

/-- What a select that answered has left in memory: a channel to another
device was closed, once. -/
structure SelectBound (id : DeviceIdentity) (record : DeviceRecord)
    (s s' : Situation (World × F) DeviceIdentity Nat Request) : Prop where
  identity : record.identity = id
  shows : s'.1.connection.Shows id record
  closed : ∀ other shown channel, s.1.connection = .connected other shown channel → other ≠ id →
    channel ∉ s.2.1.closed ∧ s'.2.1.closed = s.2.1.closed ++ [channel]

/-- The adapter decides whether the transport is usable, and the check
changes nothing. -/
theorem world_of_checks {outcome : Outcome Unit}
    (h : (printer kind settings fetch).Checks s outcome s') : s'.2 = s.2 := by
  cases h with
  | known => rfl
  | usable h => exact (congrArg Prod.snd h).symm
  | unusable h => exact (congrArg Prod.snd h).symm

/-- What gives way is closed if it was open; the devices and the failure of
the next open stay. -/
theorem frame_of_givesWay {c : Connection DeviceIdentity Nat Request} {w w' : World × F}
    (h : (printer kind settings fetch).GivesWay id c w w') (htally : Tallied w.1 c) :
    w'.1.closed = w.1.closed ++ c.channel?.toList ∧ w'.1.armed = w.1.armed
      ∧ w'.1.devices = w.1.devices := by
  cases h with
  | unbound => exact ⟨(List.append_nil _).symm, rfl, rfl⟩
  | dropped hother => exact ⟨(List.append_nil _).symm, rfl, rfl⟩
  | answered hstate h =>
    cases h
    exact ⟨(List.append_nil _).symm, rfl, rfl⟩
  | @closed other record channel _ _ hother h =>
    cases h
    show (w.1.close channel).closed = _ ∧ (w.1.close channel).armed = _ ∧ _
    rw [World.close_of_notMem (htally.held channel rfl).2]
    exact ⟨rfl, rfl, rfl⟩

/-- Opening a device closes nothing. -/
theorem closed_of_attempt {w w' : World} {outcome : Outcome (DeviceRecord × Link Nat Request)}
    (h : w.Attempt id outcome w') : w'.closed = w.closed := by
  cases h with
  | failed harmed => rfl
  | unknown harmed hfind => rfl
  | opened harmed hfind hgate => rfl
  | prompted harmed hfind hgate hgranted => exact (w.sameChannels_showPrompt _).2

/-- An attempt fails for one of the reasons. -/
theorem failure_of_attempt {w w' : World} {e : PrinterError}
    (h : w.Attempt id (.error e) w') (harmed : w.armed = s.2.1.armed)
    (hdevices : w.devices = s.2.1.devices) : SelectFailure s id e := by
  cases h with
  | failed h => exact .armed (harmed ▸ h)
  | unknown h hfind =>
    refine .unknown fun record hmem => ?_
    rw [← hdevices] at hmem
    simpa using List.find?_eq_none.mp hfind record hmem

/-- What selecting a device closes: the channel that was open, unless the
device is kept. If it fails, there is a reason for it. -/
theorem closed_of_selects {outcome : Outcome DeviceRecord}
    (h : (printer kind settings fetch).Selects id s outcome s')
    (htally : Tallied s.2.1 s.1.connection) (hs : s.1.Sound) :
    match outcome with
    | .error e => s'.2.1.closed = s.2.1.closed ++ s.1.connection.channel?.toList
        ∧ SelectFailure s id e
    | .ok _ => s.1.connection.bound? ≠ some id →
        s'.2.1.closed = s.2.1.closed ++ s.1.connection.channel?.toList := by
  cases h with
  | @unusable _ e h =>
    have hready := h.ready_of_error hs
    have hworld := world_of_checks h
    rw [hready, hworld]
    refine ⟨(List.append_nil _).symm, ?_⟩
    cases h with
    | @unusable c w w' _ h =>
      have hprepare : w.1.prepare = .error e := congrArg Prod.fst h
      unfold World.prepare at hprepare
      split at hprepare
      · cases hprepare
      · next hoff =>
        cases hprepare
        exact .unusable rfl (Bool.not_eq_true _ ▸ hoff)
  | kept h =>
    intro hbound
    rw [← h.connection] at hbound
    exact absurd rfl hbound
  | waiting h hpoll =>
    intro hbound
    rw [← h.connection] at hbound
    exact absurd rfl hbound
  | @attempted _ c w w₁ w₂ outcome h hway hopen =>
    have hconnection : c = s.1.connection := h.connection
    have hworld : w = s.2 := world_of_checks h
    subst hconnection hworld
    obtain ⟨hclosed, harmed, hdevices⟩ := frame_of_givesWay hway htally
    have hattempt : w₁.1.Attempt id outcome w₂.1 := by
      cases hopen
      exact w₁.1.attempt_connect id
    have hclosed' := (closed_of_attempt hattempt).trans hclosed
    cases outcome with
    | error e => exact ⟨hclosed', failure_of_attempt hattempt harmed hdevices⟩
    | ok opened => exact fun _ => hclosed'

/-- How a select ends in memory. -/
theorem select_ends (kind : TransportKind) (settings : Settings)
    (fetch : String → StateM F (Outcome PixelMatrix)) (f : F) (devices : List DeviceRecord)
    (gated : Bool) (life : List (Happening DeviceIdentity Provocation)) (id : DeviceIdentity) :
    let m := printer kind settings fetch
    let u := m.live provoke (.fresh (.fresh kind devices gated, f)) life
    let (outcome, u') := m.respond (.select id) u
    match outcome with
    | .error e => SelectFailed id e u u'
    | .ok reply => ∃ record, reply = .device record ∧ SelectBound id record u u' := by
  intro m u
  have hreaches : m.Reaches provoke (.fresh kind devices gated, f) u := .inl ⟨life, rfl⟩
  have hreaches' : m.Reaches provoke (.fresh kind devices gated, f) (m.respond (.select id) u).2 :=
    .inl ⟨life ++ [.operation (.select id)], Printer.live_concat _ _ _ _⟩
  have htally : Tallied u.2.1 u.1.connection := tallied_reaches hreaches
  have hdescribed := Printer.described_reaches (faithful_beside kind) hreaches'
  obtain ⟨outcome, u', hselects⟩ := m.selects_total id u
  rw [hselects.respond_eq] at hdescribed ⊢
  have hsettles := hselects.settles (Printer.sound_reaches hreaches)
  have hcloses := closed_of_selects hselects htally (Printer.sound_reaches hreaches)
  cases outcome with
  | error e =>
    obtain ⟨hclosed, hreason⟩ := hcloses
    refine ⟨hsettles, ?_, hreason⟩
    show u'.2.1.closed.length = u.2.1.closed.length + _
    rw [hclosed, List.length_append]
    cases u.1.connection.channel? <;> rfl
  | ok record =>
    have hidentity : some record.identity = some id := hsettles.narrow_eq hdescribed
    refine ⟨record, rfl, Option.some.inj hidentity, hsettles, ?_⟩
    intro other shown channel hc hother
    rw [hc] at htally hcloses
    exact ⟨(htally.held channel rfl).2, hcloses fun hbound => hother (Option.some.inj hbound)⟩

end Memory

-- ============================================================= the result

/-- A select ends on the device that was asked for or with nothing bound, on
every transport and after every life.

With a journal kept, the printer does just what it does without one, and the
channel that its session holds has not been closed yet. A device that the
transport has no name for is turned away, and nothing changes; for each of
the printers of a machine these are the devices of the other transports. For
all other devices, `SelectFailed` and `SelectBound` say what is left: a
failure leaves nothing bound, and an answer leaves the device bound; either
way, what was bound before was closed before the device was tried. In memory
the channels closed are counted, there are three reasons for a failure, and
the device that is bound is the one that was asked for. -/
theorem select_ends_bound_or_ready [DecidableEq ι] (p : Printer (StateM W) ι κ ρ)
    (nature : E → W → W) (w : W) (life : List (Happening ι E)) (device : DeviceIdentity) :
    let s := p.live nature (.fresh w) life
    let t := p.journaled.live (Journal.beside nature) (.fresh (w, .blank)) life
    let (outcome, t') := p.journaled.respondTo (.select device) t
    t.forget = s
      ∧ p.respondTo (.select device) s = (outcome, t'.forget)
      ∧ (∀ channel, t.1.connection.channel? = some channel →
          .closed channel.number ∉ t.2.2.deeds)
      ∧ (match p.backend.narrow device with
        | none => t' = t ∧ outcome = .error (.invalidArgument
            s!"{device.text} cannot be used on the {p.backend.kind.name} transport")
        | some id =>
          match outcome with
          | .error e => SelectFailed id e t t'
          | .ok reply => ∃ record, reply = .device record ∧ SelectBound id record t t'
              ∧ (p.backend.Faithful → p.backend.narrow record.identity = some id))
      ∧ (∀ (τ σ : Type) (r : Registry (StateM W) τ σ) (kind : TransportKind)
          (sessions : Sessions τ σ) (w : W), device.transport ≠ kind →
          ((r.run kind (.select device)).run sessions).run w = ((.error (.invalidArgument
            s!"{device.text} cannot be used on the {kind.name} transport"), sessions), w))
      ∧ ∀ (kind : TransportKind) (settings : Settings) (F : Type)
          (fetch : String → StateM F (Outcome PixelMatrix)) (f : F)
          (devices : List DeviceRecord) (gated : Bool)
          (life : List (Happening DeviceIdentity Memory.Provocation)) (id : DeviceIdentity),
          let m := Memory.printer kind settings fetch
          let u := m.live Memory.provoke (.fresh (.fresh kind devices gated, f)) life
          let (outcome, u') := m.respond (.select id) u
          match outcome with
          | .error e => Memory.SelectFailed id e u u'
          | .ok reply => ∃ record, reply = .device record ∧ Memory.SelectBound id record u u' := by
  intro s t
  have hforget : t.forget = s := (Printer.live_journaled p nature life _).symm
  have hkept : Kept t := Printer.kept_live p nature w life
  have hsound : t.1.Sound := Printer.sound_reaches (p := p.journaled) (.inl ⟨life, rfl⟩)
  have hopen : ∀ channel, t.1.connection.channel? = some channel →
      .closed channel.number ∉ t.2.2.deeds := by
    intro channel hchannel
    obtain ⟨initialized, id, record, hsession⟩ := Session.eq_of_channel? hchannel
    have husable := hkept
    unfold Kept at husable
    rw [hsession] at husable
    exact husable.usable.2
  have hother := fun τ σ (r : Registry (StateM W) τ σ) kind sessions w
      (h : device.transport ≠ kind) => r.run_select_other h sessions w
  have hmemory := fun kind settings F => Memory.select_ends (F := F) kind settings
  cases hnarrow : p.backend.narrow device with
  | none =>
    rw [Printer.respondTo_select_of_none (p := p.journaled) hnarrow,
      Printer.respondTo_select_of_none hnarrow]
    exact ⟨hforget, congrArg _ hforget.symm, hopen, ⟨rfl, rfl⟩, hother, hmemory⟩
  | some id =>
    obtain ⟨outcome, t', hselects⟩ := p.journaled.selects_total id t
    have hleaves := hselects.leaves hsound
    have hplain : p.respond (.select id) s = (outcome.map .device, t'.forget) := by
      rw [← hforget, Printer.respond_journaled, hselects.respond_eq]
    rw [Printer.respondTo_select_of_some (p := p.journaled) hnarrow,
      Printer.respondTo_select_of_some hnarrow, hselects.respond_eq]
    cases outcome with
    | error e => exact ⟨hforget, hplain, hopen, hleaves, hother, hmemory⟩
    | ok record =>
      refine ⟨hforget, hplain, hopen, ⟨record, rfl, hleaves, fun hb => ?_⟩, hother, hmemory⟩
      have hreaches : p.Reaches nature w (p.respond (.select id) s).2 :=
        .inl ⟨life ++ [.operation (.select id)], Printer.live_concat _ _ _ _⟩
      rw [hplain] at hreaches
      exact (hleaves.shows.mapChannel Numbered.channel).narrow_eq
        (Printer.described_reaches hb hreaches)

end ReceiptPrinter
