/-
Selecting a device that is selected already.

A session that is connected to a device, or still waits for the user to
answer for it, keeps what it has when the device is selected once more. The
transport is not checked again, for it was found usable before anything was
bound, and nothing is opened. So whatever has become of the transport in the
meantime, such a select cannot fail, and it changes nothing.
-/
import ReceiptPrinter.Proofs.Device.Mac
import ReceiptPrinter.Proofs.Session.Select
import ReceiptPrinter.Proofs.Transport.Gate

namespace ReceiptPrinter

variable {W ι κ ρ E : Type}

-- ================================================================ patience

/-- A transport that never asks for permission never gets impatient. -/
theorem Backend.patient_of_no_request (b : Backend (StateM W) ι κ Empty) : b.Patient :=
  fun request => request.elim

namespace Printer

-- ================================================================ keeping

/-- The session needs nothing done to be bound to `id`: it is connected, or
the user has not answered yet. -/
inductive BoundAlready (p : Printer (StateM W) ι κ ρ) (id : ι) (record : DeviceRecord) :
    Situation W ι κ ρ → Prop where
  | connected {initialized : Bool} {channel : κ} {w : W} :
    BoundAlready p id record (⟨initialized, .connected id record channel⟩, w)
  | waiting {initialized : Bool} {request : ρ} {w : W}
    (hpoll : (p.backend.poll request w).1.1 = .pending) :
    BoundAlready p id record (⟨initialized, .awaiting id record request⟩, w)

variable {p : Printer (StateM W) ι κ ρ} {id : ι} {record : DeviceRecord} {s s' : Situation W ι κ ρ}

/-- It stays so while neither the connection nor the answers change. -/
theorem BoundAlready.of_eq (h : p.BoundAlready id record s)
    (hconnection : s'.1.connection = s.1.connection)
    (hpoll : ∀ request, (p.backend.poll request s'.2).1 = (p.backend.poll request s.2).1) :
    p.BoundAlready id record s' := by
  obtain ⟨⟨initialized, c⟩, w⟩ := s'
  cases h with
  | connected =>
    cases hconnection
    exact .connected
  | waiting hpending =>
    cases hconnection
    refine .waiting ?_
    rw [hpoll]
    exact hpending

theorem BoundAlready.initialized (h : p.BoundAlready id record s) (hs : s.1.Sound) :
    s.1.initialized = true := by
  cases h with
  | connected => exact hs nofun
  | waiting hpoll => exact hs nofun

/-- What is bound already is kept, and nothing changes. -/
theorem BoundAlready.selects (h : p.BoundAlready id record s) (hp : p.backend.Patient)
    (hs : s.1.Sound) : p.Selects id s (.ok record) s := by
  have hinit := h.initialized hs
  cases h with
  | connected =>
    cases hinit
    exact .kept .known
  | @waiting initialized request w hpoll =>
    cases hinit
    rcases hlook : p.backend.poll request w with ⟨⟨state, request'⟩, w'⟩
    rw [hlook] at hpoll
    cases hpoll
    obtain ⟨rfl, rfl⟩ := hp request w request' w' hlook
    exact .waiting .known hlook

end Printer

-- ======================================================= beside other tasks

namespace Traffic

open Step

variable [DecidableEq ι] {p : Printer (StateM W) ι κ ρ} {id : ι} {record : DeviceRecord}
  {t : Traffic W ι κ ρ} {index : Nat}

/-- A step that leaves session and world alone brings its task further, and
nothing else. -/
theorem step?_of_eval {task task' : Task ι κ} (htask : t.tasks[index]? = some task)
    (hmay : t.mayStep task = true)
    (hstep : Task.eval (task.step p) (t.session, t.world) = (task', (t.session, t.world))) :
    t.step? p index = some { t with tasks := t.tasks.set index task' } := by
  rw [step?_eq, htask]
  show (if t.mayStep task = true then _ else _) = _
  rw [if_pos hmay, hstep]

/-- On a transport that is known to be usable, a select passes the check. -/
theorem step_select_started (hinit : t.session.initialized = true)
    (htask : t.tasks[index]? = some (.started (.select id))) :
    t.step? p index = some { t with tasks := t.tasks.set index (.selecting id) } := by
  have hmay : t.mayStep (.started (.select id)) = true := by
    show (t.isFree || true) = true
    exact Bool.or_true _
  refine step?_of_eval htask hmay ?_
  show Task.eval (Task.after p.ensureInit fun _ => .selecting id) (t.session, t.world) = _
  rw [Task.eval_after, Printer.eval_ensureInit, if_pos hinit]

/-- Once it has passed the check, a select keeps what is bound already. -/
theorem step_select_bound (hp : p.backend.Patient) (hs : t.session.Sound)
    (hbound : p.BoundAlready id record (t.session, t.world))
    (htask : t.tasks[index]? = some (.selecting id)) (hfree : t.isFree = true) :
    t.step? p index
      = some { t with tasks := t.tasks.set index (.ended (.ok (.device record))) } := by
  have hmay : t.mayStep (.selecting id) = true := by
    show (t.isFree || false) = true
    rw [hfree]
    rfl
  -- without the check a select is nothing but this step
  have hselect : eval (p.bindDevice id) (t.session, t.world)
      = eval (p.select id) (t.session, t.world) := by
    unfold Printer.select
    rw [eval_bind, Printer.eval_ensureInit, if_pos (hbound.initialized hs)]
  refine step?_of_eval htask hmay ?_
  show Task.eval (Task.after (p.bindDevice id) fun record => .ended (.ok (.device record)))
    (t.session, t.world) = _
  rw [Task.eval_after, hselect, (hbound.selects hp hs).eq]

end Traffic

-- =============================================================== in memory

namespace Memory

variable {F : Type} {kind : TransportKind} {settings : Settings}
  {fetch : String → StateM F (Outcome PixelMatrix)} {id : DeviceIdentity} {record : DeviceRecord}
  {s : Situation (World × F) DeviceIdentity Nat Request}

/-- Something that happens to the transport, or a check of it, that does not
concern what is bound. -/
inductive Trouble : Happening DeviceIdentity Provocation → Prop where
  | power (on : Bool) : Trouble (.outside (.power on))
  | failNextOpen (reason : PrinterError) : Trouble (.outside (.failNextOpen reason))
  | failWrites (fail : Bool) : Trouble (.outside (.failWrites fail))
  | init : Trouble (.operation .init)

/-- A check of the transport changes neither the connection nor the world. -/
theorem undergo_init (kind : TransportKind) (settings : Settings)
    (fetch : String → StateM F (Outcome PixelMatrix))
    (s : Situation (World × F) DeviceIdentity Nat Request) :
    let s' := (printer kind settings fetch).undergo provoke s (.operation .init)
    s'.1.connection = s.1.connection ∧ s'.2 = s.2 := by
  have hprepare : (printer kind settings fetch).backend.prepare s.2 = (s.2.1.prepare, s.2) := rfl
  show let s' := ((printer kind settings fetch).respond .init s).2
    s'.1.connection = s.1.connection ∧ s'.2 = s.2
  rw [Printer.respond_eq_eval, Printer.perform, Step.eval_bind, Printer.eval_init, hprepare]
  cases s.2.1.prepare <;> exact ⟨rfl, rfl⟩

/-- Trouble does not concern what is bound. -/
theorem boundAlready_undergo (h : (printer kind settings fetch).BoundAlready id record s)
    {happening : Happening DeviceIdentity Provocation} (htrouble : Trouble happening) :
    (printer kind settings fetch).BoundAlready id record
      ((printer kind settings fetch).undergo provoke s happening) := by
  cases htrouble with
  | power on => exact h.of_eq rfl fun _ => rfl
  | failNextOpen reason => exact h.of_eq rfl fun _ => rfl
  | failWrites fail => exact h.of_eq rfl fun _ => rfl
  | init =>
    obtain ⟨hconnection, hworld⟩ := undergo_init kind settings fetch s
    exact h.of_eq hconnection fun _ => by rw [hworld]

theorem boundAlready_live (troubles : List (Happening DeviceIdentity Provocation))
    (h : (printer kind settings fetch).BoundAlready id record s)
    (htroubles : ∀ happening ∈ troubles, Trouble happening) :
    (printer kind settings fetch).BoundAlready id record
      ((printer kind settings fetch).live provoke s troubles) := by
  induction troubles generalizing s with
  | nil => exact h
  | cons happening rest ih =>
    have hfirst := boundAlready_undergo h (htroubles happening List.mem_cons_self)
    exact ih hfirst fun other hmem => htroubles other (List.mem_cons_of_mem happening hmem)

end Memory

-- ============================================================= the result

/-- Selecting a device again costs nothing and cannot fail, on every
transport that lets a request alone until it is answered, wherever the
printer can come to.

If the session is connected to the device, or waits for it and the user has
not answered, the answer is the record that is kept, and neither session nor
world changes. The same holds of each of the two steps in which a select is
done beside other tasks. In memory it makes no difference if the adapter was
switched off since, if a check of the transport failed, or if the next open
or all writes were made to fail; the failure of the next open is not used
up. All transports let requests alone. Texts that agree but for letter case
name the same Bluetooth device, and of addresses no others do. -/
theorem reselect_is_free [DecidableEq ι] (p : Printer (StateM W) ι κ ρ) (hp : p.backend.Patient)
    (nature : E → W → W) (w : W) (id : ι) (record : DeviceRecord) :
    (∀ s, p.Reaches nature w s → p.BoundAlready id record s →
        p.respond (.select id) s = (.ok (.device record), s))
      ∧ (∀ moves t index, (Traffic.none w).follow? p nature moves = some t →
          p.BoundAlready id record (t.session, t.world) →
          (t.tasks[index]? = some (.started (.select id)) →
            t.step? p index = some { t with tasks := t.tasks.set index (.selecting id) })
          ∧ (t.tasks[index]? = some (.selecting id) → t.isFree = true →
            t.step? p index
              = some { t with tasks := t.tasks.set index (.ended (.ok (.device record))) }))
      ∧ (∀ (kind : TransportKind) (settings : Settings) (F : Type)
          (fetch : String → StateM F (Outcome PixelMatrix)) (f : F)
          (devices : List DeviceRecord) (gated : Bool) (id : DeviceIdentity)
          (record : DeviceRecord)
          (u : Situation (Memory.World × F) DeviceIdentity Nat Memory.Request)
          (troubles : List (Happening DeviceIdentity Memory.Provocation)),
          let m := Memory.printer kind settings fetch
          let u' := m.live Memory.provoke u troubles
          m.Reaches Memory.provoke (.fresh kind devices gated, f) u → m.BoundAlready id record u →
          (∀ happening ∈ troubles, Memory.Trouble happening) →
            m.respond (.select id) u' = (.ok (.device record), u'))
      ∧ (∀ (kind : TransportKind) (F : Type), ((Memory.backend kind).beside F).Patient)
      ∧ (∀ (W ι κ : Type) (b : Backend (StateM W) ι κ Empty), b.Patient)
      ∧ ∀ mac mac' : String,
          (Text.lowerAscii mac.toList = Text.lowerAscii mac'.toList →
            BleIdentity.ofText mac = BleIdentity.ofText mac')
          ∧ (isMac mac.toList = true → isMac mac'.toList = true →
            BleIdentity.ofText mac = BleIdentity.ofText mac' →
              Text.lowerAscii mac.toList = Text.lowerAscii mac'.toList) := by
  refine ⟨?_, ?_, ?_, fun kind F => Memory.patient_beside kind,
    fun _ _ _ b => b.patient_of_no_request, fun mac mac' => ⟨?_, fun hmac hmac' => ?_⟩⟩
  · intro s hs hbound
    exact (hbound.selects hp (Printer.sound_reaches hs)).respond_eq
  · intro moves t index hfollow hbound
    have hsound := Traffic.sound_follow hfollow
    exact ⟨Traffic.step_select_started (hbound.initialized hsound),
      Traffic.step_select_bound hp hsound hbound⟩
  · intro kind settings F fetch f devices gated id record u troubles m u' hreaches hbound htroubles
    have hsound : u'.1.Sound :=
      m.sound_live Memory.provoke troubles (Printer.sound_reaches hreaches)
    have hbound' : m.BoundAlready id record u' := Memory.boundAlready_live troubles hbound htroubles
    exact (hbound'.selects (Memory.patient_beside kind) hsound).respond_eq
  · exact BleIdentity.ofText_eq_of_lowerAscii_eq
  · exact (BleIdentity.ofText_eq_iff_of_isMac hmac hmac').1

/-- The till is selected once more, while the user is still being asked, with
the adapter switched off and the next open made to fail. -/
theorem till_selected_again :
    let s := Memory.plain.live Memory.provoke (.fresh Memory.gated)
      [.operation (.select Memory.till.identity), .outside (.power false), .operation .init,
        .outside (.failNextOpen (.connectionFailed "unplugged"))]
    Memory.plain.BoundAlready Memory.till.identity Memory.till s
      ∧ Memory.plain.respond (.select Memory.till.identity) s
        = (.ok (.device Memory.till), s)
      ∧ s.2.1.armed = some (.connectionFailed "unplugged") := by
  intro s
  have hbound : Memory.plain.BoundAlready Memory.till.identity Memory.till s := .waiting rfl
  obtain ⟨hfree, -⟩ := reselect_is_free Memory.plain (Memory.patient_beside .usb) Memory.provoke
    Memory.gated Memory.till.identity Memory.till
  exact ⟨hbound, hfree s (.inl ⟨_, rfl⟩) hbound, rfl⟩

end ReceiptPrinter
