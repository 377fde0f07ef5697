/-
Steps read as functions.

A step fails or answers, and either way it leaves a situation behind.
`Step.eval` spells that out, so that nobody below has to look through the
transformers a step is built from: each primitive has one equation here,
and each function of the printer has one that says all it can lead to.
-/
import ReceiptPrinter.Session.Life

namespace ReceiptPrinter

variable {W ι κ ρ α β : Type}

/-- What a step answers, and the situation it leaves. -/
def Step.eval (x : Step (StateM W) ι κ ρ α) (s : Situation W ι κ ρ) :
    Outcome α × Situation W ι κ ρ :=
  let ((outcome, session), world) := (x.run.run s.1).run s.2
  (outcome, (session, world))

-- ======================================================== the primitives

namespace Step

@[simp] theorem eval_pure (a : α) (s : Situation W ι κ ρ) :
    eval (pure a : Step (StateM W) ι κ ρ α) s = (.ok a, s) := rfl

@[simp] theorem eval_throw (e : PrinterError) (s : Situation W ι κ ρ) :
    eval (throw e : Step (StateM W) ι κ ρ α) s = (.error e, s) := rfl

/-- A step after another one: only an answer lets it begin. -/
theorem eval_bind (x : Step (StateM W) ι κ ρ α) (f : α → Step (StateM W) ι κ ρ β)
    (s : Situation W ι κ ρ) :
    eval (x >>= f) s =
      match eval x s with
      | (.ok a, s') => eval (f a) s'
      | (.error e, s') => (.error e, s') := by
  unfold eval
  simp only [bind, ExceptT.bind, ExceptT.mk, ExceptT.run, ExceptT.bindCont, StateT.bind,
    StateT.run]
  rcases x s.1 s.2 with ⟨⟨outcome, session⟩, world⟩
  cases outcome with
  | ok a => rfl
  | error e => rfl

theorem eval_discard (x : Step (StateM W) ι κ ρ α) (s : Situation W ι κ ρ) :
    eval (discard x) s = ((eval x s).1.map fun _ => (), (eval x s).2) := by
  unfold eval
  simp only [discard, Functor.discard, Functor.mapConst, Function.comp, Function.const, ExceptT.map,
    ExceptT.mk, ExceptT.run, bind, StateT.bind, StateT.run]
  rcases x s.1 s.2 with ⟨⟨outcome, session⟩, world⟩
  cases outcome with
  | ok a => rfl
  | error e => rfl

@[simp] theorem eval_effect (x : StateM W α) (s : Situation W ι κ ρ) :
    eval (Printer.effect x : Step (StateM W) ι κ ρ α) s
      = (.ok (x s.2).1, (s.1, (x s.2).2)) := rfl

@[simp] theorem eval_attempt (x : StateM W (Outcome α)) (s : Situation W ι κ ρ) :
    eval (Printer.attempt x : Step (StateM W) ι κ ρ α) s
      = ((x s.2).1, (s.1, (x s.2).2)) := rfl

@[simp] theorem eval_connection (s : Situation W ι κ ρ) :
    eval (Printer.connection : Step (StateM W) ι κ ρ _) s = (.ok s.1.connection, s) := rfl

@[simp] theorem eval_setConnection (c : Connection ι κ ρ) (s : Situation W ι κ ρ) :
    eval (Printer.setConnection c : Step (StateM W) ι κ ρ Unit) s
      = (.ok (), ({ s.1 with connection := c }, s.2)) := rfl

@[simp] theorem eval_get (s : Situation W ι κ ρ) :
    eval (get : Step (StateM W) ι κ ρ (Session ι κ ρ)) s = (.ok s.1, s) := rfl

@[simp] theorem eval_modify (f : Session ι κ ρ → Session ι κ ρ) (s : Situation W ι κ ρ) :
    eval (modify f : Step (StateM W) ι κ ρ PUnit) s = (.ok ⟨⟩, (f s.1, s.2)) := rfl

end Step

-- ============================================================== sending

/-- The first of several chunks; only if it goes through are the others
written. -/
theorem writeChunks_cons (write : Bytes → StateM W (Outcome Unit)) (chunk : Bytes)
    (rest : List Bytes) (w : W) :
    writeChunks write (chunk :: rest) w =
      match write chunk w with
      | (.ok _, w') => writeChunks write rest w'
      | (.error e, w') => (.error e, w') := by
  simp only [writeChunks, bind, StateT.bind]
  rcases write chunk w with ⟨result, w'⟩
  cases result <;> rfl

theorem writeStream_eq (write : Bytes → StateM W (Outcome Unit)) (flush : StateM W (Outcome Unit))
    (job : Stream) (w : W) :
    writeStream write flush job w =
      match writeChunks write job.chunks w with
      | (.ok _, w') => flush w'
      | (.error e, w') => (.error e, w') := by
  simp only [writeStream, bind, StateT.bind]
  rcases writeChunks write job.chunks w with ⟨result, w'⟩
  cases result <;> rfl

namespace Printer

variable (p : Printer (StateM W) ι κ ρ)

open Step

theorem respond_eq_eval [DecidableEq ι] (operation : Operation ι) (s : Situation W ι κ ρ) :
    p.respond operation s = eval (p.perform operation) s := rfl

-- ================================================= opening and closing

/-- The world once a connection has been given up: a channel is closed, and
nothing else is noticed. -/
def hangUp : Connection ι κ ρ → W → W
  | .connected _ _ channel, w => (p.backend.close channel w).2
  | _, w => w

theorem eval_init (s : Situation W ι κ ρ) :
    eval p.init s =
      match p.backend.prepare s.2 with
      | (.ok (), w) => (.ok (), ({ s.1 with initialized := true }, w))
      | (.error e, w) => (.error e, (s.1, w)) := by
  simp only [init, eval_bind, eval_attempt, eval_modify]
  rcases p.backend.prepare s.2 with ⟨outcome, w⟩
  cases outcome <;> rfl

theorem eval_ensureInit (s : Situation W ι κ ρ) :
    eval p.ensureInit s = if s.1.initialized then (.ok (), s) else eval p.init s := by
  simp only [ensureInit, eval_bind, eval_get]
  split <;> rfl

/-- Giving up the connection never fails and always leaves a ready session. -/
theorem eval_close (s : Situation W ι κ ρ) :
    eval p.close s
      = (.ok (), ({ s.1 with connection := .ready }, p.hangUp s.1.connection s.2)) := by
  obtain ⟨⟨initialized, c⟩, w⟩ := s
  cases c <;> rfl

theorem eval_openDevice (id : ι) (s : Situation W ι κ ρ) :
    eval (p.openDevice id) s =
      match p.backend.connect id s.2 with
      | (.ok (record, link), w) =>
        (.ok (record, link), ({ s.1 with connection := .ofLink id record link }, w))
      | (.error e, w) => (.error e, (s.1, w)) := by
  simp only [openDevice, eval_bind, eval_attempt, eval_setConnection, eval_pure]
  rcases p.backend.connect id s.2 with ⟨outcome, w⟩
  cases outcome <;> rfl

theorem eval_pollRequest (id : ι) (record : DeviceRecord) (request : ρ)
    (s : Situation W ι κ ρ) :
    eval (p.pollRequest id record request) s
      = (.ok (p.backend.poll request s.2).1.1,
         ({ s.1 with connection := .awaiting id record (p.backend.poll request s.2).1.2 },
          (p.backend.poll request s.2).2)) := rfl

-- ============================================================= devices

section

variable [DecidableEq ι]

/-- Where nothing is bound, binding a device comes down to opening it. -/
theorem eval_bindDevice_of_ready (id : ι) {s : Situation W ι κ ρ}
    (hready : s.1.connection = .ready) :
    eval (p.bindDevice id) s =
      match p.backend.connect id s.2 with
      | (.ok (record, link), w) =>
        (.ok record, ({ s.1 with connection := .ofLink id record link }, w))
      | (.error e, w) => (.error e, (s.1, w)) := by
  obtain ⟨⟨initialized, c⟩, w⟩ := s
  cases hready
  have hreusable : eval (p.reusable? id) (⟨initialized, .ready⟩, w)
      = (.ok none, (⟨initialized, .ready⟩, w)) := rfl
  simp only [bindDevice, eval_bind, hreusable, eval_close, hangUp, eval_openDevice, eval_pure]
  rcases p.backend.connect id w with ⟨outcome, w⟩
  cases outcome <;> rfl

/-- So does selecting one, on a transport that is known to be usable. -/
theorem respond_select_of_ready (id : ι) {s : Situation W ι κ ρ}
    (hinit : s.1.initialized = true) (hready : s.1.connection = .ready) :
    p.respond (.select id) s =
      match p.backend.connect id s.2 with
      | (.ok (record, link), w) =>
        (.ok (.device record), ({ s.1 with connection := .ofLink id record link }, w))
      | (.error e, w) => (.error e, (s.1, w)) := by
  rw [respond_eq_eval]
  simp only [perform, select, eval_bind, eval_ensureInit, hinit, if_true,
    eval_bindDevice_of_ready p id hready]
  rcases p.backend.connect id s.2 with ⟨outcome, w⟩
  cases outcome <;> rfl

/-- A connection is given up only if it is bound to the device. -/
theorem eval_closeIf (id : ι) (s : Situation W ι κ ρ) :
    eval (p.closeIf id) s =
      if s.1.connection.bound? = some id then
        (.ok true, ({ s.1 with connection := .ready }, p.hangUp s.1.connection s.2))
      else (.ok false, s) := by
  simp only [closeIf, eval_bind, eval_connection]
  split
  · rw [eval_bind, eval_close]
    rfl
  · rfl

end

-- ============================================================ printing

/-- The error of a printing step that finds a request without an answer. -/
def stillWaiting : PrinterError := .permissionDenied "waiting for the user to grant access"

/-- The error of a printing step that finds a refused request. -/
def accessRefused : PrinterError := .permissionDenied "access to the device was refused"

/-- All that looking for the open channel can lead to. A device is opened
only after a granted request, and at most once. -/
theorem eval_channel (s : Situation W ι κ ρ) :
    eval p.channel s =
      match s.1.connection with
      | .ready => (.error .notConnected, s)
      | .connected _ _ channel => (.ok channel, s)
      | .awaiting id record request =>
        match p.backend.poll request s.2 with
        | ((.pending, request), w) =>
          (.error stillWaiting, ({ s.1 with connection := .awaiting id record request }, w))
        | ((.denied, _), w) => (.error accessRefused, ({ s.1 with connection := .ready }, w))
        | ((.granted, _), w) =>
          match p.backend.connect id w with
          | (.ok (record, .channel channel), w) =>
            (.ok channel, ({ s.1 with connection := .connected id record channel }, w))
          | (.ok (record, .request request), w) =>
            (.error stillWaiting, ({ s.1 with connection := .awaiting id record request }, w))
          | (.error e, w) => (.error e, ({ s.1 with connection := .ready }, w)) := by
  obtain ⟨⟨initialized, c⟩, w⟩ := s
  simp only [channel, eval_bind, eval_connection]
  cases c with
  | ready => rfl
  | connected id record channel => rfl
  | awaiting id record request =>
    simp only [eval_bind, eval_pollRequest]
    rcases p.backend.poll request w with ⟨⟨state, request⟩, w⟩
    cases state with
    | pending => rfl
    | denied => rfl
    | granted =>
      simp only [eval_bind, eval_setConnection, eval_openDevice]
      rcases p.backend.connect id w with ⟨outcome, w⟩
      cases outcome with
      | error e => rfl
      | ok opened =>
        obtain ⟨record, link⟩ := opened
        cases link <;> rfl

/-- A refusal leaves the session ready. -/
theorem eval_channel_of_denied {initialized : Bool} {id : ι} {record : DeviceRecord}
    {request request' : ρ} {w w' : W}
    (hpoll : p.backend.poll request w = ((.denied, request'), w')) :
    eval p.channel (⟨initialized, .awaiting id record request⟩, w)
      = (.error accessRefused, (⟨initialized, .ready⟩, w')) := by
  rw [eval_channel]
  simp only [hpoll]

/-- A grant is used to open the device. -/
theorem eval_channel_of_granted {initialized : Bool} {id : ι} {record record' : DeviceRecord}
    {request request' : ρ} {channel : κ} {w w₁ w₂ : W}
    (hpoll : p.backend.poll request w = ((.granted, request'), w₁))
    (hconnect : p.backend.connect id w₁ = (.ok (record', .channel channel), w₂)) :
    eval p.channel (⟨initialized, .awaiting id record request⟩, w)
      = (.ok channel, (⟨initialized, .connected id record' channel⟩, w₂)) := by
  rw [eval_channel]
  simp only [hpoll, hconnect]

theorem eval_preflight (s : Situation W ι κ ρ) :
    eval p.preflight s = ((eval p.channel s).1.map fun _ => (), (eval p.channel s).2) :=
  eval_discard p.channel s

/-- A job is written through the channel that is found, and costs the
connection if it fails on it. -/
theorem eval_write (job : Stream) (s : Situation W ι κ ρ) :
    eval (p.write job) s =
      match eval p.channel s with
      | (.ok channel, s') =>
        match p.backend.send channel job s'.2 with
        | (.ok _, w) => (.ok (), (s'.1, w))
        | (.error e, w) =>
          (.error e, ({ s'.1 with connection := .ready }, p.hangUp s'.1.connection w))
      | (.error e, s') => (.error e, s') := by
  simp only [write, eval_bind]
  rcases eval p.channel s with ⟨outcome, s'⟩
  cases outcome with
  | error e => rfl
  | ok channel =>
    simp only [eval_effect]
    rcases p.backend.send channel job s'.2 with ⟨result, w⟩
    cases result with
    | ok _ => rfl
    | error e => simp only [eval_bind, eval_close, eval_throw]

/-- A job is prepared, after a check if it is costly, and then written. -/
theorem eval_print (job : Job) (s : Situation W ι κ ρ) :
    eval (p.print job) s =
      match if job.isCostly then eval p.preflight s else (.ok (), s) with
      | (.ok _, s') =>
        match p.stream job s'.2 with
        | (.ok stream, w) => eval (p.write stream) (s'.1, w)
        | (.error e, w) => (.error e, (s'.1, w))
      | (.error e, s') => (.error e, s') := by
  -- what comes after the check, if there is one
  have hprepared : ∀ s' : Situation W ι κ ρ,
      eval (do p.write (← attempt (p.stream job))) s' =
        match p.stream job s'.2 with
        | (.ok stream, w) => eval (p.write stream) (s'.1, w)
        | (.error e, w) => (.error e, (s'.1, w)) := by
    intro s'
    rw [eval_bind, eval_attempt]
    rcases p.stream job s'.2 with ⟨outcome, w⟩
    cases outcome <;> rfl
  unfold print
  split
  · rw [eval_bind]
    rcases eval p.preflight s with ⟨outcome, s'⟩
    cases outcome with
    | ok _ => exact hprepared s'
    | error e => rfl
  · exact hprepared s

end Printer

end ReceiptPrinter
