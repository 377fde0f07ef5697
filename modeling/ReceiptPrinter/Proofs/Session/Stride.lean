/-
What one step of a task can do.

`Stride` lists every way in which a task can come a step further, with what
the step does to the session and to the world. A task is quiet until it has
its turn to write: it does a row of acts, and as long as it does not need
the session it leaves the connection alone. In its turn it writes chunk by
chunk, and a failure costs the connection.
-/
import ReceiptPrinter.Proofs.Session.Act
import ReceiptPrinter.Session.Wire

namespace ReceiptPrinter

open Step

variable {W ι κ ρ α : Type}

namespace Task

/-- The task that a step leads to, and the situation it leaves. -/
def eval (x : StateT (Session ι κ ρ) (StateM W) (Task ι κ)) (s : Situation W ι κ ρ) :
    Task ι κ × Situation W ι κ ρ :=
  let ((task, session), world) := (x.run s.1).run s.2
  (task, (session, world))

theorem eval_after (x : Step (StateM W) ι κ ρ α) (next : α → Task ι κ)
    (s : Situation W ι κ ρ) :
    eval (after x next) s =
      match Step.eval x s with
      | (.ok a, s') => (next a, s')
      | (.error e, s') => (ended (.error e), s') := by
  unfold eval after Step.eval
  simp only [bind, StateT.bind, StateT.run]
  rcases x.run s.1 s.2 with ⟨⟨outcome, session⟩, world⟩
  cases outcome <;> rfl

theorem eval_afterWrite (p : Printer (StateM W) ι κ ρ) (effect : StateM W (Outcome Unit))
    (next : Task ι κ) (s : Situation W ι κ ρ) :
    eval (afterWrite p effect next) s =
      match effect s.2 with
      | (.ok _, w) => (next, (s.1, w))
      | (.error e, w) =>
        (ended (.error e), ({ s.1 with connection := .ready }, p.hangUp s.1.connection w)) := by
  obtain ⟨⟨initialized, c⟩, w⟩ := s
  unfold eval afterWrite
  simp only [bind, StateT.bind, StateT.run, StateT.lift]
  rcases effect w with ⟨result, w'⟩
  cases result with
  | ok _ => rfl
  | error e => cases c <;> rfl

theorem eval_run [DecidableEq ι] (p : Printer (StateM W) ι κ ρ) (operation : Operation ι)
    (s : Situation W ι κ ρ) :
    eval (do return ended (← p.run operation)) s
      = (ended (Step.eval (p.perform operation) s).1, (Step.eval (p.perform operation) s).2) :=
  rfl

-- ============================================================== strides

/-- Whether a task has not had its turn to write yet. -/
def awaitsTurn : Task ι κ → Bool
  | started _ | selecting _ | preparing _ | prepared _ => true
  | writing _ _ | sending _ _ _ | ended _ => false

/-- How a task comes further without writing. -/
inductive Quiet : Task ι κ → Task ι κ → Prop where
  | usable {id : ι} : Quiet (started (.select id)) (selecting id)
  | checked {job : Job} : Quiet (started (.print job)) (preparing job)
  | answered {operation : Operation ι} {reply : Reply}
    (hprint : ∀ job, operation ≠ .print job) :
    Quiet (started operation) (ended (.ok reply))
  | selected {id : ι} {record : DeviceRecord} :
    Quiet (selecting id) (ended (.ok (.device record)))
  | failed {operation : Operation ι} {e : PrinterError} :
    Quiet (started operation) (ended (.error e))
  | unselected {id : ι} {e : PrinterError} : Quiet (selecting id) (ended (.error e))
  | unprepared {job : Job} {e : PrinterError} : Quiet (preparing job) (ended (.error e))

theorem Quiet.awaitsTurn {task task' : Task ι κ} (h : Quiet task task') : task.awaitsTurn = true := by
  cases h <;> rfl

theorem Quiet.channel? {task task' : Task ι κ} (h : Quiet task task') : task'.channel? = none := by
  cases h <;> rfl

theorem awaitsTurn_of_prepares? {task : Task ι κ} {job : Job} (h : task.prepares? = some job) :
    task.awaitsTurn = true := by
  cases task with
  | writing channel chunks => cases h
  | sending channel chunk rest => cases h
  | ended outcome => cases h
  | _ => rfl

/-- How a task comes a step further. -/
inductive Stride (p : Printer (StateM W) ι κ ρ) :
    Task ι κ → Situation W ι κ ρ → Task ι κ → Situation W ι κ ρ → Prop where
  | quiet {task task' : Task ι κ} {s s' : Situation W ι κ ρ} (h : Quiet task task')
    (hacts : Acts p s s')
    (hconnection : task.wantsSession = false → s'.1.connection = s.1.connection)
    (husable : ∀ id, task' = selecting id → s'.1.initialized = true) :
    Stride p task s task' s'
  | prepared {task : Task ι κ} {job : Job} {stream : Stream} {session : Session ι κ ρ} {w w' : W}
    (hjob : task.prepares? = some job) (h : p.stream job w = (.ok stream, w')) :
    Stride p task (session, w) (.prepared stream) (session, w')
  /-- The job has its turn but finds no channel. -/
  | unbound {stream : Stream} {e : PrinterError} {s s' : Situation W ι κ ρ}
    (hacts : Acts p s s') : Stride p (.prepared stream) s (ended (.error e)) s'
  | began {stream : Stream} {channel : κ} {s s' : Situation W ι κ ρ} (hacts : Acts p s s')
    (hchannel : s'.1.connection.channel? = some channel) :
    Stride p (.prepared stream) s (writing channel stream.chunks) s'
  | sending {channel : κ} {chunk : Bytes} {rest : List Bytes} {s : Situation W ι κ ρ} :
    Stride p (writing channel (chunk :: rest)) s (sending channel chunk rest) s
  | sent {channel : κ} {chunk : Bytes} {rest : List Bytes} {session : Session ι κ ρ} {w w' : W}
    (h : p.backend.write channel chunk w = (.ok (), w')) :
    Stride p (sending channel chunk rest) (session, w) (writing channel rest) (session, w')
  | broke {channel : κ} {chunk : Bytes} {rest : List Bytes} {e : PrinterError}
    {session : Session ι κ ρ} {w w' : W}
    (h : p.backend.write channel chunk w = (.error e, w')) :
    Stride p (sending channel chunk rest) (session, w) (ended (.error e))
      ({ session with connection := .ready }, p.hangUp session.connection w')
  | flushed {channel : κ} {session : Session ι κ ρ} {w w' : W}
    (h : p.backend.flush channel w = (.ok (), w')) :
    Stride p (writing channel []) (session, w) (ended (.ok .done)) (session, w')
  | unflushed {channel : κ} {e : PrinterError} {session : Session ι κ ρ} {w w' : W}
    (h : p.backend.flush channel w = (.error e, w')) :
    Stride p (writing channel []) (session, w) (ended (.error e))
      ({ session with connection := .ready }, p.hangUp session.connection w')

theorem Stride.initialized {p : Printer (StateM W) ι κ ρ} {task task' : Task ι κ}
    {s s' : Situation W ι κ ρ} (h : Stride p task s task' s') (hs : s.1.initialized = true) :
    s'.1.initialized = true := by
  cases h with
  | quiet h hacts hconnection husable => exact Acts.initialized hacts hs
  | prepared hjob h => exact hs
  | unbound hacts => exact Acts.initialized hacts hs
  | began hacts hchannel => exact Acts.initialized hacts hs
  | sending => exact hs
  | sent h => exact hs
  | broke h => exact hs
  | flushed h => exact hs
  | unflushed h => exact hs

/-- A task that is about to bind a device has found the transport usable. -/
theorem Stride.usable {p : Printer (StateM W) ι κ ρ} {task : Task ι κ} {id : ι}
    {s s' : Situation W ι κ ρ} (h : Stride p task s (selecting id) s') :
    s'.1.initialized = true := by
  cases h with
  | quiet h hacts hconnection husable => exact husable id rfl

-- ===================================================== the session apart

section

variable {p : Printer (StateM W) ι κ ρ}

/-- Steps that leave the connection alone do so one after another. -/
theorem connection_bind {β : Type} {x : Step (StateM W) ι κ ρ α}
    {f : α → Step (StateM W) ι κ ρ β} {s : Situation W ι κ ρ}
    (hx : (Step.eval x s).2.1.connection = s.1.connection)
    (hf : ∀ a s', (Step.eval (f a) s').2.1.connection = s'.1.connection) :
    (Step.eval (x >>= f) s).2.1.connection = s.1.connection := by
  rw [eval_bind]
  rcases h : Step.eval x s with ⟨outcome, s'⟩
  rw [h] at hx
  cases outcome with
  | ok a => exact (hf a s').trans hx
  | error e => exact hx

theorem connection_init (s : Situation W ι κ ρ) :
    (Step.eval p.init s).2.1.connection = s.1.connection := by
  rw [Printer.eval_init]
  rcases p.backend.prepare s.2 with ⟨outcome, w⟩
  cases outcome <;> rfl

theorem connection_ensureInit (s : Situation W ι κ ρ) :
    (Step.eval p.ensureInit s).2.1.connection = s.1.connection := by
  rw [Printer.eval_ensureInit]
  split
  · rfl
  · exact connection_init s

/-- Operations that begin without the session and end in one step have no
part in the connection. -/
theorem connection_perform [DecidableEq ι] {operation : Operation ι}
    (hprint : ∀ job, operation ≠ .print job) (hselect : ∀ id, operation ≠ .select id)
    (h : beginsWithSession operation = false) (s : Situation W ι κ ρ) :
    (Step.eval (p.perform operation) s).2.1.connection = s.1.connection := by
  cases operation with
  | init => exact connection_bind (connection_init s) fun _ _ => rfl
  | list =>
    have hlist : (Step.eval p.list s).2.1.connection = s.1.connection :=
      connection_bind (connection_ensureInit s) fun _ _ => rfl
    exact connection_bind hlist fun _ _ => rfl
  | select id => exact absurd rfl (hselect id)
  | print job => exact absurd rfl (hprint job)
  | close => cases h
  | closeIf id => cases h
  | status => cases h

-- ============================================================ each step

/-- Preparing a job, whatever comes of it. -/
theorem stride_stream {task : Task ι κ} {job : Job} (hjob : task.prepares? = some job)
    (hquiet : ∀ e, Quiet task (ended (.error e))) (s : Situation W ι κ ρ) :
    Stride p task s (eval (after (Printer.attempt (p.stream job)) .prepared) s).1
      (eval (after (Printer.attempt (p.stream job)) .prepared) s).2 := by
  obtain ⟨session, w⟩ := s
  have hacts := Printer.acts_stream (p := p) job session w
  rw [eval_after, eval_attempt]
  rcases h : p.stream job w with ⟨outcome, w'⟩
  rw [h] at hacts
  cases outcome with
  | ok stream => exact .prepared hjob h
  | error e => exact .quiet (hquiet e) hacts (fun _ => rfl) nofun

variable [DecidableEq ι]

theorem stride_run {operation : Operation ι} (hprint : ∀ job, operation ≠ .print job)
    (hselect : ∀ id, operation ≠ .select id) (s : Situation W ι κ ρ) :
    Stride p (started operation) s (ended (Step.eval (p.perform operation) s).1)
      (Step.eval (p.perform operation) s).2 := by
  have hacts := Printer.acts_perform (p := p) hprint s
  refine .quiet ?_ hacts (fun h => connection_perform hprint hselect h s) nofun
  cases (Step.eval (p.perform operation) s).1 with
  | ok reply => exact .answered hprint
  | error e => exact .failed

theorem stride_select (id : ι) (s : Situation W ι κ ρ) :
    Stride p (started (.select id)) s (eval (step p (started (.select id))) s).1
      (eval (step p (started (.select id))) s).2 := by
  have hacts := Printer.acts_ensureInit (p := p) s
  have hconnection := connection_ensureInit (p := p) s
  rw [step, eval_after]
  rcases h : Step.eval p.ensureInit s with ⟨outcome, s'⟩
  rw [h] at hacts hconnection
  cases outcome with
  | ok _ =>
    have hinit := Printer.initialized_of_ensureInit h
    exact .quiet .usable hacts (fun _ => hconnection) fun _ _ => hinit
  | error e => exact .quiet .failed hacts (fun _ => hconnection) nofun

theorem stride_print (job : Job) (s : Situation W ι κ ρ) :
    Stride p (started (.print job)) s (eval (step p (started (.print job))) s).1
      (eval (step p (started (.print job))) s).2 := by
  rw [step]
  by_cases hcostly : job.isCostly = true
  · rw [if_pos hcostly, eval_after]
    have hacts := Printer.acts_preflight (p := p) s
    -- the check needs the session, so the connection may change
    have hwants : (started (.print job) : Task ι κ).wantsSession ≠ false := by
      rw [Bool.ne_false_iff]
      exact hcostly
    rcases h : Step.eval p.preflight s with ⟨outcome, s'⟩
    rw [h] at hacts
    cases outcome with
    | ok _ => exact .quiet .checked hacts (fun h => absurd h hwants) nofun
    | error e => exact .quiet .failed hacts (fun h => absurd h hwants) nofun
  · rw [if_neg hcostly]
    have hjob : (started (.print job) : Task ι κ).prepares? = some job := if_neg hcostly
    exact stride_stream hjob (fun _ => .failed) s

theorem stride_bindDevice (id : ι) {s : Situation W ι κ ρ} (hinit : s.1.initialized = true) :
    Stride p (selecting id) s (eval (step p (selecting id)) s).1
      (eval (step p (selecting id)) s).2 := by
  have hacts := Printer.acts_bindDevice (p := p) id hinit
  rw [step, eval_after]
  rcases h : Step.eval (p.bindDevice id) s with ⟨outcome, s'⟩
  rw [h] at hacts
  cases outcome with
  | ok record => exact .quiet .selected hacts nofun nofun
  | error e => exact .quiet .unselected hacts nofun nofun

/-- Every step of a task that has not ended is a stride. -/
theorem stride_step {task : Task ι κ} {s : Situation W ι κ ρ} (hend : task.hasEnded = false)
    (hinit : ∀ id, task = selecting id → s.1.initialized = true) :
    Stride p task s (eval (task.step p) s).1 (eval (task.step p) s).2 := by
  cases task with
  | started operation =>
    cases operation with
    | init => exact stride_run (by nofun) (by nofun) s
    | list => exact stride_run (by nofun) (by nofun) s
    | close => exact stride_run (by nofun) (by nofun) s
    | closeIf id => exact stride_run (by nofun) (by nofun) s
    | status => exact stride_run (by nofun) (by nofun) s
    | select id => exact stride_select id s
    | print job => exact stride_print job s
  | selecting id => exact stride_bindDevice id (hinit id rfl)
  | preparing job => exact stride_stream rfl (fun _ => .unprepared) s
  | prepared stream =>
    have hacts := Printer.acts_channel (p := p) s
    rw [step, eval_after]
    rcases h : Step.eval p.channel s with ⟨outcome, s'⟩
    rw [h] at hacts
    cases outcome with
    | error e => exact .unbound hacts
    | ok channel =>
      obtain ⟨id, record, hc⟩ := Printer.connected_of_channel h
      refine .began hacts ?_
      rw [hc]
      rfl
  | writing channel chunks =>
    cases chunks with
    | cons chunk rest => exact .sending
    | nil =>
      obtain ⟨session, w⟩ := s
      rw [step, eval_afterWrite]
      rcases h : p.backend.flush channel w with ⟨result, w'⟩
      cases result with
      | ok _ => exact .flushed h
      | error e => exact .unflushed h
  | sending channel chunk rest =>
    obtain ⟨session, w⟩ := s
    rw [step, eval_afterWrite]
    rcases h : p.backend.write channel chunk w with ⟨result, w'⟩
    cases result with
    | ok _ => exact .sent h
    | error e => exact .broke h
  | ended outcome => cases hend

end

end Task

/-- A task steps if it may, and the others do not notice. -/
theorem Traffic.step?_eq [DecidableEq ι] (p : Printer (StateM W) ι κ ρ) (t : Traffic W ι κ ρ)
    (index : Nat) :
    t.step? p index =
      t.tasks[index]?.bind fun task =>
        if t.mayStep task then
          some ⟨(Task.eval (task.step p) (t.session, t.world)).2.2,
            (Task.eval (task.step p) (t.session, t.world)).2.1,
            t.tasks.set index (Task.eval (task.step p) (t.session, t.world)).1⟩
        else Option.none := by
  unfold step?
  cases htask : t.tasks[index]? with
  | none => rfl
  | some task =>
    show (guard (t.mayStep task = true) : Option Unit).bind _ = ite _ _ _
    unfold guard
    by_cases hmay : t.mayStep task = true
    · rw [if_pos hmay, if_pos hmay]
      rfl
    · rw [if_neg hmay, if_neg hmay]
      rfl

end ReceiptPrinter
