/-
Operations under way at the same time.

Any number of operations may be started before the first one has ended.
They share one session, which at most one of them holds: an operation that
needs the session waits until nobody writes, and a job keeps the session
from its first chunk until it has been flushed. Between its check and its
first chunk a costly job is prepared without the session, so that others
may close it or bind it to another device meanwhile.

A task is an operation and how far it has come; it rests before it takes
hold of the session, while its job is prepared, and while each of its
chunks is on the way. A schedule picks the task that takes the next step;
every order is possible in which no task steps that would have to wait.
Between the steps the world may change by itself.
-/
import ReceiptPrinter.Session.Operation

namespace ReceiptPrinter

/-- An operation, as far as it has come. -/
inductive Task (ι κ : Type) where
  | started (operation : Operation ι)
  /-- The transport is usable; the device is still to be bound. -/
  | selecting (id : ι)
  /-- The job could be written; what it writes is still to be prepared. -/
  | preparing (job : Job)
  /-- What is to be written is known. -/
  | prepared (stream : Stream)
  /-- The session is held and these chunks are still to be written. -/
  | writing (channel : κ) (chunks : List Bytes)
  /-- The session is held and a chunk is on the way; others come after it. -/
  | sending (channel : κ) (chunk : Bytes) (rest : List Bytes)
  | ended (outcome : Outcome Reply)

namespace Task

variable {ι κ : Type}

/-- The channel that a task writes to. -/
def channel? : Task ι κ → Option κ
  | writing channel _ | sending channel _ _ => some channel
  | _ => none

/-- Whether a task holds the session. -/
def holdsSession (task : Task ι κ) : Bool := task.channel?.isSome

/-- Whether an operation begins with the session. -/
def beginsWithSession : Operation ι → Bool
  | .init | .list | .select _ => false
  | .close | .closeIf _ | .status => true
  | .print job => job.isCostly

/-- Whether the next step of a task needs the session, which it does not
hold yet. -/
def wantsSession : Task ι κ → Bool
  | started operation => beginsWithSession operation
  | selecting _ | prepared _ => true
  | preparing _ | writing _ _ | sending _ _ _ | ended _ => false

/-- The job that the next step of a task prepares. -/
def prepares? : Task ι κ → Option Job
  | started (.print job) => if job.isCostly then none else some job
  | preparing job => some job
  | _ => none

/-- Whether a task has nothing left to do. -/
def hasEnded : Task ι κ → Bool
  | ended _ => true
  | _ => false

section

variable {m : Type → Type} [Monad m] {ρ : Type}

/-- The task that a step leads to; a step that fails ends its task. -/
def after {α : Type} (step : Step m ι κ ρ α) (next : α → Task ι κ) :
    StateT (Session ι κ ρ) m (Task ι κ) := do
  match ← step.run with
  | .ok a => return next a
  | .error e => return ended (.error e)

/-- The task that a write or flush leads to; one that fails costs the
connection. -/
def afterWrite (p : Printer m ι κ ρ) (effect : m (Outcome Unit)) (next : Task ι κ) :
    StateT (Session ι κ ρ) m (Task ι κ) := do
  match ← StateT.lift effect with
  | .ok () => return next
  | .error e =>
    discard p.close.run
    return ended (.error e)

/-- The next step of a task. -/
def step [DecidableEq ι] (p : Printer m ι κ ρ) :
    Task ι κ → StateT (Session ι κ ρ) m (Task ι κ)
  | started (.select id) => after p.ensureInit fun _ => selecting id
  | started (.print job) =>
    if job.isCostly then after p.preflight fun _ => preparing job
    else after (Printer.attempt (p.stream job)) prepared
  | started operation => return ended (← p.run operation)
  | selecting id => after (p.bindDevice id) fun record => ended (.ok (.device record))
  | preparing job => after (Printer.attempt (p.stream job)) prepared
  | prepared stream => after p.channel fun channel => writing channel stream.chunks
  | writing channel (chunk :: rest) => return sending channel chunk rest
  | sending channel chunk rest =>
    afterWrite p (p.backend.write channel chunk) (writing channel rest)
  | writing channel [] => afterWrite p (p.backend.flush channel) (ended (.ok .done))
  | ended outcome => return ended outcome

end

end Task

/-- All that goes on at a printer: its world, its session, and the tasks. -/
structure Traffic (W ι κ ρ : Type) where
  world : W
  session : Session ι κ ρ
  tasks : List (Task ι κ)

namespace Traffic

variable {W ι κ ρ E : Type}

/-- A printer that nobody has asked for anything. -/
def none (world : W) : Traffic W ι κ ρ := ⟨world, .fresh, []⟩

/-- Whether nobody holds the session. -/
def isFree (t : Traffic W ι κ ρ) : Bool := t.tasks.all fun task => !task.holdsSession

/-- Whether a task could take a step now. -/
def mayStep (t : Traffic W ι κ ρ) (task : Task ι κ) : Bool :=
  !task.hasEnded && (t.isFree || !task.wantsSession)

/-- What goes on once another operation has been started. -/
def start (t : Traffic W ι κ ρ) (operation : Operation ι) : Traffic W ι κ ρ :=
  { t with tasks := t.tasks ++ [.started operation] }

/-- What goes on after the task with the given number has taken a step, if
it may take one. -/
def step? [DecidableEq ι] (p : Printer (StateM W) ι κ ρ) (t : Traffic W ι κ ρ) (index : Nat) :
    Option (Traffic W ι κ ρ) := do
  let task ← t.tasks[index]?
  guard (t.mayStep task)
  let ((task, session), world) := (task.step p).run t.session t.world
  return ⟨world, session, t.tasks.set index task⟩

/-- What can happen next. -/
inductive Move (ι E : Type) where
  | start (operation : Operation ι)
  | step (index : Nat)
  /-- A change of the world that no task has part in. -/
  | outside (change : E)

/-- What goes on after a move, if it is possible. -/
def move? [DecidableEq ι] (p : Printer (StateM W) ι κ ρ) (nature : E → W → W)
    (t : Traffic W ι κ ρ) : Move ι E → Option (Traffic W ι κ ρ)
  | .start operation => some (t.start operation)
  | .step index => t.step? p index
  | .outside change => some { t with world := nature change t.world }

/-- What goes on after a whole schedule, if every move of it is possible. -/
def follow? [DecidableEq ι] (p : Printer (StateM W) ι κ ρ) (nature : E → W → W)
    (t : Traffic W ι κ ρ) : List (Move ι E) → Option (Traffic W ι κ ρ)
  | [] => some t
  | move :: rest => (t.move? p nature move).bind (Traffic.follow? p nature · rest)

end Traffic

end ReceiptPrinter
