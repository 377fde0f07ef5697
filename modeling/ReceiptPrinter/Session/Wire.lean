/-
What print jobs put on the wire.

A job that takes hold of the session in order to write has its turn. What
it asks of its channel is its block: the chunks that went through, in order,
and then either nothing more, or the chunk that failed, or the flush.
`Block.Fits` says which blocks a job can have, however far it has come.
-/
import ReceiptPrinter.Session.Journaled

namespace ReceiptPrinter

-- ============================================================== turns

namespace Traffic

variable {W ι κ ρ E : Type}

/-- The operation that a move starts. -/
def Move.operation? : Move ι E → Option (Operation ι)
  | start operation => some operation
  | step _ | outside _ => Option.none

/-- The operations that a schedule starts. The task of each has its place in
this list as its number. -/
def asked (moves : List (Move ι E)) : List (Operation ι) := moves.filterMap Move.operation?

/-- The turn that a move begins: the number of the task, and what it is to
write. -/
def turn? (t : Traffic W ι κ ρ) : Move ι E → Option (Nat × Stream)
  | .step index =>
    match t.tasks[index]? with
    | some (.prepared stream) => some (index, stream)
    | _ => Option.none
  | .start _ | .outside _ => Option.none

variable [DecidableEq ι]

/-- The turns that begin in a schedule, in order. -/
def turns (p : Printer (StateM W) ι κ ρ) (nature : E → W → W) (t : Traffic W ι κ ρ) :
    List (Move ι E) → List (Nat × Stream)
  | [] => []
  | move :: rest =>
    match t.move? p nature move with
    | some t' => (t.turn? move).toList ++ Traffic.turns p nature t' rest
    | Option.none => []

/-- In the course of a schedule a task prepared a job, and this is what came
of it. -/
def Prepared (p : Printer (StateM W) ι κ ρ) (nature : E → W → W) (t : Traffic W ι κ ρ)
    (moves : List (Move ι E)) (index : Nat) (job : Job) (stream : Stream) : Prop :=
  ∃ before t', before ++ [.step index] <+: moves
    ∧ t.follow? p nature before = some t'
    ∧ t'.tasks[index]?.bind Task.prepares? = some job
    ∧ (p.stream job t'.world).1 = .ok stream

end Traffic

-- ============================================================= blocks

/-- How a block ends. -/
inductive Ending where
  | nothing
  /-- A chunk failed. -/
  | broke (chunk : Bytes) (reason : PrinterError)
  | flushed (result : Outcome Unit)

/-- What a job asked of a channel in its turn. -/
structure Block where
  /-- The number of the task. -/
  task : Nat
  /-- All that the job was to write. -/
  stream : Stream
  /-- The number of the channel; any number if the job found none. -/
  channel : Nat
  /-- The chunks that went through. -/
  sent : List Bytes
  ending : Ending

namespace Block

variable {ι κ : Type}

/-- The turn that a block belongs to. -/
def turn (b : Block) : Nat × Stream := (b.task, b.stream)

/-- What the other end received. -/
def received (b : Block) : List (Nat × Bytes) := b.sent.map fun chunk => (b.channel, chunk)

/-- What is asked of a channel at the end of a block. -/
def lastDeed? (channel : Nat) : Ending → Option (Deed ι)
  | .nothing => none
  | .broke chunk reason => some (.wrote channel chunk (.error reason))
  | .flushed result => some (.flushed channel result)

def deeds (b : Block) : List (Deed ι) :=
  b.sent.map (fun chunk => .wrote b.channel chunk (.ok ()))
    ++ (lastDeed? b.channel b.ending).toList

/-- Which blocks a job can have, by what has become of its task. -/
inductive Fits : Block → Task ι (Numbered κ) → Prop where
  /-- The job found no channel. -/
  | unbound {task : Nat} {stream : Stream} {channel : Nat} {e : PrinterError} :
    Fits ⟨task, stream, channel, [], .nothing⟩ (.ended (.error e))
  | writing {task : Nat} {stream : Stream} {channel : Numbered κ} {sent rest : List Bytes}
    (h : sent ++ rest = stream.chunks) :
    Fits ⟨task, stream, channel.number, sent, .nothing⟩ (.writing channel rest)
  | sending {task : Nat} {stream : Stream} {channel : Numbered κ} {sent rest : List Bytes}
    {chunk : Bytes} (h : sent ++ chunk :: rest = stream.chunks) :
    Fits ⟨task, stream, channel.number, sent, .nothing⟩ (.sending channel chunk rest)
  /-- A chunk failed, and the job with it. -/
  | broke {task : Nat} {stream : Stream} {channel : Nat} {sent rest : List Bytes} {chunk : Bytes}
    {e : PrinterError} (h : sent ++ chunk :: rest = stream.chunks) :
    Fits ⟨task, stream, channel, sent, .broke chunk e⟩ (.ended (.error e))
  /-- Every chunk went through, but the flush failed. -/
  | unflushed {task : Nat} {stream : Stream} {channel : Nat} {e : PrinterError} :
    Fits ⟨task, stream, channel, stream.chunks, .flushed (.error e)⟩ (.ended (.error e))
  | done {task : Nat} {stream : Stream} {channel : Nat} :
    Fits ⟨task, stream, channel, stream.chunks, .flushed (.ok ())⟩ (.ended (.ok .done))

end Block

end ReceiptPrinter
