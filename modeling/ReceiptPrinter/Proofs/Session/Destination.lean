/-
Where the chunks of a job go.

A job goes to the device that the session is bound to when the job has its
turn to write, whoever has bound it. That a costly job was checked before it
was prepared does not hold the session for it: if another device is selected
in between, the job comes out there. The fate of a task is followed step by
step: until its turn it writes nothing, in its turn it looks for the channel
once, and from then on that channel is the only one it writes to.
-/
import ReceiptPrinter.Proofs.Session.Outcome
import ReceiptPrinter.Proofs.Session.Wire

namespace ReceiptPrinter

variable {W ι κ ρ E : Type}

-- ==================================================== steps of a schedule

/-- The deeds in a journal that were not there at an earlier time. -/
def Journal.since (later earlier : Journal ι) : List (Deed ι) :=
  later.deeds.drop earlier.deeds.length

namespace Traffic

variable [DecidableEq ι]

section

variable (p : Printer (StateM W) ι κ ρ) (nature : E → W → W) (w : W) (moves : List (Move ι E))
  (index : Nat)

/-- In the course of a schedule the task took a step, from `t₁` to `t₂`. A
journal is kept. -/
def Took (t₁ t₂ : Traffic (W × Journal ι) ι (Numbered κ) ρ) : Prop :=
  ∃ before, before ++ [.step index] <+: moves
    ∧ (none (w, .blank)).follow? p.journaled (Journal.beside nature) before = some t₁
    ∧ t₁.move? p.journaled (Journal.beside nature) (.step index) = some t₂

/-- In the course of a schedule the task had its turn to write, in the
situation `s`. -/
def HadTurn (s : Situation (W × Journal ι) ι (Numbered κ) ρ) : Prop :=
  ∃ t₁ t₂ stream, Took p nature w moves index t₁ t₂
    ∧ t₁.tasks[index]? = some (.prepared stream) ∧ s = (t₁.session, t₁.world)

/-- In the course of a schedule the task wrote a chunk to a channel, or tried
to. -/
def WroteTo (number : Nat) : Prop :=
  ∃ t₁ t₂ chunk result, Took p nature w moves index t₁ t₂
    ∧ .wrote number chunk result ∈ t₂.world.2.since t₁.world.2

end

variable {p : Printer (StateM W) ι κ ρ} {nature : E → W → W} {w : W} {moves : List (Move ι E)}
  {move : Move ι E} {index : Nat}

/-- With one move more, the steps taken are those from before and the move
itself, if it is one. -/
theorem took_snoc {t t' t₁ t₂ : Traffic (W × Journal ι) ι (Numbered κ) ρ}
    (h : (none (w, .blank)).follow? p.journaled (Journal.beside nature) moves = some t)
    (hmove : t.move? p.journaled (Journal.beside nature) move = some t') :
    Took p nature w (moves ++ [move]) index t₁ t₂
      ↔ Took p nature w moves index t₁ t₂ ∨ move = .step index ∧ t₁ = t ∧ t₂ = t' := by
  constructor
  · rintro ⟨before, hprefix, hfollow, hstep⟩
    rcases List.prefix_concat_iff.mp hprefix with heq | hprefix
    · obtain ⟨rfl, hlast⟩ := List.append_inj' heq rfl
      cases hlast
      cases h.symm.trans hfollow
      cases hmove.symm.trans hstep
      exact .inr ⟨rfl, rfl, rfl⟩
    · exact .inl ⟨before, hprefix, hfollow, hstep⟩
  · rintro (⟨before, hprefix, hfollow, hstep⟩ | ⟨rfl, rfl, rfl⟩)
    · exact ⟨before, hprefix.trans (List.prefix_append moves [move]), hfollow, hstep⟩
    · exact ⟨moves, List.prefix_rfl, h, hmove⟩

end Traffic

-- ============================================================ the journal

theorem Journal.deeds_noteOpen (j : Journal ι) (id : ι)
    (outcome : Outcome (DeviceRecord × Link κ ρ)) :
    j.deeds <+: (j.noteOpen id outcome).2.deeds := by
  cases outcome with
  | error reason => exact List.prefix_append _ _
  | ok opened =>
    obtain ⟨record, link⟩ := opened
    cases link with
    | channel channel => exact List.prefix_append _ _
    | request request => exact List.prefix_append _ _

/-- A transfer noted since then is one of those that were added. -/
theorem Journal.mem_of_mem_since {j j' : Journal ι} {deed : Deed ι} {more : List (Deed ι)}
    (h : j.deeds <+: j'.deeds) (htransfers : j'.transfers = j.transfers ++ more)
    (htransfer : deed.isTransfer = true) (hmem : deed ∈ j'.since j) : deed ∈ more := by
  obtain ⟨added, hadded⟩ := h
  unfold since at hmem
  rw [← hadded, List.drop_left] at hmem
  have hmore : j.transfers ++ added.filter Deed.isTransfer = j.transfers ++ more := by
    rw [← htransfers]
    unfold transfers
    rw [← hadded, List.filter_append]
  rw [← List.append_cancel_left hmore]
  exact List.mem_filter.mpr ⟨hmem, htransfer⟩

/-- The channel that a session holds is noted as one to its device. -/
def Situation.Noted (s : Situation (W × Journal ι) ι (Numbered κ) ρ) : Prop :=
  ∀ id record channel, s.1.connection = .connected id record channel →
    .opened id channel.number ∈ s.2.2.deeds

namespace Printer

variable {p : Printer (StateM W) ι κ ρ} {s s' : Situation (W × Journal ι) ι (Numbered κ) ρ}

theorem deeds_aside {α : Type} {x : StateM W α} {w w' : W × Journal ι} {a : α}
    (h : Journal.aside x w = (a, w')) : w.2.deeds <+: w'.2.deeds := by
  simp only [journal_aside h, List.prefix_rfl]

/-- Whatever is done, what was noted stays. -/
theorem deeds_act (h : Act p.journaled s s') : s.2.2.deeds <+: s'.2.2.deeds := by
  cases h with
  | prepared h => exact deeds_aside h
  | unprepared h => exact deeds_aside h
  | listed h => exact deeds_aside h
  | fetched h => exact deeds_aside h
  | polled h => exact deeds_aside h
  | dropped => exact List.prefix_rfl
  | opened h =>
    cases h
    exact Journal.deeds_noteOpen _ _ _
  | reopened hpoll h =>
    refine (deeds_aside hpoll).trans ?_
    cases h
    exact Journal.deeds_noteOpen _ _ _
  | closed h =>
    cases h
    exact List.prefix_append _ _

theorem deeds_acts (h : Acts p.journaled s s') : s.2.2.deeds <+: s'.2.2.deeds := by
  induction h with
  | refl => exact List.prefix_rfl
  | tail _ hlast ih => exact ih.trans (deeds_act hlast)

theorem deeds_write {channel : Numbered κ} {chunk : Bytes} {result : Outcome Unit}
    {w w' : W × Journal ι} (h : p.journaled.backend.write channel chunk w = (result, w')) :
    w.2.deeds <+: w'.2.deeds := by
  cases h
  exact List.prefix_append _ _

theorem deeds_flush {channel : Numbered κ} {result : Outcome Unit} {w w' : W × Journal ι}
    (h : p.journaled.backend.flush channel w = (result, w')) : w.2.deeds <+: w'.2.deeds := by
  cases h
  exact List.prefix_append _ _

theorem deeds_hangUp (c : Connection ι (Numbered κ) ρ) (w : W × Journal ι) :
    w.2.deeds <+: (p.journaled.hangUp c w).2.deeds := by
  cases c with
  | connected id record channel => exact List.prefix_append _ _
  | _ => exact List.prefix_rfl

/-- To give up a connection writes nothing. -/
theorem transfers_hangUp (c : Connection ι (Numbered κ) ρ) (w : W × Journal ι) :
    (p.journaled.hangUp c w).2.transfers = w.2.transfers := by
  cases c with
  | connected id record channel => exact (Journal.transfers_note _ _).trans (List.append_nil _)
  | _ => rfl

theorem noted_attempt (id : ι) (j : Journal ι) (initialized : Bool) (w : W)
    (outcome : Outcome (DeviceRecord × Link κ ρ)) :
    Situation.Noted ((⟨initialized, .ofAttempt id (j.noteOpen id outcome).1⟩,
      (w, (j.noteOpen id outcome).2)) : Situation (W × Journal ι) ι (Numbered κ) ρ) := by
  intro id' record channel hc
  cases outcome with
  | error reason => cases hc
  | ok opened =>
    obtain ⟨record', link⟩ := opened
    cases link with
    | request request => cases hc
    | channel channel' =>
      cases hc
      exact List.mem_append_right _ (List.mem_singleton_self _)

theorem noted_act (h : Act p.journaled s s') (hs : s.Noted) : s'.Noted := by
  have hsame : s'.1.connection = s.1.connection → s'.Noted := fun heq id record channel hc =>
    (deeds_act h).subset (hs id record channel (heq ▸ hc))
  cases h with
  | prepared h => exact hsame rfl
  | unprepared h => exact hsame rfl
  | listed h => exact hsame rfl
  | fetched h => exact hsame rfl
  | polled h => exact nofun
  | dropped => exact nofun
  | opened h =>
    cases h
    exact noted_attempt _ _ _ _ _
  | reopened hpoll h =>
    cases h
    exact noted_attempt _ _ _ _ _
  | closed h => exact nofun

theorem noted_acts (h : Acts p.journaled s s') (hs : s.Noted) : s'.Noted := by
  induction h with
  | refl => exact hs
  | tail _ hlast ih => exact noted_act hlast ih

end Printer

-- ========================================================== every stride

section

variable {p : Printer (StateM W) ι κ ρ} {task task' : Task ι (Numbered κ)}
  {s s' : Situation (W × Journal ι) ι (Numbered κ) ρ}

theorem Task.Stride.deeds (h : Task.Stride p.journaled task s task' s') :
    s.2.2.deeds <+: s'.2.2.deeds := by
  cases h with
  | quiet h hacts hconnection husable => exact Printer.deeds_acts hacts
  | @prepared _ job stream session w w' hjob h =>
    have hacts := Printer.acts_stream (p := p.journaled) job session w
    rw [h] at hacts
    exact Printer.deeds_acts hacts
  | unbound hacts => exact Printer.deeds_acts hacts
  | began hacts hchannel => exact Printer.deeds_acts hacts
  | sending => exact List.prefix_rfl
  | sent h => exact Printer.deeds_write h
  | broke h => exact (Printer.deeds_write h).trans (Printer.deeds_hangUp _ _)
  | flushed h => exact Printer.deeds_flush h
  | unflushed h => exact (Printer.deeds_flush h).trans (Printer.deeds_hangUp _ _)

theorem Task.Stride.noted (h : Task.Stride p.journaled task s task' s') (hs : s.Noted) :
    s'.Noted := by
  have hsame : s'.1.connection = s.1.connection → s'.Noted := fun heq id record channel hc =>
    h.deeds.subset (hs id record channel (heq ▸ hc))
  cases h with
  | quiet h hacts hconnection husable => exact Printer.noted_acts hacts hs
  | prepared hjob h => exact hsame rfl
  | unbound hacts => exact Printer.noted_acts hacts hs
  | began hacts hchannel => exact Printer.noted_acts hacts hs
  | sending => exact hs
  | sent h => exact hsame rfl
  | broke h => exact nofun
  | flushed h => exact hsame rfl
  | unflushed h => exact nofun

/-- Only the task that holds the session writes, and only to its channel. -/
theorem Task.Stride.wrote (h : Task.Stride p.journaled task s task' s') {number : Nat}
    {chunk : Bytes} {result : Outcome Unit}
    (hmem : .wrote number chunk result ∈ s'.2.2.since s.2.2) :
    ∃ channel, task.channel? = some channel ∧ number = channel.number := by
  have hdeeds := h.deeds
  -- what a stride adds to the transfers tells whether it wrote
  have hadded : ∀ {more : List (Deed ι)}, s'.2.2.transfers = s.2.2.transfers ++ more →
      .wrote number chunk result ∈ more := fun htransfers =>
    Journal.mem_of_mem_since hdeeds htransfers rfl hmem
  have hnothing : s'.2.2.transfers = s.2.2.transfers → False := fun htransfers =>
    nomatch hadded (htransfers.trans (List.append_nil _).symm)
  cases h with
  | quiet h hacts hconnection husable => exact (hnothing (Printer.transfers_acts hacts)).elim
  | @prepared _ job stream session w w' hjob h =>
    have hacts := Printer.acts_stream (p := p.journaled) job session w
    rw [h] at hacts
    exact (hnothing (Printer.transfers_acts hacts)).elim
  | unbound hacts => exact (hnothing (Printer.transfers_acts hacts)).elim
  | began hacts hchannel => exact (hnothing (Printer.transfers_acts hacts)).elim
  | sending => exact (hnothing rfl).elim
  | @sent channel _ _ _ _ _ h =>
    have hwrote := hadded (Printer.transfers_write h)
    cases List.mem_singleton.mp hwrote
    exact ⟨channel, rfl, rfl⟩
  | @broke channel _ _ _ _ _ _ h =>
    have hwrote := hadded ((Printer.transfers_hangUp _ _).trans (Printer.transfers_write h))
    cases List.mem_singleton.mp hwrote
    exact ⟨channel, rfl, rfl⟩
  | flushed h =>
    have hwrote := hadded (Printer.transfers_flush h)
    cases List.mem_singleton.mp hwrote
  | unflushed h =>
    have hwrote := hadded ((Printer.transfers_hangUp _ _).trans (Printer.transfers_flush h))
    cases List.mem_singleton.mp hwrote

/-- Only a task that has not ended takes a step. -/
theorem Task.Stride.hasEnded (h : Task.Stride p.journaled task s task' s') :
    task.hasEnded = false := by
  cases task with
  | ended outcome =>
    cases h with
    | quiet h hacts hconnection husable => cases h
    | prepared hjob h => cases hjob
  | _ => rfl

/-- A task that has had its turn never has another one. -/
theorem Task.Stride.awaitsTurn (h : Task.Stride p.journaled task s task' s')
    (hturn : ∀ stream, task ≠ .prepared stream) (hawaits : task.awaitsTurn = false) :
    task'.awaitsTurn = false := by
  cases h with
  | quiet h hacts hconnection husable => cases h.awaitsTurn.symm.trans hawaits
  | prepared hjob h => cases (Task.awaitsTurn_of_prepares? hjob).symm.trans hawaits
  | _ => rfl

/-- A task holds on to its channel. -/
theorem Task.Stride.channel? (h : Task.Stride p.journaled task s task' s')
    (hturn : ∀ stream, task ≠ .prepared stream) :
    task'.channel? = none ∨ task'.channel? = task.channel? := by
  cases h with
  | quiet h hacts hconnection husable => exact .inl h.channel?
  | prepared hjob h => exact .inl rfl
  | unbound hacts => exact .inl rfl
  | began hacts hchannel => exact absurd rfl (hturn _)
  | sending => exact .inr rfl
  | sent h => exact .inr rfl
  | broke h => exact .inl rfl
  | flushed h => exact .inl rfl
  | unflushed h => exact .inl rfl

/-- The channel found by looking for it is one to the device that was bound
before. -/
theorem Backend.Seeks.noted {channel : Numbered κ} (h : p.backend.Seeks s (.ok channel) s')
    (hs : s.Noted) :
    ∃ id, s.1.connection.bound? = some id ∧ .opened id channel.number ∈ s'.2.2.deeds := by
  cases h with
  | connected => exact ⟨_, rfl, hs _ _ _ rfl⟩
  | reopened hpoll hconnect =>
    exact ⟨_, rfl, List.mem_append_right _ (List.mem_singleton_self _)⟩

end

-- ================================================================ fates

namespace Traffic

variable [DecidableEq ι]

section

variable (p : Printer (StateM W) ι κ ρ) (nature : E → W → W) (w : W) (moves : List (Move ι E))
  (index : Nat)

/-- The task has had its turn, and only the one in the situation `s`. -/
def OneTurn (s : Situation (W × Journal ι) ι (Numbered κ) ρ) : Prop :=
  HadTurn p nature w moves index s
    ∧ ∀ s', HadTurn p nature w moves index s' → s' = s

/-- The task has not had its turn, and has written nothing. -/
def Waits : Prop :=
  (∀ s, ¬ HadTurn p nature w moves index s)
    ∧ ∀ number, ¬ WroteTo p nature w moves index number

/-- In its turn the task has found a channel, one to the device that was
bound then; it has written to no other. -/
def Lands (j : Journal ι) (channel : Numbered κ) : Prop :=
  ∃ s s' id, OneTurn p nature w moves index s ∧ p.backend.Seeks s (.ok channel) s'
    ∧ s.1.connection.bound? = some id ∧ .opened id channel.number ∈ j.deeds
    ∧ ∀ number, WroteTo p nature w moves index number → number = channel.number

/-- In its turn the task has found no channel, and it has written nothing. -/
def Stalls (e : PrinterError) : Prop :=
  ∃ s s', OneTurn p nature w moves index s ∧ p.backend.Seeks s (.error e) s'
    ∧ ∀ number, ¬ WroteTo p nature w moves index number

/-- What the past of a task has to do with what it does next. -/
inductive Fate (j : Journal ι) : Task ι (Numbered κ) → Prop where
  | waits {task : Task ι (Numbered κ)} (h : Waits p nature w moves index)
    (hchannel : task.channel? = .none) : Fate j task
  | lands {task : Task ι (Numbered κ)} {channel : Numbered κ}
    (h : Lands p nature w moves index j channel) (hturn : task.awaitsTurn = false)
    (hchannel : ∀ held, task.channel? = some held → held = channel) : Fate j task
  | stalls {e : PrinterError} (h : Stalls p nature w moves index e) : Fate j (.ended (.error e))

end

variable {p : Printer (StateM W) ι κ ρ} {nature : E → W → W} {w : W} {moves : List (Move ι E)}
  {move : Move ι E} {index : Nat} {t t' : Traffic (W × Journal ι) ι (Numbered κ) ρ}

theorem hadTurn_snoc
    (h : (none (w, .blank)).follow? p.journaled (Journal.beside nature) moves = some t)
    (hmove : t.move? p.journaled (Journal.beside nature) move = some t')
    (s : Situation (W × Journal ι) ι (Numbered κ) ρ) :
    HadTurn p nature w (moves ++ [move]) index s
      ↔ HadTurn p nature w moves index s
        ∨ move = .step index ∧ ∃ stream, t.tasks[index]? = some (.prepared stream)
          ∧ s = (t.session, t.world) := by
  constructor
  · rintro ⟨t₁, t₂, stream, htook, hrest⟩
    rcases (took_snoc h hmove).mp htook with htook | ⟨rfl, rfl, rfl⟩
    · exact .inl ⟨t₁, t₂, stream, htook, hrest⟩
    · exact .inr ⟨rfl, stream, hrest⟩
  · rintro (⟨t₁, t₂, stream, htook, hrest⟩ | ⟨rfl, stream, hrest⟩)
    · exact ⟨t₁, t₂, stream, (took_snoc h hmove).mpr (.inl htook), hrest⟩
    · exact ⟨t, t', stream, (took_snoc h hmove).mpr (.inr ⟨rfl, rfl, rfl⟩), hrest⟩

theorem wroteTo_snoc
    (h : (none (w, .blank)).follow? p.journaled (Journal.beside nature) moves = some t)
    (hmove : t.move? p.journaled (Journal.beside nature) move = some t') {number : Nat}
    (hwrote : WroteTo p nature w (moves ++ [move]) index number) :
    WroteTo p nature w moves index number
      ∨ move = .step index ∧ ∃ chunk result,
          .wrote number chunk result ∈ t'.world.2.since t.world.2 := by
  obtain ⟨t₁, t₂, chunk, result, htook, hmem⟩ := hwrote
  rcases (took_snoc h hmove).mp htook with htook | ⟨rfl, rfl, rfl⟩
  · exact .inl ⟨t₁, t₂, chunk, result, htook, hmem⟩
  · exact .inr ⟨rfl, chunk, result, hmem⟩

/-- A task goes on without a turn: what it writes goes to its channel. -/
theorem Fate.advance {j j' : Journal ι} {task task' : Task ι (Numbered κ)}
    (hfate : Fate p nature w moves index j task)
    (hturn : ∀ s, HadTurn p nature w (moves ++ [move]) index s ↔ HadTurn p nature w moves index s)
    (hwrote : ∀ number, WroteTo p nature w (moves ++ [move]) index number →
      WroteTo p nature w moves index number
        ∨ ∃ channel, task.channel? = some channel ∧ number = channel.number)
    (hdeeds : j.deeds <+: j'.deeds)
    (htask : task' = task ∨ task.hasEnded = false
      ∧ (task'.channel? = .none ∨ task'.channel? = task.channel?)
      ∧ (task.awaitsTurn = false → task'.awaitsTurn = false)) :
    Fate p nature w (moves ++ [move]) index j' task' := by
  have hchannel' : ∀ {channel}, task'.channel? = some channel → task.channel? = some channel := by
    intro channel hchannel
    rcases htask with rfl | ⟨-, hnone | hsame, -⟩
    · exact hchannel
    · cases hnone.symm.trans hchannel
    · exact hsame.symm.trans hchannel
  have hone : ∀ {s}, OneTurn p nature w moves index s →
      OneTurn p nature w (moves ++ [move]) index s := fun ⟨hhad, honly⟩ =>
    ⟨(hturn _).mpr hhad, fun s' hhad' => honly s' ((hturn s').mp hhad')⟩
  cases hfate with
  | waits hwaits hchannel =>
    refine .waits ⟨fun s hhad => hwaits.1 s ((hturn s).mp hhad), fun number hnew => ?_⟩ ?_
    · rcases hwrote number hnew with hold | ⟨channel, hholds, -⟩
      · exact hwaits.2 number hold
      · cases hchannel.symm.trans hholds
    · cases hheld : task'.channel? with
      | none => rfl
      | some channel => cases hchannel.symm.trans (hchannel' hheld)
  | @lands _ channel hlands hawaits hchannel =>
    obtain ⟨s, s', id, honce, hseeks, hbound, hopened, hnumber⟩ := hlands
    refine .lands ⟨s, s', id, hone honce, hseeks, hbound, hdeeds.subset hopened, ?_⟩ ?_
      fun held hheld => hchannel held (hchannel' hheld)
    · intro number hnew
      rcases hwrote number hnew with hold | ⟨held, hheld, rfl⟩
      · exact hnumber number hold
      · rw [hchannel held hheld]
    · rcases htask with rfl | ⟨-, -, hstill⟩
      · exact hawaits
      · exact hstill hawaits
  | stalls hstalls =>
    obtain ⟨s, s', honce, hseeks, hnothing⟩ := hstalls
    rcases htask with rfl | ⟨hend, -⟩
    · refine .stalls ⟨s, s', hone honce, hseeks, fun number hnew => ?_⟩
      rcases hwrote number hnew with hold | ⟨channel, hholds, -⟩
      · exact hnothing number hold
      · cases hholds
    · cases hend

/-- In its turn a task looks for the channel. -/
theorem seeks_of_turn {stream : Stream} (htask : t.tasks[index]? = some (.prepared stream))
    (hmove : t.move? p.journaled (Journal.beside nature) (.step index) = some t') :
    ∃ outcome s', p.backend.Seeks (t.session, t.world) outcome s'
      ∧ t' = ⟨s'.2, s'.1, t.tasks.set index (match outcome with
          | .ok channel => .writing channel stream.chunks
          | .error e => .ended (.error e))⟩ := by
  obtain ⟨task, htask', -, rfl⟩ := step?_eq_some hmove
  cases htask.symm.trans htask'
  obtain ⟨outcome, s', hseeks⟩ := Printer.seeks_total p (t.session, t.world)
  refine ⟨outcome, s', hseeks, ?_⟩
  rw [Task.step, Task.eval_after, Printer.eval_channel_of_seeks hseeks]
  cases outcome <;> rfl

/-- Where the others go on, a task stays as it is. -/
theorem Fate.aside
    (h : (none (w, .blank)).follow? p.journaled (Journal.beside nature) moves = some t)
    (hmove : t.move? p.journaled (Journal.beside nature) move = some t')
    (hne : move ≠ .step index) {task : Task ι (Numbered κ)}
    (hdeeds : t.world.2.deeds <+: t'.world.2.deeds)
    (hfate : Fate p nature w moves index t.world.2 task) :
    Fate p nature w (moves ++ [move]) index t'.world.2 task := by
  refine hfate.advance (fun s => ?_) (fun number hwrote => ?_) hdeeds (.inl rfl)
  · rw [hadTurn_snoc h hmove]
    exact or_iff_left fun hlast => hne hlast.1
  · exact (wroteTo_snoc h hmove hwrote).imp_right fun hlast => absurd hlast.1 hne

/-- A task that has its turn has its fate from then on. -/
theorem Fate.turn
    (h : (none (w, .blank)).follow? p.journaled (Journal.beside nature) moves = some t)
    {task' : Task ι (Numbered κ)} {s' : Situation (W × Journal ι) ι (Numbered κ) ρ}
    (hmove : t.move? p.journaled (Journal.beside nature) (.step index)
      = some ⟨s'.2, s'.1, t.tasks.set index task'⟩)
    {stream : Stream} (htask : t.tasks[index]? = some (.prepared stream))
    (hstride : Task.Stride p.journaled (.prepared stream) (t.session, t.world) task' s')
    (hnoted : Situation.Noted (t.session, t.world))
    (hfate : Fate p nature w moves index t.world.2 (.prepared stream)) :
    Fate p nature w (moves ++ [.step index]) index s'.2.2 task' := by
  have hwaits : Waits p nature w moves index := by
    cases hfate with
    | waits hwaits hchannel => exact hwaits
    | lands hlands hawaits hchannel => cases hawaits
  have hone : OneTurn p nature w (moves ++ [.step index]) index (t.session, t.world) := by
    refine ⟨(hadTurn_snoc h hmove _).mpr (.inr ⟨rfl, stream, htask, rfl⟩), fun s hhad => ?_⟩
    rcases (hadTurn_snoc h hmove s).mp hhad with hold | ⟨-, -, -, rfl⟩
    · exact absurd hold (hwaits.1 s)
    · rfl
  have hnothing : ∀ number, ¬ WroteTo p nature w (moves ++ [.step index]) index number := by
    intro number hwrote
    rcases wroteTo_snoc h hmove hwrote with hold | ⟨-, chunk, result, hmem⟩
    · exact hwaits.2 number hold
    · obtain ⟨channel, hholds, -⟩ := hstride.wrote hmem
      cases hholds
  obtain ⟨outcome, s'', hseeks, heq⟩ := seeks_of_turn htask hmove
  obtain ⟨hworld, -, htasks⟩ := Traffic.mk.inj heq
  have hindex := (List.getElem?_eq_some_iff.mp htask).1
  have hnext := congrArg (fun tasks : List (Task ι (Numbered κ)) => tasks[index]?) htasks
  simp only [List.getElem?_set_self hindex, Option.some.injEq] at hnext
  subst hnext
  rw [hworld]
  cases outcome with
  | ok channel =>
    obtain ⟨id, hbound, hopened⟩ := hseeks.noted hnoted
    refine .lands ⟨_, s'', id, hone, hseeks, hbound, hopened, ?_⟩ rfl ?_
    · exact fun number hwrote => absurd hwrote (hnothing number)
    · intro held hheld
      cases hheld
      rfl
  | error e => exact .stalls ⟨_, s'', hone, hseeks, hnothing⟩

/-- Whatever step a task takes, it has a fate. -/
theorem Fate.stride
    (h : (none (w, .blank)).follow? p.journaled (Journal.beside nature) moves = some t)
    {task task' : Task ι (Numbered κ)} {s' : Situation (W × Journal ι) ι (Numbered κ) ρ}
    (hmove : t.move? p.journaled (Journal.beside nature) (.step index)
      = some ⟨s'.2, s'.1, t.tasks.set index task'⟩)
    (htask : t.tasks[index]? = some task)
    (hstride : Task.Stride p.journaled task (t.session, t.world) task' s')
    (hnoted : Situation.Noted (t.session, t.world))
    (hfate : Fate p nature w moves index t.world.2 task) :
    Fate p nature w (moves ++ [.step index]) index s'.2.2 task' := by
  by_cases hprepared : ∃ stream, task = .prepared stream
  · obtain ⟨stream, rfl⟩ := hprepared
    exact hfate.turn h hmove htask hstride hnoted
  · have hne : ∀ stream, task ≠ .prepared stream := fun stream heq => hprepared ⟨stream, heq⟩
    refine hfate.advance (fun s => ?_) (fun number hwrote => ?_) hstride.deeds
      (.inr ⟨hstride.hasEnded, hstride.channel? hne, hstride.awaitsTurn hne⟩)
    · rw [hadTurn_snoc h hmove]
      refine or_iff_left ?_
      rintro ⟨-, stream, hturn, -⟩
      exact hne stream (Option.some.inj (htask.symm.trans hturn))
    · refine (wroteTo_snoc h hmove hwrote).imp_right ?_
      rintro ⟨-, chunk, result, hmem⟩
      exact hstride.wrote hmem

/-- What is kept by every move: every task has its fate. -/
structure Fated (p : Printer (StateM W) ι κ ρ) (nature : E → W → W) (w : W)
    (moves : List (Move ι E)) (t : Traffic (W × Journal ι) ι (Numbered κ) ρ) : Prop where
  noted : Situation.Noted (t.session, t.world)
  index_lt : ∀ index t₁ t₂, Took p nature w moves index t₁ t₂ → index < t.tasks.length
  fate : ∀ (index : Nat) task, t.tasks[index]? = some task →
    Fate p nature w moves index t.world.2 task

theorem fated (h : (none (w, .blank)).follow? p.journaled (Journal.beside nature) moves = some t) :
    Fated p nature w moves t := by
  refine follow_keep (P := Fated p nature w) (w, .blank) ?_ ?_ ?_ ?_ h
  · refine ⟨nofun, ?_, nofun⟩
    rintro index t₁ t₂ ⟨before, hprefix, -⟩
    cases List.append_ne_nil_of_right_ne_nil before (List.cons_ne_nil _ _)
      (List.prefix_nil.mp hprefix)
  · intro moves t operation hfollow hf
    have hmove : t.move? p.journaled (Journal.beside nature) (.start operation)
        = some (t.start operation) := rfl
    have hold : ∀ index t₁ t₂, Took p nature w (moves ++ [.start operation]) index t₁ t₂ →
        index < t.tasks.length := by
      intro index t₁ t₂ htook
      rcases (took_snoc hfollow hmove).mp htook with htook | ⟨hmove, -⟩
      · exact hf.index_lt index t₁ t₂ htook
      · cases hmove
    refine ⟨hf.noted, ?_, ?_⟩
    · intro index t₁ t₂ htook
      show index < (t.tasks ++ [Task.started operation]).length
      rw [List.length_append]
      exact Nat.lt_add_right 1 (hold index t₁ t₂ htook)
    · intro index task htask
      rcases tasks_start htask with htask | ⟨rfl, rfl⟩
      · exact (hf.fate index task htask).aside hfollow hmove nofun List.prefix_rfl
      · -- a task that is new has done nothing
        refine .waits ⟨?_, ?_⟩ rfl
        · rintro s ⟨t₁, t₂, stream, htook, -⟩
          exact Nat.lt_irrefl _ (hold _ t₁ t₂ htook)
        · rintro number ⟨t₁, t₂, chunk, result, htook, -⟩
          exact Nat.lt_irrefl _ (hold _ t₁ t₂ htook)
  · intro moves t change hfollow hf
    have hmove : t.move? p.journaled (Journal.beside nature) (.outside change)
        = some { t with world := Journal.beside nature change t.world } := rfl
    refine ⟨hf.noted, ?_, ?_⟩
    · intro index t₁ t₂ htook
      rcases (took_snoc hfollow hmove).mp htook with htook | ⟨hmove, -⟩
      · exact hf.index_lt index t₁ t₂ htook
      · cases hmove
    · intro index task htask
      exact (hf.fate index task htask).aside hfollow hmove nofun List.prefix_rfl
  · intro moves t index task task' s' hfollow hmove htask hfree hstride hf
    refine ⟨hstride.noted hf.noted, ?_, ?_⟩
    · intro other t₁ t₂ htook
      rw [List.length_set]
      rcases (took_snoc hfollow hmove).mp htook with htook | ⟨hlast, -⟩
      · exact hf.index_lt other t₁ t₂ htook
      · cases hlast
        exact (List.getElem?_eq_some_iff.mp htask).1
    · intro other task'' hother
      rcases tasks_set hother with ⟨rfl, rfl⟩ | ⟨hne, hother⟩
      · exact (hf.fate other task htask).stride hfollow hmove htask hstride hf.noted
      · refine (hf.fate other task'' hother).aside hfollow hmove ?_ hstride.deeds
        intro heq
        cases heq
        exact hne rfl

end Traffic

-- ========================================================= a job astray

/-- A printer in memory for which every picture is one black dot. -/
def Memory.dotted : Printer (StateM (Memory.World × Unit)) DeviceIdentity Nat Memory.Request :=
  Memory.printer .usb .default fun _ f => (.ok ⟨1, 1, #[0xff000000]⟩, f)

/-- Two devices, and no need to ask for access. -/
def Memory.pair : Memory.World × Unit :=
  (.fresh .usb [⟨"till", .usb ⟨1, 2⟩⟩, ⟨"kitchen", .usb ⟨3, 4⟩⟩] false, ())

/-- The till is selected, and it is checked that a picture could be
printed. -/
def Memory.checked : List (Traffic.Move DeviceIdentity Memory.Provocation) :=
  [.start (.select (.usb ⟨1, 2⟩)), .step 0, .step 0, .start (.print (.image "logo" .none)), .step 1]

/-- Before the picture is prepared, the kitchen is selected. -/
def Memory.crossed : List (Traffic.Move DeviceIdentity Memory.Provocation) :=
  Memory.checked ++ [.start (.select (.usb ⟨3, 4⟩)), .step 2, .step 2, .step 1]

/-- The picture has its turn, and its first chunk is written. -/
def Memory.astray : List (Traffic.Move DeviceIdentity Memory.Provocation) :=
  Memory.crossed ++ [.step 1, .step 1, .step 1]

-- ============================================================= the result

/-- A number is given out to one device only. -/
theorem Journal.Orderly.opened_unique {j : Journal ι} (hj : j.Orderly) {id other : ι} {number : Nat}
    (hid : .opened id number ∈ j.deeds) (hother : .opened other number ∈ j.deeds) : other = id := by
  obtain ⟨before, after, hsplit⟩ := List.append_of_mem hid
  have horder := hj before _ after hsplit
  rw [hsplit] at hother
  rcases List.mem_append.mp hother with hbefore | hafter
  · exact absurd hbefore (horder.2 other)
  · rcases List.mem_cons.mp hafter with heq | hafter
    · exact (Deed.opened.inj heq).1
    · -- the other channel was opened later, after this one
      obtain ⟨between, rest, rfl⟩ := List.append_of_mem hafter
      have hlater := hj (before ++ .opened id number :: between) (.opened other number) rest
        (by simpa using hsplit)
      exact absurd (List.mem_append_right _ List.mem_cons_self) (hlater.2 id)

/-- Where the chunks of a job go, whatever goes on at the same time.

With a journal kept, every schedule leads to what it leads to without. A job
that has not had its turn has written nothing. In its one turn it looks for
the channel. If it finds one, this is a channel to the device that the
session was bound to when the turn began, and to no other device, and all
that the job writes goes there. If it finds none, the job has failed, and
nothing was written. -/
theorem jobs_go_where_bound [DecidableEq ι] (p : Printer (StateM W) ι κ ρ) (nature : E → W → W)
    (w : W) (moves : List (Traffic.Move ι E)) (u : Traffic W ι κ ρ)
    (h : (Traffic.none w).follow? p nature moves = some u) :
    ∃ t : Traffic (W × Journal ι) ι (Numbered κ) ρ,
      (Traffic.none (w, .blank)).follow? p.journaled (Journal.beside nature) moves = some t
      ∧ t.forget = u
      ∧ ∀ (index : Nat) job, (Traffic.asked moves)[index]? = some (.print job) →
        ((∀ s, ¬ Traffic.HadTurn p nature w moves index s)
            ∧ ∀ number, ¬ Traffic.WroteTo p nature w moves index number)
          ∨ ∃ s outcome s', Traffic.HadTurn p nature w moves index s
            ∧ (∀ s', Traffic.HadTurn p nature w moves index s' → s' = s)
            ∧ p.backend.Seeks s outcome s'
            ∧ match outcome with
              | .ok channel => ∃ id, s.1.connection.bound? = some id
                ∧ .opened id channel.number ∈ t.world.2.deeds
                ∧ (∀ other, .opened other channel.number ∈ t.world.2.deeds → other = id)
                ∧ ∀ number, Traffic.WroteTo p nature w moves index number → number = channel.number
              | .error e => u.tasks[index]? = some (.ended (.error e))
                ∧ ∀ number, ¬ Traffic.WroteTo p nature w moves index number := by
  have hfollow := Traffic.follow?_forget p nature (.none (w, .blank)) moves
  have hblank : (Traffic.none (w, Journal.blank) : Traffic _ ι (Numbered κ) ρ).forget = .none w :=
    rfl
  rw [hblank, h] at hfollow
  obtain ⟨t, ht, rfl⟩ := Option.map_eq_some_iff.mp hfollow.symm
  refine ⟨t, ht, rfl, fun index job hjob => ?_⟩
  obtain ⟨blocks, -, ha⟩ := accounted ht
  have hindex : index < t.tasks.length := by
    rw [(Traffic.origins ht).length]
    exact (List.getElem?_eq_some_iff.mp hjob).1
  obtain ⟨task, htask⟩ : ∃ task, t.tasks[index]? = some task :=
    ⟨_, List.getElem?_eq_getElem hindex⟩
  cases (Traffic.fated ht).fate index _ htask with
  | waits hwaits hchannel => exact .inl hwaits
  | @lands _ channel hlands hturn hchannel =>
    obtain ⟨s, s', id, ⟨hhad, honly⟩, hseeks, hbound, hopened, hwrote⟩ := hlands
    exact .inr ⟨s, .ok channel, s', hhad, honly, hseeks, id, hbound, hopened,
      fun other hother => ha.kept.orderly.opened_unique hopened hother, hwrote⟩
  | stalls hstalls =>
    obtain ⟨s, s', ⟨hhad, honly⟩, hseeks, hnothing⟩ := hstalls
    refine .inr ⟨s, .error _, s', hhad, honly, hseeks, ?_, hnothing⟩
    rw [Traffic.tasks_forget, htask]
    rfl

/-- In the kitchen the job writes to the channel of the kitchen only. -/
theorem job_in_the_kitchen :
    ∃ u t, (Traffic.none Memory.pair).follow? Memory.dotted Memory.provoke Memory.astray = some u
      ∧ Traffic.forget t = u
      ∧ ∃ channel : Numbered Nat, .opened (.usb ⟨3, 4⟩) channel.number ∈ t.world.2.deeds
        ∧ ∀ number,
          Traffic.WroteTo Memory.dotted Memory.provoke Memory.pair Memory.astray 1 number →
            number = channel.number := by
  obtain ⟨u, rest, hu, htask⟩ : ∃ u rest, (Traffic.none Memory.pair).follow? Memory.dotted
      Memory.provoke Memory.astray = some u ∧ u.tasks[1]? = some (.writing 1 rest) :=
    ⟨_, _, rfl, rfl⟩
  obtain ⟨s₀, hturn, hkitchen⟩ : ∃ s, Traffic.HadTurn Memory.dotted Memory.provoke Memory.pair
      Memory.astray 1 s ∧ s.1.connection.bound? = some (.usb ⟨3, 4⟩) :=
    ⟨_, ⟨_, _, _, ⟨Memory.crossed, ⟨[.step 1, .step 1], rfl⟩, rfl, rfl⟩, rfl, rfl⟩, rfl⟩
  obtain ⟨t, -, hforget, hjobs⟩ :=
    jobs_go_where_bound Memory.dotted Memory.provoke Memory.pair Memory.astray u hu
  rcases hjobs 1 (.image "logo" .none) rfl with ⟨hnone, -⟩ | ⟨s, outcome, s', -, honly, -, hfate⟩
  · exact absurd hturn (hnone s₀)
  · cases honly s₀ hturn
    cases outcome with
    | ok channel =>
      obtain ⟨id, hbound, hopened, -, hwrote⟩ := hfate
      cases hkitchen.symm.trans hbound
      exact ⟨u, t, hu, hforget, channel, hopened, hwrote⟩
    | error e => cases htask.symm.trans hfate.1

/-- A job that was checked while one device was connected is printed by
another one. -/
theorem job_on_another_device :
    (∃ t channel, (Traffic.none (Memory.pair, .blank)).follow? Memory.dotted.journaled
        (Journal.beside Memory.provoke) Memory.checked = some t
      ∧ t.session.connection = .connected (.usb ⟨1, 2⟩) ⟨"till", .usb ⟨1, 2⟩⟩ channel
      ∧ t.tasks[1]? = some (.preparing (.image "logo" .none)))
    ∧ ∃ t, (Traffic.none (Memory.pair, .blank)).follow? Memory.dotted.journaled
        (Journal.beside Memory.provoke) Memory.astray = some t
      ∧ t.world.2.deeds = [.opened (.usb ⟨1, 2⟩) 0, .closed 0, .opened (.usb ⟨3, 4⟩) 1,
          .wrote 1 [27, 51, 24] (.ok ())]
      ∧ Traffic.WroteTo Memory.dotted Memory.provoke Memory.pair Memory.astray 1 1 := by
  constructor
  · exact ⟨_, _, rfl, rfl, rfl⟩
  · refine ⟨_, rfl, rfl, ?_⟩
    exact ⟨_, _, _, _, ⟨Memory.crossed ++ [.step 1, .step 1], ⟨[], rfl⟩, rfl, rfl⟩,
      List.mem_singleton_self _⟩

end ReceiptPrinter
