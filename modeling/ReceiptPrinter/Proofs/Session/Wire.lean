/-
Print jobs do not mix.

However operations are interleaved, what the channels are asked to do is one
block after another, each the work of a single job on a single channel. The
invariant behind it is `Accounted`: the block of the job that holds the
session is the last one, and its channel is the one that the session holds;
so whoever writes goes on with the last block, and whoever has to wait for
the session cannot come between.
-/
import ReceiptPrinter.Proofs.Session.Course
import ReceiptPrinter.Proofs.Session.LifeCycle
import ReceiptPrinter.Proofs.Session.Traffic
import ReceiptPrinter.Session.Memory
import Mathlib.Data.List.Nodup

namespace ReceiptPrinter

variable {W ι κ ρ E : Type}

-- ============================================================ the journal

namespace Journal

theorem transfers_note (j : Journal ι) (deed : Deed ι) :
    (j.note deed).transfers = j.transfers ++ [deed].filter Deed.isTransfer :=
  List.filter_append j.deeds [deed]

/-- To open a device is not to write. -/
theorem transfers_noteOpen (j : Journal ι) (id : ι)
    (outcome : Outcome (DeviceRecord × Link κ ρ)) :
    (j.noteOpen id outcome).2.transfers = j.transfers := by
  cases outcome with
  | error reason => exact (transfers_note j _).trans (List.append_nil _)
  | ok opened =>
    obtain ⟨record, link⟩ := opened
    cases link with
    | channel channel => exact (transfers_note j _).trans (List.append_nil _)
    | request request => exact (transfers_note j _).trans (List.append_nil _)

/-- What was received is told by the transfers alone. -/
theorem received_eq (j : Journal ι) : j.received = j.transfers.filterMap Deed.received? := by
  unfold received transfers
  rw [List.filterMap_filter]
  congr 1
  funext deed
  cases deed <;> rfl

end Journal

namespace Printer

variable {p : Printer (StateM W) ι κ ρ} {s s' : Situation (W × Journal ι) ι (Numbered κ) ρ}

/-- Acts ask nothing of a channel, other than to close. -/
theorem transfers_act (h : Act p.journaled s s') : s'.2.2.transfers = s.2.2.transfers := by
  cases h with
  | prepared h => rw [journal_aside h]
  | unprepared h => rw [journal_aside h]
  | listed h => rw [journal_aside h]
  | fetched h => rw [journal_aside h]
  | polled h => rw [journal_aside h]
  | dropped => rfl
  | opened h =>
    cases h
    exact Journal.transfers_noteOpen _ _ _
  | reopened hpoll h =>
    rw [← journal_aside hpoll]
    cases h
    exact Journal.transfers_noteOpen _ _ _
  | closed h =>
    cases h
    exact (Journal.transfers_note _ _).trans (List.append_nil _)

theorem transfers_acts (h : Acts p.journaled s s') : s'.2.2.transfers = s.2.2.transfers := by
  induction h with
  | refl => rfl
  | tail _ hlast ih => exact (transfers_act hlast).trans ih

theorem transfers_write {channel : Numbered κ} {chunk : Bytes} {result : Outcome Unit}
    {w w' : W × Journal ι} (h : p.journaled.backend.write channel chunk w = (result, w')) :
    w'.2.transfers = w.2.transfers ++ [.wrote channel.number chunk result] := by
  cases h
  exact Journal.transfers_note _ _

theorem transfers_flush {channel : Numbered κ} {result : Outcome Unit} {w w' : W × Journal ι}
    (h : p.journaled.backend.flush channel w = (result, w')) :
    w'.2.transfers = w.2.transfers ++ [.flushed channel.number result] := by
  cases h
  exact Journal.transfers_note _ _

theorem kept_acts (h : Acts p.journaled s s') (hs : Kept s) : Kept s' :=
  Doings.keep kept_act kept_transfer h.doings hs

end Printer

-- ========================================================== the invariant

/-- The blocks account for all that was asked of the channels. -/
structure Accounted (t : Traffic (W × Journal ι) ι (Numbered κ) ρ) (blocks : List Block) :
    Prop where
  kept : Kept (t.session, t.world)
  transfers : t.world.2.transfers = blocks.flatMap Block.deeds
  fits : ∀ b ∈ blocks, ∃ task, t.tasks[b.task]? = some task ∧ b.Fits task
  distinct : (blocks.map Block.task).Nodup
  /-- A task that holds the session writes to the open channel, and its block
  is the last one. -/
  holder : ∀ (index : Nat) task channel, t.tasks[index]? = some task →
    task.channel? = some channel →
    t.session.connection.channel? = some channel ∧ ∃ before b, blocks = before ++ [b] ∧ b.task = index

namespace Block

variable (task : Nat) (stream : Stream) (channel : Nat) (sent : List Bytes)

/-- A block with nothing at the end may end with something. -/
theorem deeds_ended (ending : Ending) :
    ((⟨task, stream, channel, sent, ending⟩ : Block).deeds : List (Deed ι))
      = (⟨task, stream, channel, sent, .nothing⟩ : Block).deeds
        ++ (lastDeed? channel ending).toList := by
  simp only [deeds, lastDeed?, Option.toList_none, List.append_nil]

/-- It may also become longer. -/
theorem deeds_sent (chunk : Bytes) :
    ((⟨task, stream, channel, sent ++ [chunk], .nothing⟩ : Block).deeds : List (Deed ι))
      = (⟨task, stream, channel, sent, .nothing⟩ : Block).deeds
        ++ [.wrote channel chunk (.ok ())] := by
  simp only [deeds, lastDeed?, Option.toList_none, List.append_nil, List.map_append,
    List.map_singleton]

end Block

/-- A task that has a block has had its turn. -/
theorem Block.Fits.awaitsTurn {b : Block} {task : Task ι (Numbered κ)} (h : b.Fits task) :
    task.awaitsTurn = false := by
  cases h <;> rfl

namespace Accounted

variable {t : Traffic (W × Journal ι) ι (Numbered κ) ρ} {blocks : List Block} {index : Nat}
  {task task' : Task ι (Numbered κ)} {s' : Situation (W × Journal ι) ι (Numbered κ) ρ}
  {p : Printer (StateM W) ι κ ρ}

/-- Before its turn a task has no block. -/
theorem task_ne (ha : Accounted t blocks) (htask : t.tasks[index]? = some task)
    (hawaits : task.awaitsTurn = true) {b : Block} (hb : b ∈ blocks) : b.task ≠ index := by
  intro heq
  obtain ⟨task₁, htask₁, hfits⟩ := ha.fits b hb
  rw [heq, htask] at htask₁
  cases htask₁
  rw [hfits.awaitsTurn] at hawaits
  cases hawaits

/-- Another task comes further: what a block belongs to is left as it is. -/
theorem fits_set (ha : Accounted t blocks) {b : Block} (hb : b ∈ blocks) (hne : b.task ≠ index) :
    ∃ task, (t.tasks.set index task')[b.task]? = some task ∧ b.Fits task := by
  obtain ⟨task, htask, hfits⟩ := ha.fits b hb
  refine ⟨task, ?_, hfits⟩
  rw [List.getElem?_set_ne hne.symm]
  exact htask

/-- A task comes further without its turn: the blocks stay as they are. -/
theorem pass (ha : Accounted t blocks) (htask : t.tasks[index]? = some task)
    (hawaits : task.awaitsTurn = true) (hholds : task'.channel? = none)
    (hfree : task.wantsSession = true → t.isFree = true)
    (hacts : Acts p.journaled (t.session, t.world) s')
    (hconnection : task.wantsSession = false → s'.1.connection = t.session.connection) :
    Accounted ⟨s'.2, s'.1, t.tasks.set index task'⟩ blocks where
  kept := Printer.kept_acts hacts ha.kept
  transfers := (Printer.transfers_acts hacts).trans ha.transfers
  fits := fun _ hb => ha.fits_set hb (ha.task_ne htask hawaits hb)
  distinct := ha.distinct
  holder := by
    intro other task₁ channel hother hchannel
    rcases Traffic.tasks_set hother with ⟨-, rfl⟩ | ⟨-, hother⟩
    · rw [hholds] at hchannel
      cases hchannel
    · obtain ⟨hopen, hlast⟩ := ha.holder other task₁ channel hother hchannel
      refine ⟨?_, hlast⟩
      -- someone holds the session, so the step did not need it
      have hwants : task.wantsSession = false := by
        by_contra hwants
        rw [Traffic.channel?_of_isFree (hfree (Bool.not_eq_false _ ▸ hwants)) hother] at hchannel
        cases hchannel
      show s'.1.connection.channel? = some channel
      rw [hconnection hwants]
      exact hopen

/-- A job has its turn: its block is the last one now, and empty so far. -/
theorem takeTurn (ha : Accounted t blocks) {stream : Stream}
    (htask : t.tasks[index]? = some (.prepared stream)) (hfree : t.isFree = true)
    (hacts : Acts p.journaled (t.session, t.world) s') {b : Block} (hindex : b.task = index)
    (hdeeds : (b.deeds : List (Deed ι)) = []) (hfits : b.Fits task')
    (hchannel : ∀ channel, task'.channel? = some channel →
      s'.1.connection.channel? = some channel) :
    Accounted ⟨s'.2, s'.1, t.tasks.set index task'⟩ (blocks ++ [b]) where
  kept := Printer.kept_acts hacts ha.kept
  transfers := by
    show s'.2.2.transfers = _
    rw [Printer.transfers_acts hacts, List.flatMap_append, List.flatMap_singleton, hdeeds,
      List.append_nil]
    exact ha.transfers
  fits := by
    intro b' hb'
    have hlt := (List.getElem?_eq_some_iff.mp htask).1
    rcases List.mem_append.mp hb' with hb' | hb'
    · exact ha.fits_set hb' (ha.task_ne htask rfl hb')
    · rw [List.mem_singleton.mp hb', hindex]
      exact ⟨task', List.getElem?_set_self hlt, hfits⟩
  distinct := by
    rw [List.map_append, List.map_singleton, hindex]
    refine List.nodup_append.mpr ⟨ha.distinct, List.nodup_singleton index, ?_⟩
    intro i hi j hj heq
    obtain ⟨b', hb', rfl⟩ := List.mem_map.mp hi
    exact ha.task_ne htask rfl hb' (heq.trans (List.mem_singleton.mp hj))
  holder := by
    intro other task₁ channel hother hholds
    rcases Traffic.tasks_set hother with ⟨rfl, rfl⟩ | ⟨-, hother⟩
    · exact ⟨hchannel channel hholds, blocks, b, rfl, hindex⟩
    · rw [Traffic.channel?_of_isFree hfree hother] at hholds
      cases hholds

/-- The job that holds the session goes on with its block. -/
theorem goOn {before : List Block} {b : Block} (ha : Accounted t (before ++ [b])) (b' : Block)
    (htask : t.tasks[b.task]? = some task) (hturn : b'.turn = b.turn)
    (hkept : Kept s') (deeds : List (Deed ι))
    (htransfers : s'.2.2.transfers = t.world.2.transfers ++ deeds)
    (hdeeds : b'.deeds = b.deeds ++ deeds) (hfits : b'.Fits task')
    (hchannel : ∀ channel, task'.channel? = some channel →
      s'.1.connection.channel? = some channel) :
    ∃ blocks', blocks'.map Block.turn = (before ++ [b]).map Block.turn
      ∧ Accounted ⟨s'.2, s'.1, t.tasks.set b.task task'⟩ blocks' := by
  have htask' : b'.task = b.task := congrArg Prod.fst hturn
  have hdistinct := ha.distinct
  rw [List.map_append, List.map_singleton] at hdistinct
  refine ⟨before ++ [b'], ?_, hkept, ?_, ?_, ?_, ?_⟩
  · rw [List.map_append, List.map_append, List.map_singleton, List.map_singleton, hturn]
  · show s'.2.2.transfers = _
    rw [htransfers, ha.transfers, List.flatMap_append, List.flatMap_append, List.flatMap_singleton,
      List.flatMap_singleton, hdeeds, List.append_assoc]
  · intro b₁ hb₁
    have hlt := (List.getElem?_eq_some_iff.mp htask).1
    rcases List.mem_append.mp hb₁ with hb₁ | hb₁
    · -- every other block belongs to another task
      refine ha.fits_set (List.mem_append_left _ hb₁) fun heq => ?_
      exact (List.nodup_append.mp hdistinct).2.2 b₁.task (List.mem_map_of_mem hb₁) b.task
        (List.mem_singleton_self _) heq
    · rw [List.mem_singleton.mp hb₁, htask']
      exact ⟨task', List.getElem?_set_self hlt, hfits⟩
  · rw [List.map_append, List.map_singleton, htask']
    exact hdistinct
  · intro other task₁ channel hother hholds
    rcases Traffic.tasks_set hother with ⟨rfl, rfl⟩ | ⟨hne, hother⟩
    · exact ⟨hchannel channel hholds, before, b', rfl, htask'⟩
    · -- nobody else holds the session
      obtain ⟨-, before', b₁, hblocks, hindex⟩ := ha.holder other task₁ channel hother hholds
      obtain ⟨-, hlast⟩ := List.append_inj' hblocks rfl
      cases hlast
      exact absurd hindex.symm hne

/-- Another operation is started. -/
theorem start (ha : Accounted t blocks) (operation : Operation ι) :
    Accounted (t.start operation) blocks where
  kept := ha.kept
  transfers := ha.transfers
  fits := by
    intro b hb
    obtain ⟨task, htask, hfits⟩ := ha.fits b hb
    refine ⟨task, ?_, hfits⟩
    show (t.tasks ++ [.started operation])[b.task]? = some task
    rw [List.getElem?_append_left (List.getElem?_eq_some_iff.mp htask).1]
    exact htask
  distinct := ha.distinct
  holder := by
    intro other task channel hother hholds
    rcases Traffic.tasks_start hother with hother | ⟨-, rfl⟩
    · exact ha.holder other task channel hother hholds
    · cases hholds

/-- Who holds the session writes to the open channel, and goes on with the
last block. -/
theorem holding (ha : Accounted t blocks) (htask : t.tasks[index]? = some task)
    {channel : Numbered κ} (hholds : task.channel? = some channel) :
    ∃ before b, blocks = before ++ [b] ∧ b.task = index ∧ b.Fits task
      ∧ t.session.connection.channel? = some channel := by
  obtain ⟨hopen, before, b, rfl, rfl⟩ := ha.holder index task channel htask hholds
  obtain ⟨task₁, htask₁, hfits⟩ := ha.fits b (List.mem_append_right _ (List.mem_singleton_self b))
  rw [htask] at htask₁
  cases htask₁
  exact ⟨before, b, rfl, rfl, hfits, hopen⟩

variable {channel : Numbered κ} {chunk : Bytes} {rest : List Bytes} {e : PrinterError}
  {w' : W × Journal ι}

/-- The job that holds the session fails: a last deed ends its block, and the
connection is given up. -/
theorem giveUp {before : List Block} {b : Block} (ha : Accounted t (before ++ [b])) (b' : Block)
    (htask : t.tasks[b.task]? = some task) (hturn : b'.turn = b.turn)
    (hopen : t.session.connection.channel? = some channel)
    (htransfer : Transfer p.journaled (t.session, t.world) (t.session, w')) (deed : Deed ι)
    (htransfers : w'.2.transfers = t.world.2.transfers ++ [deed])
    (hdeeds : b'.deeds = b.deeds ++ [deed])
    (hfits : b'.Fits (.ended (.error e) : Task ι (Numbered κ))) :
    ∃ blocks', blocks'.map Block.turn = (before ++ [b]).map Block.turn
      ∧ Accounted ⟨p.journaled.hangUp t.session.connection w',
          (⟨t.session.initialized, .ready⟩ : Session ι (Numbered κ) ρ),
          t.tasks.set b.task (.ended (.error e))⟩ blocks' := by
  -- that it is closed is noted, too, but that is no transfer
  have hclose : Act p.journaled (t.session, w') _ := .ofHangUp hopen w'
  have hkept := Printer.kept_act hclose (Printer.kept_transfer htransfer ha.kept)
  exact ha.goOn b' htask hturn hkept [deed] ((Printer.transfers_act hclose).trans htransfers) hdeeds
    hfits nofun

/-- A chunk is on the way. -/
theorem sending (ha : Accounted t blocks)
    (htask : t.tasks[index]? = some (.writing channel (chunk :: rest))) :
    ∃ blocks', blocks'.map Block.turn = blocks.map Block.turn
      ∧ Accounted ⟨t.world, t.session, t.tasks.set index (.sending channel chunk rest)⟩ blocks' := by
  obtain ⟨before, b, rfl, rfl, hfits, hopen⟩ := ha.holding htask rfl
  refine ha.goOn b htask rfl ha.kept [] ?_ ?_ ?_ ?_
  · exact (List.append_nil _).symm
  · exact (List.append_nil _).symm
  · cases hfits with
    | writing h => exact .sending h
  · intro channel' heq
    cases heq
    exact hopen

/-- A chunk has gone through. -/
theorem sent (ha : Accounted t blocks)
    (htask : t.tasks[index]? = some (.sending channel chunk rest))
    (hwrite : p.journaled.backend.write channel chunk t.world = (.ok (), w')) :
    ∃ blocks', blocks'.map Block.turn = blocks.map Block.turn
      ∧ Accounted ⟨w', t.session, t.tasks.set index (.writing channel rest)⟩ blocks' := by
  obtain ⟨before, b, rfl, rfl, hfits, hopen⟩ := ha.holding htask rfl
  have hkept := Printer.kept_transfer (.ofWrite hopen hwrite) ha.kept
  cases hfits with
  | @sending task stream _ sent _ _ h =>
    refine ha.goOn ⟨task, stream, channel.number, sent ++ [chunk], .nothing⟩ htask rfl hkept _
      (Printer.transfers_write hwrite) ?_ (.writing ?_) ?_
    · exact Block.deeds_sent task stream channel.number sent chunk
    · rw [List.append_assoc]
      exact h
    · intro channel' heq
      cases heq
      exact hopen

/-- A chunk has failed. -/
theorem broke (ha : Accounted t blocks)
    (htask : t.tasks[index]? = some (.sending channel chunk rest))
    (hwrite : p.journaled.backend.write channel chunk t.world = (.error e, w')) :
    ∃ blocks', blocks'.map Block.turn = blocks.map Block.turn
      ∧ Accounted ⟨p.journaled.hangUp t.session.connection w',
          (⟨t.session.initialized, .ready⟩ : Session ι (Numbered κ) ρ),
          t.tasks.set index (.ended (.error e))⟩ blocks' := by
  obtain ⟨before, b, rfl, rfl, hfits, hopen⟩ := ha.holding htask rfl
  cases hfits with
  | @sending task stream _ sent _ _ h =>
    refine ha.giveUp ⟨task, stream, channel.number, sent, .broke chunk e⟩ htask rfl hopen
      (.ofWrite hopen hwrite) _ (Printer.transfers_write hwrite) ?_ (.broke h)
    exact Block.deeds_ended task stream channel.number sent (.broke chunk e)

/-- All chunks have gone through, and so has the flush. -/
theorem flushed (ha : Accounted t blocks) (htask : t.tasks[index]? = some (.writing channel []))
    (hflush : p.journaled.backend.flush channel t.world = (.ok (), w')) :
    ∃ blocks', blocks'.map Block.turn = blocks.map Block.turn
      ∧ Accounted ⟨w', t.session, t.tasks.set index (.ended (.ok .done))⟩ blocks' := by
  obtain ⟨before, b, rfl, rfl, hfits, hopen⟩ := ha.holding htask rfl
  have hkept := Printer.kept_transfer (.ofFlush hopen hflush) ha.kept
  cases hfits with
  | @writing task stream _ sent _ h =>
    rw [List.append_nil] at h
    subst h
    refine ha.goOn ⟨task, stream, channel.number, stream.chunks, .flushed (.ok ())⟩ htask rfl hkept _
      (Printer.transfers_flush hflush) ?_ .done nofun
    exact Block.deeds_ended task stream channel.number stream.chunks (.flushed (.ok ()))

/-- All chunks have gone through, but the flush has failed. -/
theorem unflushed (ha : Accounted t blocks) (htask : t.tasks[index]? = some (.writing channel []))
    (hflush : p.journaled.backend.flush channel t.world = (.error e, w')) :
    ∃ blocks', blocks'.map Block.turn = blocks.map Block.turn
      ∧ Accounted ⟨p.journaled.hangUp t.session.connection w',
          (⟨t.session.initialized, .ready⟩ : Session ι (Numbered κ) ρ),
          t.tasks.set index (.ended (.error e))⟩ blocks' := by
  obtain ⟨before, b, rfl, rfl, hfits, hopen⟩ := ha.holding htask rfl
  cases hfits with
  | @writing task stream _ sent _ h =>
    rw [List.append_nil] at h
    subst h
    refine ha.giveUp ⟨task, stream, channel.number, stream.chunks, .flushed (.error e)⟩ htask rfl hopen
      (.ofFlush hopen hflush) _ (Printer.transfers_flush hflush) ?_ .unflushed
    exact Block.deeds_ended task stream channel.number stream.chunks (.flushed (.error e))

end Accounted

-- ========================================================== every stride

section

variable {t : Traffic (W × Journal ι) ι (Numbered κ) ρ} {blocks : List Block} {index : Nat}
  {task task' : Task ι (Numbered κ)} {s' : Situation (W × Journal ι) ι (Numbered κ) ρ}
  {p : Printer (StateM W) ι κ ρ}

/-- Where no job has its turn, the turns stay those of the blocks. -/
theorem Traffic.map_turn_of_ne (htask : t.tasks[index]? = some task)
    (hne : ∀ stream, task ≠ .prepared stream) {turns turns' : List (Nat × Stream)}
    (h : turns' = turns) :
    turns' = turns ++ (t.turn? (.step index : Traffic.Move ι E)).toList := by
  cases hturn : t.turn? (.step index : Traffic.Move ι E) with
  | none => exact h.trans (List.append_nil turns).symm
  | some turn =>
    obtain ⟨-, hprepared⟩ := Traffic.turn?_eq_some hturn
    rw [htask] at hprepared
    exact absurd (Option.some.inj hprepared) (hne turn.2)

/-- Whatever step a task takes, the blocks can be continued. -/
theorem accounted_stride (ha : Accounted t blocks) (htask : t.tasks[index]? = some task)
    (hfree : task.wantsSession = true → t.isFree = true)
    (hstride : Task.Stride p.journaled task (t.session, t.world) task' s') :
    ∃ blocks', blocks'.map Block.turn
        = blocks.map Block.turn ++ (t.turn? (.step index : Traffic.Move ι E)).toList
      ∧ Accounted ⟨s'.2, s'.1, t.tasks.set index task'⟩ blocks' := by
  cases hstride with
  | @unbound stream e _ _ hacts =>
    refine ⟨blocks ++ [⟨index, stream, 0, [], .nothing⟩], ?_,
      ha.takeTurn htask (hfree rfl) hacts rfl rfl .unbound nofun⟩
    rw [Traffic.turn?_prepared htask, List.map_append]
    rfl
  | @began stream channel _ _ hacts hchannel =>
    refine ⟨blocks ++ [⟨index, stream, channel.number, [], .nothing⟩], ?_,
      ha.takeTurn htask (hfree rfl) hacts rfl rfl (.writing (List.nil_append stream.chunks)) ?_⟩
    · rw [Traffic.turn?_prepared htask, List.map_append]
      rfl
    · intro channel' heq
      cases heq
      exact hchannel
  | quiet h hacts hconnection husable =>
    have hne : ∀ stream, task ≠ .prepared stream := by
      rintro stream rfl
      cases h
    exact ⟨blocks, Traffic.map_turn_of_ne htask hne rfl,
      ha.pass htask h.awaitsTurn h.channel? hfree hacts hconnection⟩
  | @prepared _ job stream _ _ w' hjob h =>
    have hacts := Printer.acts_stream (p := p.journaled) job t.session t.world
    rw [h] at hacts
    have hne : ∀ stream, task ≠ .prepared stream := by
      rintro stream rfl
      cases hjob
    exact ⟨blocks, Traffic.map_turn_of_ne htask hne rfl,
      ha.pass htask (Task.awaitsTurn_of_prepares? hjob) rfl hfree hacts fun _ => rfl⟩
  | sending =>
    obtain ⟨blocks', hturns, ha'⟩ := ha.sending htask
    exact ⟨blocks', Traffic.map_turn_of_ne htask nofun hturns, ha'⟩
  | sent hwrite =>
    obtain ⟨blocks', hturns, ha'⟩ := ha.sent htask hwrite
    exact ⟨blocks', Traffic.map_turn_of_ne htask nofun hturns, ha'⟩
  | broke hwrite =>
    obtain ⟨blocks', hturns, ha'⟩ := ha.broke htask hwrite
    exact ⟨blocks', Traffic.map_turn_of_ne htask nofun hturns, ha'⟩
  | flushed hflush =>
    obtain ⟨blocks', hturns, ha'⟩ := ha.flushed htask hflush
    exact ⟨blocks', Traffic.map_turn_of_ne htask nofun hturns, ha'⟩
  | unflushed hflush =>
    obtain ⟨blocks', hturns, ha'⟩ := ha.unflushed htask hflush
    exact ⟨blocks', Traffic.map_turn_of_ne htask nofun hturns, ha'⟩

/-- However operations are interleaved, the channels are asked for one block
after another, in the order of the turns. -/
theorem accounted [DecidableEq ι] {nature : E → W → W} {w : W}
    {moves : List (Traffic.Move ι E)}
    (h : (Traffic.none (w, .blank)).follow? p.journaled (Journal.beside nature) moves = some t) :
    ∃ blocks, blocks.map Block.turn
        = (Traffic.none (w, .blank)).turns p.journaled (Journal.beside nature) moves
      ∧ Accounted t blocks := by
  refine Traffic.follow_keep (P := fun moves t => ∃ blocks, blocks.map Block.turn
      = (Traffic.none (w, .blank)).turns p.journaled (Journal.beside nature) moves
    ∧ Accounted t blocks) (w, .blank) ?_ ?_ ?_ ?_ h
  · exact ⟨[], rfl, kept_fresh w, rfl, nofun, List.nodup_nil, nofun⟩
  · rintro moves t operation hfollow ⟨blocks, hturns, ha⟩
    refine ⟨blocks, ?_, ?_⟩
    · rw [Traffic.turns_snoc hfollow rfl, hturns]
      exact (List.append_nil _).symm
    · exact ha.start operation
  · rintro moves t change hfollow ⟨blocks, hturns, ha⟩
    refine ⟨blocks, ?_, ?_⟩
    · rw [Traffic.turns_snoc hfollow rfl, hturns]
      exact (List.append_nil _).symm
    · exact ⟨ha.kept, ha.transfers, ha.fits, ha.distinct, ha.holder⟩
  · rintro moves t index task task' s' hfollow hmove htask hfree hstride ⟨blocks, hturns, ha⟩
    obtain ⟨blocks', hturns', ha'⟩ := accounted_stride ha htask hfree hstride
    refine ⟨blocks', ?_, ha'⟩
    rw [hturns', hturns, Traffic.turns_snoc hfollow hmove]

end

-- ========================================================== what follows

namespace Block

variable {b : Block}

/-- A block says what was received. -/
theorem received_eq (b : Block) : (b.deeds : List (Deed ι)).filterMap Deed.received? = b.received := by
  have hsent : (b.sent.map fun chunk => (.wrote b.channel chunk (.ok ()) : Deed ι)).filterMap
      Deed.received? = b.received := by
    rw [List.filterMap_map]
    exact congrFun List.filterMap_eq_map b.sent
  unfold deeds
  rw [List.filterMap_append, hsent]
  cases b.ending <;> exact List.append_nil _

/-- A job that is done has written all of it. -/
theorem Fits.whole {reply : Reply} (h : b.Fits (.ended (.ok reply) : Task ι (Numbered κ))) :
    b.sent = b.stream.chunks := by
  cases h
  rfl

/-- A job that failed has written the beginning of it; all of it only if the
flush was what failed. -/
theorem Fits.part {e : PrinterError} (h : b.Fits (.ended (.error e) : Task ι (Numbered κ)))
    (hchunks : b.stream.chunks ≠ []) :
    b.sent <+: b.stream.chunks ∧ (b.sent = b.stream.chunks → b.ending = .flushed (.error e)) := by
  cases h with
  | unbound => exact ⟨List.nil_prefix, fun heq => absurd heq.symm hchunks⟩
  | unflushed => exact ⟨List.prefix_rfl, fun _ => rfl⟩
  | @broke task stream channel sent rest chunk e h =>
    -- the chunk that failed is missing
    refine ⟨⟨chunk :: rest, h⟩, fun heq => ?_⟩
    have hlength := congrArg List.length h
    rw [show sent = stream.chunks from heq, List.length_append, List.length_cons] at hlength
    omega

end Block

/-- There is always something to write. -/
theorem Printer.chunks_ne_nil {p : Printer (StateM W) ι κ ρ} {job : Job} {stream : Stream} {w : W}
    (h : (p.stream job w).1 = .ok stream) : stream.chunks ≠ [] := by
  cases job with
  | bytes content =>
    cases h
    exact List.cons_ne_nil _ _
  | markup text trailer =>
    cases h
    exact List.cons_ne_nil _ _
  | raw payload =>
    change (payloadBytes payload).map Stream.single = .ok stream at h
    cases hpayload : payloadBytes payload with
    | error e =>
      rw [hpayload] at h
      cases h
    | ok content =>
      rw [hpayload] at h
      cases h
      exact List.cons_ne_nil _ _
  | qr text size =>
    change (Qr.encode (utf8 text.toList) (p.settings.qrSide size) >>= fun symbol =>
      Raster.encode symbol (p.settings.qrSide size)) = .ok stream at h
    cases hsymbol : Qr.encode (utf8 text.toList) (p.settings.qrSide size) with
    | error e =>
      rw [hsymbol] at h
      cases h
    | ok symbol =>
      rw [hsymbol] at h
      exact Raster.chunks_ne_nil_of_encode h
  | image locator max =>
    change (p.imageStream locator max w).1 = .ok stream at h
    simp only [imageStream, bind, StateT.bind] at h
    rcases hfetch : p.fetch locator w with ⟨outcome, w'⟩
    rw [hfetch] at h
    cases outcome with
    | error e => cases h
    | ok picture => exact Raster.chunks_ne_nil_of_encode h

-- ============================================================= the result

/-- Print jobs do not mix, whatever goes on at the same time.

With a journal kept, every schedule leads to what it leads to without. The
chunks that were received, each with its channel, are then one block after
another, and so is all that was asked of the channels; the blocks are those
of the turns, in order, one for each job that had its turn. A block belongs
to one job and one channel and fits what has become of the job: all chunks
if the job is done, the first ones if it failed, all of them then only if
the flush failed. What was asked of a channel was asked while it was open. -/
theorem print_jobs_in_blocks [DecidableEq ι] (p : Printer (StateM W) ι κ ρ) (nature : E → W → W)
    (w : W) (moves : List (Traffic.Move ι E)) (u : Traffic W ι κ ρ)
    (h : (Traffic.none w).follow? p nature moves = some u) :
    ∃ (t : Traffic (W × Journal ι) ι (Numbered κ) ρ) (blocks : List Block),
      (Traffic.none (w, .blank)).follow? p.journaled (Journal.beside nature) moves = some t
      ∧ t.forget = u
      ∧ t.world.2.received = blocks.flatMap Block.received
      ∧ t.world.2.transfers = blocks.flatMap Block.deeds
      ∧ t.world.2.Orderly
      ∧ blocks.map Block.turn = (Traffic.none w).turns p nature moves
      ∧ (blocks.map Block.task).Nodup
      ∧ (∀ b ∈ blocks, b.stream.chunks ≠ []
        ∧ (∃ job, (Traffic.asked moves)[b.task]? = some (.print job)
          ∧ Traffic.Prepared p nature (.none w) moves b.task job b.stream)
        ∧ ∃ task, t.tasks[b.task]? = some task ∧ b.Fits task)
      ∧ ∀ (index : Nat) job, (Traffic.asked moves)[index]? = some (.print job) →
        (∀ reply, u.tasks[index]? = some (.ended (.ok reply)) →
          ∃ b ∈ blocks, b.task = index ∧ b.sent = b.stream.chunks)
        ∧ ∀ e, u.tasks[index]? = some (.ended (.error e)) → ∀ b ∈ blocks, b.task = index →
          b.sent <+: b.stream.chunks ∧ (b.sent = b.stream.chunks → b.ending = .flushed (.error e)) := by
  have hfollow := Traffic.follow?_forget p nature (.none (w, .blank)) moves
  have hblank : (Traffic.none (w, Journal.blank) : Traffic _ ι (Numbered κ) ρ).forget = .none w :=
    rfl
  rw [hblank, h] at hfollow
  obtain ⟨t, ht, rfl⟩ := Option.map_eq_some_iff.mp hfollow.symm
  obtain ⟨blocks, hturns, ha⟩ := accounted ht
  have ho := Traffic.origins h
  have hturns' : blocks.map Block.turn = (Traffic.none w).turns p nature moves := by
    rw [hturns, ← hblank, Traffic.turns_forget]
  have horigin : ∀ b ∈ blocks, ∃ job, (Traffic.asked moves)[b.task]? = some (.print job)
      ∧ Traffic.Prepared p nature (.none w) moves b.task job b.stream := by
    intro b hb
    refine ho.turn b.task b.stream ?_
    rw [← hturns']
    exact List.mem_map_of_mem hb
  have hchunks : ∀ b ∈ blocks, b.stream.chunks ≠ [] := by
    intro b hb
    obtain ⟨job, -, before, t', -, -, -, hstream⟩ := horigin b hb
    exact Printer.chunks_ne_nil hstream
  -- how a task has ended is known without the numbers of the channels
  have hended : ∀ {index : Nat} {outcome}, t.forget.tasks[index]? = some (.ended outcome) →
      t.tasks[index]? = some (.ended outcome) := by
    intro index outcome hindex
    rw [Traffic.tasks_forget] at hindex
    obtain ⟨task, htask, hmap⟩ := Option.map_eq_some_iff.mp hindex
    cases task <;> cases hmap
    exact htask
  refine ⟨t, blocks, ht, rfl, ?_, ha.transfers, ha.kept.orderly, hturns', ha.distinct, ?_, ?_⟩
  · rw [Journal.received_eq, ha.transfers, List.filterMap_flatMap]
    simp only [Block.received_eq]
  · intro b hb
    exact ⟨hchunks b hb, horigin b hb, ha.fits b hb⟩
  · intro index job hjob
    constructor
    · intro reply hindex
      -- a job that is done has had its turn
      have hended' := ho.task index _ hindex
      obtain ⟨stream, hturn⟩ := hended' job hjob
      rw [← hturns'] at hturn
      obtain ⟨b, hb, hturn⟩ := List.mem_map.mp hturn
      cases hturn
      obtain ⟨task, htask, hfits⟩ := ha.fits b hb
      rw [hended hindex] at htask
      cases htask
      exact ⟨b, hb, rfl, hfits.whole⟩
    · rintro e hindex b hb rfl
      obtain ⟨task, htask, hfits⟩ := ha.fits b hb
      rw [hended hindex] at htask
      cases htask
      exact hfits.part (hchunks b hb)

/-- Two jobs in memory, while the connection is to be closed. The one that
was started last has its turn first; the other one is prepared meanwhile,
and finds that writes fail. -/
theorem two_jobs_in_blocks :
    let p := Memory.printer .usb .default fun _ (f : Unit) => (.error .notConnected, f)
    let moves : List (Traffic.Move DeviceIdentity Memory.Provocation) :=
      [.start (.select (.usb ⟨1, 2⟩)), .step 0, .step 0, .start (.print (.bytes [7])),
        .start (.print (.bytes [8, 9])), .start .close, .step 2, .step 2, .step 1, .step 2, .step 2,
        .step 2, .step 1, .outside (.failWrites true), .step 1, .step 1, .step 3]
    ∃ u, (Traffic.none (.fresh .usb [⟨"till", .usb ⟨1, 2⟩⟩] false, ())).follow? p Memory.provoke
        moves = some u
      ∧ u.world.1.chunks = [[8, 9]]
      ∧ ∃ (t : Traffic _ DeviceIdentity (Numbered Nat) Memory.Request) (blocks : List Block),
        t.forget = u
        ∧ t.world.2.received = blocks.flatMap Block.received
        ∧ blocks.map Block.turn = [(2, ⟨[[8, 9]]⟩), (1, ⟨[[7]]⟩)] := by
  intro p moves
  have hfollow : ∃ u, (Traffic.none (.fresh .usb [⟨"till", .usb ⟨1, 2⟩⟩] false, ())).follow? p
      Memory.provoke moves = some u ∧ u.world.1.chunks = [[8, 9]] := ⟨_, rfl, rfl⟩
  have hturns : (Traffic.none (.fresh .usb [⟨"till", .usb ⟨1, 2⟩⟩] false, ())).turns p
      Memory.provoke moves = [(2, ⟨[[8, 9]]⟩), (1, ⟨[[7]]⟩)] := rfl
  obtain ⟨u, hu, hchunks⟩ := hfollow
  obtain ⟨t, blocks, -, hforget, hreceived, -, -, hblocks, -⟩ :=
    print_jobs_in_blocks p Memory.provoke _ moves u hu
  exact ⟨u, hu, hchunks, t, blocks, hforget, hreceived, hblocks.trans hturns⟩

end ReceiptPrinter
