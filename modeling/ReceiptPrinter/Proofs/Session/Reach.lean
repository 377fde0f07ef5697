/-
Wherever a printer can come to.

Operations may be done one after another, or be under way at the same time;
the world may change by itself between their steps. In either case session
and world go through acts, transfers and changes from outside, and through
nothing else, so that what each of these keeps holds in every situation a
printer can come to (`Reaches.keep`).

For operations under way at the same time this rests on `Traffic.Held`: a
task that holds the session writes to the open channel, and no other task
holds the session meanwhile.
-/
import ReceiptPrinter.Proofs.Session.Binding
import ReceiptPrinter.Proofs.Session.Course

namespace ReceiptPrinter

variable {W ι κ ρ E : Type}

/-- A printer can come to a situation, by operations one after another or by
operations under way at the same time, at a moment when nobody holds the
session. -/
def Printer.Reaches [DecidableEq ι] (p : Printer (StateM W) ι κ ρ) (nature : E → W → W) (w : W)
    (s : Situation W ι κ ρ) : Prop :=
  (∃ life, p.live nature (.fresh w) life = s)
    ∨ ∃ moves t, (Traffic.none w).follow? p nature moves = some t ∧ t.isFree = true
      ∧ (t.session, t.world) = s

namespace Traffic

-- ================================================= who holds the session

/-- Who holds the session writes to the open channel, and is the only one
who does. -/
structure Held (t : Traffic W ι κ ρ) : Prop where
  channel : ∀ (index : Nat) task channel, t.tasks[index]? = some task →
    task.channel? = some channel → t.session.connection.channel? = some channel
  sole : ∀ (index other : Nat) task task' channel channel', t.tasks[index]? = some task →
    t.tasks[other]? = some task' → task.channel? = some channel →
    task'.channel? = some channel' → other = index

variable {t : Traffic W ι κ ρ} {index : Nat} {task task' : Task ι κ} {s' : Situation W ι κ ρ}

theorem held_none (w : W) : (none w : Traffic W ι κ ρ).Held := by
  constructor
  · intro index task channel htask
    cases htask
  · intro index other task task' channel channel' htask
    cases htask

/-- A task that was only started holds nothing. -/
theorem Held.start (h : t.Held) (operation : Operation ι) : (t.start operation).Held := by
  -- so whoever holds the session did so before
  have hold : ∀ {index : Nat} {task : Task ι κ} {channel},
      (t.start operation).tasks[index]? = some task → task.channel? = some channel →
        t.tasks[index]? = some task := by
    intro index task channel htask hchannel
    rcases tasks_start htask with htask | ⟨-, rfl⟩
    · exact htask
    · cases hchannel
  constructor
  · intro index task channel htask hchannel
    exact h.channel index task channel (hold htask hchannel) hchannel
  · intro index other task task' channel channel' htask hother hchannel hchannel'
    exact h.sole index other task task' channel channel' (hold htask hchannel)
      (hold hother hchannel') hchannel hchannel'

/-- A task comes further. It may hold the session afterwards if nobody else
does; and whoever else holds it has the channel left open. -/
theorem Held.set (h : t.Held)
    (hown : ∀ channel, task'.channel? = some channel → s'.1.connection.channel? = some channel)
    (hothers : ∀ other task₁ channel, other ≠ index → t.tasks[other]? = some task₁ →
      task₁.channel? = some channel →
      s'.1.connection.channel? = t.session.connection.channel? ∧ task'.channel? = Option.none) :
    (⟨s'.2, s'.1, t.tasks.set index task'⟩ : Traffic W ι κ ρ).Held := by
  constructor
  · intro other task₁ channel hother hchannel
    rcases tasks_set hother with ⟨-, rfl⟩ | ⟨hne, hother⟩
    · exact hown channel hchannel
    · have hopen := (hothers other task₁ channel hne hother hchannel).1
      exact hopen.trans (h.channel other task₁ channel hother hchannel)
  · intro i j task₁ task₂ channel channel' hi hj hchannel hchannel'
    rcases tasks_set hi with ⟨rfl, rfl⟩ | ⟨hne, htask⟩
    · rcases tasks_set hj with ⟨rfl, -⟩ | ⟨hne', htask'⟩
      · rfl
      · have hfree := (hothers j task₂ channel' hne' htask' hchannel').2
        rw [hfree] at hchannel
        cases hchannel
    · rcases tasks_set hj with ⟨rfl, rfl⟩ | ⟨-, htask'⟩
      · have hfree := (hothers i task₁ channel hne htask hchannel).2
        rw [hfree] at hchannel'
        cases hchannel'
      · exact h.sole i j task₁ task₂ channel channel' htask htask' hchannel hchannel'

/-- Beside a task that holds the session nobody else holds it. -/
theorem Held.alone (h : t.Held) {channel : κ} (htask : t.tasks[index]? = some task)
    (hholds : task.channel? = some channel) {P : Prop} :
    ∀ other task₁ channel₁, other ≠ index → t.tasks[other]? = some task₁ →
      task₁.channel? = some channel₁ → P := by
  intro other task₁ channel₁ hne hother hchannel
  exact absurd (h.sole index other task task₁ channel channel₁ htask hother hholds hchannel) hne

/-- While nobody holds the session, nobody else does. -/
theorem nobody_of_isFree (hfree : t.isFree = true) {P : Prop} :
    ∀ other task₁ channel, other ≠ index → t.tasks[other]? = some task₁ →
      task₁.channel? = some channel → P := by
  intro other task₁ channel hne hother hchannel
  rw [channel?_of_isFree hfree hother] at hchannel
  cases hchannel

-- ============================================================ invariants

section

variable {p : Printer (StateM W) ι κ ρ} {nature : E → W → W} {P : Situation W ι κ ρ → Prop}

/-- A task that comes further does so by acts and transfers. -/
theorem Held.stride (hact : ∀ {s s'}, Act p s s' → P s → P s')
    (htransfer : ∀ {s s'}, Transfer p s s' → P s → P s') (h : t.Held)
    (htask : t.tasks[index]? = some task) (hfree : task.wantsSession = true → t.isFree = true)
    (hstride : Task.Stride p task (t.session, t.world) task' s') (hP : P (t.session, t.world)) :
    (⟨s'.2, s'.1, t.tasks.set index task'⟩ : Traffic W ι κ ρ).Held ∧ P s' := by
  have hacts : ∀ {s₁ s₂}, Acts p s₁ s₂ → P s₁ → P s₂ := fun hacts =>
    Doings.keep hact htransfer hacts.doings
  cases hstride with
  | quiet hquiet hrow hconnection husable =>
    have hnone := hquiet.channel?
    refine ⟨h.set (fun channel hchannel => ?_) ?_, hacts hrow hP⟩
    · rw [hnone] at hchannel
      cases hchannel
    · -- whoever else holds the session: the step did without it
      intro other task₁ channel hne hother hchannel
      refine ⟨?_, hnone⟩
      have hwants : task.wantsSession = false := by
        by_contra hwants
        rw [channel?_of_isFree (hfree (Bool.not_eq_false _ ▸ hwants)) hother] at hchannel
        cases hchannel
      rw [hconnection hwants]
  | @prepared _ job stream session w w' hjob hstream =>
    have hrow := Printer.acts_stream (p := p) job t.session t.world
    rw [hstream] at hrow
    exact ⟨h.set nofun fun _ _ _ _ _ _ => ⟨rfl, rfl⟩, hacts hrow hP⟩
  | unbound hrow => exact ⟨h.set nofun (nobody_of_isFree (hfree rfl)), hacts hrow hP⟩
  | began hrow hopen =>
    refine ⟨h.set (fun channel hchannel => ?_) (nobody_of_isFree (hfree rfl)), hacts hrow hP⟩
    cases hchannel
    exact hopen
  | sending =>
    refine ⟨h.set (fun channel hchannel => ?_) (h.alone htask rfl), hP⟩
    cases hchannel
    exact h.channel index _ _ htask rfl
  | sent hwrite =>
    have hopen := h.channel index _ _ htask rfl
    refine ⟨h.set (fun channel hchannel => ?_) (h.alone htask rfl),
      htransfer (.ofWrite hopen hwrite) hP⟩
    cases hchannel
    exact hopen
  | broke hwrite =>
    have hopen := h.channel index _ _ htask rfl
    exact ⟨h.set nofun (h.alone htask rfl),
      hact (.ofHangUp hopen _) (htransfer (.ofWrite hopen hwrite) hP)⟩
  | flushed hflush =>
    have hopen := h.channel index _ _ htask rfl
    exact ⟨h.set nofun (h.alone htask rfl), htransfer (.ofFlush hopen hflush) hP⟩
  | unflushed hflush =>
    have hopen := h.channel index _ _ htask rfl
    exact ⟨h.set nofun (h.alone htask rfl),
      hact (.ofHangUp hopen _) (htransfer (.ofFlush hopen hflush) hP)⟩

/-- What each act, each transfer and each change from outside keeps, a whole
schedule keeps. -/
theorem follow_held [DecidableEq ι] (hact : ∀ {s s'}, Act p s s' → P s → P s')
    (htransfer : ∀ {s s'}, Transfer p s s' → P s → P s')
    (houtside : ∀ {session w} change, P (session, w) → P (session, nature change w))
    {w : W} (hfresh : P (.fresh w)) {moves : List (Move ι E)}
    (h : (Traffic.none w).follow? p nature moves = some t) : t.Held ∧ P (t.session, t.world) := by
  refine follow_keep (P := fun _ t => t.Held ∧ P (t.session, t.world)) w ?_ ?_ ?_ ?_ h
  · exact ⟨held_none w, hfresh⟩
  · rintro moves t operation - ⟨hheld, hP⟩
    exact ⟨hheld.start operation, hP⟩
  · rintro moves t change - ⟨hheld, hP⟩
    exact ⟨⟨hheld.channel, hheld.sole⟩, houtside change hP⟩
  · rintro moves t index task task' s' - - htask hfree hstride ⟨hheld, hP⟩
    exact hheld.stride hact htransfer htask hfree hstride hP

end

end Traffic

/-- What each act, each transfer and each change from outside keeps holds
wherever the printer can come to. -/
theorem Printer.Reaches.keep [DecidableEq ι] {p : Printer (StateM W) ι κ ρ} {nature : E → W → W}
    {w : W} {s : Situation W ι κ ρ} (h : p.Reaches nature w s) {P : Situation W ι κ ρ → Prop}
    (hact : ∀ {s s'}, Act p s s' → P s → P s')
    (htransfer : ∀ {s s'}, Transfer p s s' → P s → P s')
    (houtside : ∀ {session w} change, P (session, w) → P (session, nature change w))
    (hfresh : P (.fresh w)) : P s := by
  rcases h with ⟨life, rfl⟩ | ⟨moves, t, hfollow, -, rfl⟩
  · exact Printer.live_keep hact htransfer houtside life hfresh
  · exact (Traffic.follow_held hact htransfer houtside hfresh hfollow).2

/-- Wherever a printer can come to, a session is bound only on a transport
that was found usable. -/
theorem Printer.sound_reaches [DecidableEq ι] {p : Printer (StateM W) ι κ ρ} {nature : E → W → W}
    {w : W} {s : Situation W ι κ ρ} (h : p.Reaches nature w s) : s.1.Sound :=
  h.keep (P := fun s => s.1.Sound) sound_act sound_transfer (fun _ hs => hs)
    fun hc => absurd rfl hc

/-- So it is after every schedule, also while somebody holds the session. -/
theorem Traffic.sound_follow [DecidableEq ι] {p : Printer (StateM W) ι κ ρ} {nature : E → W → W}
    {w : W} {moves : List (Move ι E)} {t : Traffic W ι κ ρ}
    (h : (Traffic.none w).follow? p nature moves = some t) : t.session.Sound := by
  refine (follow_held (P := fun s => s.1.Sound) Printer.sound_act Printer.sound_transfer ?_
    (fun hc => absurd rfl hc) h).2
  intro session world change hs
  exact hs

/-- And so it stays in every life. -/
theorem Printer.sound_live [DecidableEq ι] (p : Printer (StateM W) ι κ ρ) (nature : E → W → W)
    (life : List (Happening ι E)) {s : Situation W ι κ ρ} (hs : s.1.Sound) :
    (p.live nature s life).1.Sound := by
  refine live_keep (P := fun s => s.1.Sound) sound_act sound_transfer ?_ life hs
  intro session world change hs
  exact hs

/-- Wherever a printer can come to, the record of a connection is that of the
device it is bound to, if the transport is faithful. -/
theorem Printer.described_reaches [DecidableEq ι] {p : Printer (StateM W) ι κ ρ}
    {nature : E → W → W} {w : W} {s : Situation W ι κ ρ} (hb : p.backend.Faithful)
    (h : p.Reaches nature w s) : s.1.connection.Described p.backend.narrow :=
  h.keep (P := fun s => s.1.connection.Described p.backend.narrow) (described_act hb)
    described_transfer (fun _ hs => hs) trivial

end ReceiptPrinter
