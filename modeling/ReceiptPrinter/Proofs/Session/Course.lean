/-
The course of a schedule.

What holds at the beginning and is kept by every move holds after every
schedule: `follow_keep` says so once, and hands each step of a task over as
a stride. With it, every task and every turn can be traced back to the
operation that was started for it, and what a job writes to the moment at
which the job was prepared.
-/
import ReceiptPrinter.Proofs.Session.Stride
import Mathlib.Data.List.Induction

namespace ReceiptPrinter

namespace Traffic

variable {W ι κ ρ E : Type}

-- ============================================================= the tasks

theorem asked_append (moves more : List (Move ι E)) :
    asked (moves ++ more) = asked moves ++ asked more :=
  List.filterMap_append

theorem asked_old {moves : List (Move ι E)} {index : Nat} (h : index < (asked moves).length)
    (move : Move ι E) : (asked (moves ++ [move]))[index]? = (asked moves)[index]? := by
  rw [asked_append, List.getElem?_append_left h]

/-- A task after another one has been started. -/
theorem tasks_start {t : Traffic W ι κ ρ} {operation : Operation ι} {index : Nat}
    {task : Task ι κ} (h : (t.start operation).tasks[index]? = some task) :
    t.tasks[index]? = some task ∨ index = t.tasks.length ∧ task = .started operation := by
  unfold start at h
  rcases Nat.lt_trichotomy index t.tasks.length with hlt | heq | hgt
  · rw [List.getElem?_append_left hlt] at h
    exact .inl h
  · subst heq
    rw [List.getElem?_concat_length] at h
    exact .inr ⟨rfl, (Option.some.inj h).symm⟩
  · -- there is no task behind the new one
    rw [List.getElem?_eq_none (by rw [List.length_append, List.length_singleton]; omega)] at h
    cases h

/-- A task after one of them has come further. -/
theorem tasks_set {tasks : List (Task ι κ)} {index other : Nat} {task task' : Task ι κ}
    (h : (tasks.set index task')[other]? = some task) :
    other = index ∧ task = task' ∨ other ≠ index ∧ tasks[other]? = some task := by
  by_cases heq : other = index
  · subst heq
    obtain ⟨hlt, h⟩ := List.getElem?_eq_some_iff.mp h
    rw [List.getElem_set_self] at h
    exact .inl ⟨rfl, h.symm⟩
  · rw [List.getElem?_set_ne (Ne.symm heq)] at h
    exact .inr ⟨heq, h⟩

/-- While nobody holds the session, nobody is writing. -/
theorem channel?_of_isFree {t : Traffic W ι κ ρ} {index : Nat} {task : Task ι κ}
    (hfree : t.isFree = true) (htask : t.tasks[index]? = some task) : task.channel? = Option.none := by
  have hmem := List.mem_of_getElem? htask
  have hholds := List.all_eq_true.mp hfree task hmem
  simpa [Task.holdsSession] using hholds

/-- A turn begins when a task whose job is prepared takes a step. -/
theorem turn?_prepared {t : Traffic W ι κ ρ} {index : Nat} {stream : Stream}
    (htask : t.tasks[index]? = some (.prepared stream)) :
    t.turn? (.step index : Move ι E) = some (index, stream) := by
  unfold turn?
  simp only [htask]

/-- Only then does a turn begin. -/
theorem turn?_eq_some {t : Traffic W ι κ ρ} {index : Nat} {turn : Nat × Stream}
    (h : t.turn? (.step index : Move ι E) = some turn) :
    turn.1 = index ∧ t.tasks[index]? = some (.prepared turn.2) := by
  unfold turn? at h
  simp only at h
  split at h
  · next stream htask =>
    cases h
    exact ⟨rfl, htask⟩
  · cases h

section

variable [DecidableEq ι] {p : Printer (StateM W) ι κ ρ} {nature : E → W → W}

-- ================================================= one move after another

theorem follow?_append (t : Traffic W ι κ ρ) (moves more : List (Move ι E)) :
    t.follow? p nature (moves ++ more)
      = (t.follow? p nature moves).bind fun t' => t'.follow? p nature more := by
  induction moves generalizing t with
  | nil => rfl
  | cons move rest ih =>
    simp only [List.cons_append, follow?]
    cases h : t.move? p nature move with
    | none => rfl
    | some t' => exact ih t'

/-- A schedule of one move more is possible if the schedule is, and then the
move. -/
theorem follow?_snoc {t t' : Traffic W ι κ ρ} {moves : List (Move ι E)} {move : Move ι E}
    (h : t.follow? p nature (moves ++ [move]) = some t') :
    ∃ t₁, t.follow? p nature moves = some t₁ ∧ t₁.move? p nature move = some t' := by
  rw [follow?_append] at h
  obtain ⟨t₁, h₁, hmove⟩ := Option.bind_eq_some_iff.mp h
  refine ⟨t₁, h₁, ?_⟩
  simp only [follow?] at hmove
  obtain ⟨t₂, h₂, hlast⟩ := Option.bind_eq_some_iff.mp hmove
  cases hlast
  exact h₂

/-- The turns of a longer schedule begin with those of a shorter one. -/
theorem turns_append (t : Traffic W ι κ ρ) (moves more : List (Move ι E)) :
    t.turns p nature (moves ++ more)
      = t.turns p nature moves
        ++ ((t.follow? p nature moves).elim [] fun t' => t'.turns p nature more) := by
  induction moves generalizing t with
  | nil => rfl
  | cons move rest ih =>
    simp only [List.cons_append, turns, follow?]
    cases h : t.move? p nature move with
    | none => rfl
    | some t' =>
      show _ ++ t'.turns p nature (rest ++ more) = _
      rw [ih t', List.append_assoc]
      rfl

theorem turns_snoc {t t₁ t' : Traffic W ι κ ρ} {moves : List (Move ι E)} {move : Move ι E}
    (h : t.follow? p nature moves = some t₁) (hmove : t₁.move? p nature move = some t') :
    t.turns p nature (moves ++ [move]) = t.turns p nature moves ++ (t₁.turn? move).toList := by
  rw [turns_append, h]
  simp only [turns, hmove, List.append_nil, Option.elim]

theorem step?_eq_some {t t' : Traffic W ι κ ρ} {index : Nat} (h : t.step? p index = some t') :
    ∃ task, t.tasks[index]? = some task ∧ t.mayStep task = true
      ∧ t' = ⟨(Task.eval (task.step p) (t.session, t.world)).2.2,
          (Task.eval (task.step p) (t.session, t.world)).2.1,
          t.tasks.set index (Task.eval (task.step p) (t.session, t.world)).1⟩ := by
  rw [step?_eq] at h
  obtain ⟨task, htask, h⟩ := Option.bind_eq_some_iff.mp h
  by_cases hmay : t.mayStep task = true
  · rw [if_pos hmay] at h
    exact ⟨task, htask, hmay, (Option.some.inj h).symm⟩
  · rw [if_neg hmay] at h
    cases h

-- ============================================================ invariants

/-- What holds at the beginning and is kept by every move holds after every
schedule. A step that needs the session is taken while nobody holds it. -/
theorem follow_keep {P : List (Move ι E) → Traffic W ι κ ρ → Prop} (w : W)
    (hnone : P [] (.none w))
    (hstart : ∀ {moves t} operation, (Traffic.none w).follow? p nature moves = some t →
      P moves t → P (moves ++ [.start operation]) (t.start operation))
    (houtside : ∀ {moves t} change, (Traffic.none w).follow? p nature moves = some t →
      P moves t → P (moves ++ [.outside change]) { t with world := nature change t.world })
    (hstep : ∀ {moves t index task task' s'}, (Traffic.none w).follow? p nature moves = some t →
      t.move? p nature (.step index) = some ⟨s'.2, s'.1, t.tasks.set index task'⟩ →
      t.tasks[index]? = some task → (task.wantsSession = true → t.isFree = true) →
      Task.Stride p task (t.session, t.world) task' s' → P moves t →
      P (moves ++ [.step index]) ⟨s'.2, s'.1, t.tasks.set index task'⟩)
    {moves : List (Move ι E)} {t : Traffic W ι κ ρ}
    (h : (Traffic.none w).follow? p nature moves = some t) : P moves t := by
  -- a task that is about to bind a device knows the transport to be usable
  have hboth : P moves t ∧ ∀ (index : Nat) id, t.tasks[index]? = some (.selecting id) →
      t.session.initialized = true := by
    induction moves using List.reverseRecOn generalizing t with
    | nil =>
      cases h
      exact ⟨hnone, nofun⟩
    | append_singleton moves move ih =>
      obtain ⟨t₁, h₁, hmove⟩ := follow?_snoc h
      obtain ⟨hP, husable⟩ := ih h₁
      cases move with
      | start operation =>
        cases hmove
        refine ⟨hstart operation h₁ hP, fun index id hindex => ?_⟩
        rcases tasks_start hindex with hindex | ⟨-, htask⟩
        · exact husable index id hindex
        · cases htask
      | outside change =>
        cases hmove
        exact ⟨houtside change h₁ hP, husable⟩
      | step index =>
        obtain ⟨task, htask, hmay, ht⟩ := step?_eq_some hmove
        subst ht
        simp only [mayStep, Bool.and_eq_true, Bool.or_eq_true, Bool.not_eq_true'] at hmay
        obtain ⟨hend, hfree⟩ := hmay
        have hinit : ∀ id, task = .selecting id → t₁.session.initialized = true := by
          intro id heq
          subst heq
          exact husable index id htask
        have hstride := Task.stride_step (p := p) (s := (t₁.session, t₁.world)) hend hinit
        refine ⟨hstep h₁ hmove htask ?_ hstride hP, fun other id hother => ?_⟩
        · intro hwants
          rcases hfree with hfree | hwaits
          · exact hfree
          · rw [hwants] at hwaits
            cases hwaits
        · rcases tasks_set hother with ⟨-, heq⟩ | ⟨-, hother⟩
          · rw [← heq] at hstride
            exact hstride.usable
          · exact hstride.initialized (husable other id hother)
  exact hboth.1

end

-- ============================================================== origins

section

variable [DecidableEq ι] (p : Printer (StateM W) ι κ ρ) (nature : E → W → W) (w : W)

/-- Where a task comes from: from the operation that was started with its
number, and in what it writes from the preparation of a job. -/
def Origin (moves : List (Move ι E)) (index : Nat) : Task ι κ → Prop
  | .started operation => (asked moves)[index]? = some operation
  | .selecting id => (asked moves)[index]? = some (.select id)
  | .preparing job => (asked moves)[index]? = some (.print job)
  | .prepared stream =>
    ∃ job, (asked moves)[index]? = some (.print job)
      ∧ Prepared p nature (.none w) moves index job stream
  | .writing _ _ | .sending _ _ _ =>
    ∃ stream, (index, stream) ∈ (Traffic.none w).turns p nature moves
  | .ended (.ok _) =>
    ∀ job, (asked moves)[index]? = some (.print job) →
      ∃ stream, (index, stream) ∈ (Traffic.none w).turns p nature moves
  | .ended (.error _) => True

/-- Every task and every turn has its origin. -/
structure Origins (moves : List (Move ι E)) (t : Traffic W ι κ ρ) : Prop where
  length : t.tasks.length = (asked moves).length
  task : ∀ (index : Nat) task, t.tasks[index]? = some task → Origin p nature w moves index task
  turn : ∀ index stream, (index, stream) ∈ (Traffic.none w).turns p nature moves →
    ∃ job, (asked moves)[index]? = some (.print job)
      ∧ Prepared p nature (.none w) moves index job stream

variable {p nature w} {moves : List (Move ι E)} {move : Move ι E} {t : Traffic W ι κ ρ}

theorem Prepared.mono {index : Nat} {job : Job} {stream : Stream}
    (h : Prepared p nature t moves index job stream) :
    Prepared p nature t (moves ++ [move]) index job stream := by
  obtain ⟨before, t', hprefix, hrest⟩ := h
  exact ⟨before, t', hprefix.trans (List.prefix_append moves [move]), hrest⟩

theorem turns_mono {turn : Nat × Stream}
    (h : turn ∈ t.turns p nature moves) : turn ∈ t.turns p nature (moves ++ [move]) := by
  rw [turns_append]
  exact List.mem_append_left _ h

theorem Origin.mono {index : Nat} {task : Task ι κ} (hindex : index < (asked moves).length)
    (h : Origin p nature w moves index task) :
    Origin p nature w (moves ++ [move]) index task := by
  have hasked := asked_old hindex move
  cases task with
  | started operation => exact hasked.trans h
  | selecting id => exact hasked.trans h
  | preparing job => exact hasked.trans h
  | prepared stream =>
    obtain ⟨job, hjob, hprepared⟩ := h
    exact ⟨job, hasked.trans hjob, hprepared.mono⟩
  | writing channel chunks =>
    obtain ⟨stream, hturn⟩ := h
    exact ⟨stream, turns_mono hturn⟩
  | sending channel chunk rest =>
    obtain ⟨stream, hturn⟩ := h
    exact ⟨stream, turns_mono hturn⟩
  | ended outcome =>
    cases outcome with
    | error e => trivial
    | ok reply =>
      intro job hjob
      obtain ⟨stream, hturn⟩ := h job (hasked.symm.trans hjob)
      exact ⟨stream, turns_mono hturn⟩

/-- What is prepared in a stride comes from the job that was asked for. -/
theorem Origin.of_prepares? {index : Nat} {task : Task ι κ} {job : Job}
    (h : Origin p nature w moves index task) (hjob : task.prepares? = some job) :
    (asked moves)[index]? = some (.print job) := by
  cases task with
  | started operation =>
    cases operation with
    | print job' =>
      change (if job'.isCostly then Option.none else some job') = some job at hjob
      by_cases hcostly : job'.isCostly = true
      · rw [if_pos hcostly] at hjob
        cases hjob
      · rw [if_neg hcostly] at hjob
        cases hjob
        exact h
    | _ => cases hjob
  | preparing job' =>
    cases hjob
    exact h
  | _ => cases hjob

/-- A task that has come further still has its origin. -/
theorem Origin.stride {index : Nat} {task task' : Task ι κ}
    {s' : Situation W ι κ ρ} (hfollow : (Traffic.none w).follow? p nature moves = some t)
    (hmove : t.move? p nature (.step index) = some ⟨s'.2, s'.1, t.tasks.set index task'⟩)
    (htask : t.tasks[index]? = some task) (hindex : index < (asked moves).length)
    (h : Origin p nature w moves index task)
    (hstride : Task.Stride p task (t.session, t.world) task' s') :
    Origin p nature w (moves ++ [.step index]) index task' := by
  have hasked := asked_old hindex (.step index)
  cases hstride with
  | quiet hquiet hacts hconnection husable =>
    cases hquiet with
    | usable => exact hasked.trans h
    | checked => exact hasked.trans h
    | @answered operation reply hprint =>
      -- what was answered without a turn was no print job
      intro job hjob
      rw [hasked, (h : (asked moves)[index]? = some operation)] at hjob
      exact absurd (Option.some.inj hjob) (hprint job)
    | @selected id record =>
      intro job hjob
      rw [hasked, (h : (asked moves)[index]? = some (.select id))] at hjob
      cases hjob
    | failed => trivial
    | unselected => trivial
    | unprepared => trivial
  | @prepared _ job stream _ _ w' hjob hstream =>
    refine ⟨job, hasked.trans (h.of_prepares? hjob), moves, t, List.prefix_rfl, hfollow, ?_, ?_⟩
    · rw [htask]
      exact hjob
    · rw [hstream]
  | unbound hacts => trivial
  | @began stream channel _ _ hacts hchannel =>
    refine ⟨stream, ?_⟩
    rw [turns_snoc hfollow hmove, turn?_prepared htask]
    exact List.mem_append_right _ (List.mem_singleton_self _)
  | sending => exact h.imp fun _ => turns_mono
  | sent hsent => exact h.imp fun _ => turns_mono
  | broke hbroke => trivial
  | flushed hflushed => exact fun _ _ => h.imp fun _ => turns_mono
  | unflushed hunflushed => trivial

namespace Origins

variable {t' : Traffic W ι κ ρ}

theorem index_lt (ho : Origins p nature w moves t) {index : Nat} {task : Task ι κ}
    (htask : t.tasks[index]? = some task) : index < (asked moves).length := by
  obtain ⟨hlt, -⟩ := List.getElem?_eq_some_iff.mp htask
  rw [← ho.length]
  exact hlt

/-- A turn that begins now has its origin, as those before have theirs. -/
theorem turn_snoc (ho : Origins p nature w moves t)
    (hfollow : (Traffic.none w).follow? p nature moves = some t)
    (hmove : t.move? p nature move = some t') {index : Nat} {stream : Stream}
    (hturn : (index, stream) ∈ (Traffic.none w).turns p nature (moves ++ [move])) :
    ∃ job, (asked (moves ++ [move]))[index]? = some (.print job)
      ∧ Prepared p nature (.none w) (moves ++ [move]) index job stream := by
  -- in either case the job was prepared before this move
  have hold : ∃ job, (asked moves)[index]? = some (.print job)
      ∧ Prepared p nature (.none w) moves index job stream := by
    rw [turns_snoc hfollow hmove] at hturn
    rcases List.mem_append.mp hturn with hturn | hturn
    · exact ho.turn index stream hturn
    · cases move with
      | start operation => cases hturn
      | outside change => cases hturn
      | step i =>
        obtain ⟨hindex, htask⟩ := turn?_eq_some (Option.mem_toList.mp hturn)
        subst hindex
        exact ho.task index (.prepared stream) htask
  obtain ⟨job, hjob, hprepared⟩ := hold
  have hindex := (List.getElem?_eq_some_iff.mp hjob).1
  exact ⟨job, (asked_old hindex move).trans hjob, hprepared.mono⟩

end Origins

/-- Whatever the schedule, every task and every turn has its origin. -/
theorem origins (h : (Traffic.none w).follow? p nature moves = some t) :
    Origins p nature w moves t := by
  refine follow_keep (P := Origins p nature w) w ?_ ?_ ?_ ?_ h
  · refine ⟨rfl, nofun, ?_⟩
    intro index stream hturn
    cases hturn
  · intro moves t operation hfollow ho
    refine ⟨?_, ?_, fun _ _ hturn => ho.turn_snoc hfollow rfl hturn⟩
    · rw [asked_append, List.length_append, ← ho.length]
      exact List.length_append
    · intro index task htask
      rcases tasks_start htask with htask | ⟨rfl, rfl⟩
      · exact (ho.task index task htask).mono (ho.index_lt htask)
      · show (asked (moves ++ [.start operation]))[t.tasks.length]? = some operation
        rw [asked_append, ho.length]
        exact List.getElem?_concat_length
  · intro moves t change hfollow ho
    refine ⟨?_, ?_, fun _ _ hturn => ho.turn_snoc hfollow rfl hturn⟩
    · rw [asked_append]
      show t.tasks.length = (asked moves ++ []).length
      rw [List.append_nil]
      exact ho.length
    · intro index task htask
      exact (ho.task index task htask).mono (ho.index_lt htask)
  · intro moves t index task task' s' hfollow hmove htask hfree hstride ho
    refine ⟨?_, ?_, fun _ _ hturn => ho.turn_snoc hfollow hmove hturn⟩
    · rw [asked_append, List.length_set]
      show t.tasks.length = (asked moves ++ []).length
      rw [List.append_nil]
      exact ho.length
    · intro other task'' hother
      rcases tasks_set hother with ⟨rfl, rfl⟩ | ⟨hne, hother⟩
      · exact (ho.task other task htask).stride hfollow hmove htask (ho.index_lt htask) hstride
      · exact (ho.task other task'' hother).mono (ho.index_lt hother)

end

end Traffic

end ReceiptPrinter
