/-
Traffic with a journal.

What goes on at a printer with a journal goes on at the printer without
one, too: the same moves are possible, and they lead to the same, but for
the journal and the numbers of the channels.
-/
import ReceiptPrinter.Proofs.Session.Journaled
import ReceiptPrinter.Proofs.Session.Stride

namespace ReceiptPrinter

open Step

variable {W ι κ ρ α β E : Type}

namespace Task

theorem holdsSession_mapChannel {κ' : Type} (f : κ → κ') (task : Task ι κ) :
    (task.mapChannel f).holdsSession = task.holdsSession := by
  cases task <;> rfl

theorem wantsSession_mapChannel {κ' : Type} (f : κ → κ') (task : Task ι κ) :
    (task.mapChannel f).wantsSession = task.wantsSession := by
  cases task <;> rfl

theorem hasEnded_mapChannel {κ' : Type} (f : κ → κ') (task : Task ι κ) :
    (task.mapChannel f).hasEnded = task.hasEnded := by
  cases task <;> rfl

/-- A step with a journal does what a step without one does. -/
def Follows (x : StateT (Session ι (Numbered κ) ρ) (StateM (W × Journal ι)) (Task ι (Numbered κ)))
    (y : StateT (Session ι κ ρ) (StateM W) (Task ι κ)) : Prop :=
  ∀ s : Situation (W × Journal ι) ι (Numbered κ) ρ,
    eval y s.forget = ((eval x s).1.mapChannel Numbered.channel, (eval x s).2.forget)

theorem follows_after {f : α → β} {x : Step (StateM (W × Journal ι)) ι (Numbered κ) ρ α}
    {y : Step (StateM W) ι κ ρ β} (h : Mirrors Prod.fst Numbered.channel f x y)
    {next : α → Task ι (Numbered κ)} {next' : β → Task ι κ}
    (hnext : ∀ a, next' (f a) = (next a).mapChannel Numbered.channel) :
    Follows (after x next) (after y next') := by
  intro s
  have hs : Step.eval y s.forget = ((Step.eval x s).1.map f, (Step.eval x s).2.forget) := h s
  rw [eval_after, eval_after, hs]
  rcases Step.eval x s with ⟨outcome, s'⟩
  cases outcome with
  | error e => rfl
  | ok a =>
    show (next' (f a), s'.forget) = _
    rw [hnext]

variable (p : Printer (StateM W) ι κ ρ)

theorem follows_afterWrite {effect : StateM (W × Journal ι) (Outcome Unit)}
    {effect' : StateM W (Outcome Unit)}
    (h : ∀ w j, effect' w = ((effect (w, j)).1, (effect (w, j)).2.1))
    (next : Task ι (Numbered κ)) :
    Follows (afterWrite p.journaled effect next)
      (afterWrite p effect' (next.mapChannel Numbered.channel)) := by
  intro s
  obtain ⟨⟨initialized, c⟩, w, j⟩ := s
  rw [eval_afterWrite, eval_afterWrite]
  have heffect : effect' (Situation.forget ((⟨initialized, c⟩ : Session ι (Numbered κ) ρ),
      (w, j))).2 = ((effect (w, j)).1, (effect (w, j)).2.1) := h w j
  rw [heffect]
  rcases effect (w, j) with ⟨result, w', j'⟩
  cases result with
  | ok _ => rfl
  | error e => cases c <;> rfl

theorem follows_run [DecidableEq ι] (operation : Operation ι) :
    Follows (do return ended (← p.journaled.run operation)) (do return ended (← p.run operation)) := by
  intro s
  have hrespond := Printer.respond_journaled p operation s
  rw [Printer.respond_eq_eval, Printer.respond_eq_eval] at hrespond
  rw [eval_run, eval_run, hrespond]
  rfl

theorem follows_stream (job : Job) :
    Follows (κ := κ) (ρ := ρ) (after (Printer.attempt (p.journaled.stream job)) .prepared)
      (after (Printer.attempt (p.stream job)) .prepared) :=
  follows_after (mirrors_attempt (Printer.shows_stream p.imitates_journaled job).mapped)
    fun _ => rfl

/-- Every step of a task is the same with a journal as without. -/
theorem follows_step [DecidableEq ι] (task : Task ι (Numbered κ)) :
    Follows (task.step p.journaled) ((task.mapChannel Numbered.channel).step p) := by
  cases task with
  | started operation =>
    cases operation with
    | init => exact follows_run p .init
    | list => exact follows_run p .list
    | close => exact follows_run p .close
    | closeIf id => exact follows_run p (.closeIf id)
    | status => exact follows_run p .status
    | select id => exact follows_after (Printer.mirrors_ensureInit p.imitates_journaled) fun _ => rfl
    | print job =>
      show Follows (if job.isCostly then _ else _) (if job.isCostly then _ else _)
      by_cases hcostly : job.isCostly = true
      · rw [if_pos hcostly, if_pos hcostly]
        exact follows_after (Printer.mirrors_preflight p.imitates_journaled) fun _ => rfl
      · rw [if_neg hcostly, if_neg hcostly]
        exact follows_stream p job
  | selecting id => exact follows_after (Printer.mirrors_bindDevice p.imitates_journaled id) fun _ => rfl
  | preparing job => exact follows_stream p job
  | prepared stream => exact follows_after (Printer.mirrors_channel p.imitates_journaled) fun _ => rfl
  | writing channel chunks =>
    cases chunks with
    | cons chunk rest => exact fun _ => rfl
    | nil => exact follows_afterWrite p (fun _ _ => rfl) (ended (.ok .done))
  | sending channel chunk rest =>
    exact follows_afterWrite p (fun _ _ => rfl) (writing channel rest)
  | ended outcome => exact fun _ => rfl

end Task

namespace Traffic

theorem tasks_forget (t : Traffic (W × Journal ι) ι (Numbered κ) ρ) (index : Nat) :
    t.forget.tasks[index]? = t.tasks[index]?.map (Task.mapChannel Numbered.channel) :=
  List.getElem?_map

theorem isFree_forget (t : Traffic (W × Journal ι) ι (Numbered κ) ρ) :
    t.forget.isFree = t.isFree := by
  show (t.tasks.map _).all _ = t.tasks.all _
  rw [List.all_map]
  exact congrArg (List.all t.tasks) (funext fun task => by
    simp only [Function.comp, Task.holdsSession_mapChannel])

variable [DecidableEq ι] (p : Printer (StateM W) ι κ ρ)

theorem step?_forget (t : Traffic (W × Journal ι) ι (Numbered κ) ρ) (index : Nat) :
    t.forget.step? p index = (t.step? p.journaled index).map forget := by
  rw [step?_eq, step?_eq, tasks_forget]
  cases htask : t.tasks[index]? with
  | none => rfl
  | some task =>
    have hmay : t.forget.mayStep (task.mapChannel Numbered.channel) = t.mayStep task := by
      unfold mayStep
      rw [isFree_forget, Task.hasEnded_mapChannel, Task.wantsSession_mapChannel]
    have hstep := Task.follows_step p task (t.session, t.world)
    show (if t.forget.mayStep (task.mapChannel Numbered.channel) = true then _ else _)
      = Option.map forget (if t.mayStep task = true then _ else _)
    rw [hmay]
    by_cases h : t.mayStep task = true
    · rw [if_pos h, if_pos h]
      have hsituation : (t.forget.session, t.forget.world)
          = Situation.forget (t.session, t.world) := rfl
      rw [hsituation, hstep]
      simp only [Option.map_some, forget, List.map_set, Situation.forget]
    · rw [if_neg h, if_neg h]
      rfl

theorem move?_forget (nature : E → W → W) (t : Traffic (W × Journal ι) ι (Numbered κ) ρ)
    (move : Move ι E) :
    t.forget.move? p nature move
      = (t.move? p.journaled (Journal.beside nature) move).map forget := by
  cases move with
  | start operation =>
    show some _ = some _
    simp [start, forget, Task.mapChannel]
  | outside change => rfl
  | step index => exact step?_forget p t index

theorem follow?_forget (nature : E → W → W) (t : Traffic (W × Journal ι) ι (Numbered κ) ρ)
    (moves : List (Move ι E)) :
    t.forget.follow? p nature moves
      = (t.follow? p.journaled (Journal.beside nature) moves).map forget := by
  induction moves generalizing t with
  | nil => rfl
  | cons move rest ih =>
    simp only [follow?]
    rw [move?_forget]
    cases h : t.move? p.journaled (Journal.beside nature) move with
    | none => rfl
    | some t' => exact ih t'

theorem turns_forget (nature : E → W → W) (t : Traffic (W × Journal ι) ι (Numbered κ) ρ)
    (moves : List (Move ι E)) :
    t.forget.turns p nature moves = t.turns p.journaled (Journal.beside nature) moves := by
  induction moves generalizing t with
  | nil => rfl
  | cons move rest ih =>
    have hturn : t.forget.turn? move = t.turn? move := by
      cases move with
      | start operation => rfl
      | outside change => rfl
      | step index =>
        simp only [turn?, tasks_forget]
        cases t.tasks[index]? with
        | none => rfl
        | some task => cases task <;> rfl
    simp only [turns]
    rw [move?_forget, hturn]
    cases h : t.move? p.journaled (Journal.beside nature) move with
    | none => rfl
    | some t' =>
      show _ ++ t'.forget.turns p nature rest = _
      rw [ih t']

end Traffic

end ReceiptPrinter
