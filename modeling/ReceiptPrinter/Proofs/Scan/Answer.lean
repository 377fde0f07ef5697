/-
Triggers promise more than they can keep.

A run that begins is refused exactly if another run has the right to sweep
at that moment (`begins`). A trigger asks the same of an earlier moment. So
the answer false is always right, and the answer true is right unless
another run gets in between: `Station.fate` follows the run that was
promised, through any schedule.
-/
import ReceiptPrinter.Proofs.Scan.Bracket
import ReceiptPrinter.Scan.Answer

namespace ReceiptPrinter.Scan

variable {plan : Plan} {account : Account} {s : Station}

-- ============================================================== beginnings

/-- While the flag is set, some run has the right to sweep. -/
theorem Guarded.exists_holds (hg : Guarded s) (ha : Accounted plan account s)
    (hrunning : s.scanner.running = true) : ∃ run, account.Holds run := by
  obtain ⟨run, phase, hphase, hholds, -⟩ := hg.held hrunning
  exact ⟨run, (ha.holds_iff run).mpr ⟨phase, hphase, hholds⟩⟩

/-- While it is not set, no run has. -/
theorem Guarded.not_holds (hg : Guarded s) (ha : Accounted plan account s)
    (hfree : s.scanner.running = false) (run : Nat) : ¬ account.Holds run := by
  intro hholds
  obtain ⟨phase, hphase, hholds⟩ := (ha.holds_iff run).mp hholds
  rw [hg.free hfree run phase hphase] at hholds
  cases hholds

/-- A run was refused only while another one had the right to sweep, and got
the right only while no run had it. -/
structure Account.Begins (account : Account) : Prop where
  refused : ∀ (front : Account) run rest, account = front ++ (run, .refused) :: rest →
    ∃ other, front.Holds other
  claimed : ∀ (front : Account) run rest, account = front ++ (run, .claimed) :: rest →
    ∀ other, ¬ front.Holds other

/-- An entry is among the earlier ones or among the later ones. -/
theorem eq_append_cons_cases {α : Type} {first second front rest : List α} {a : α}
    (h : first ++ second = front ++ a :: rest) :
    (∃ rest', first = front ++ a :: rest')
      ∨ ∃ more, front = first ++ more ∧ second = more ++ a :: rest := by
  rcases List.append_eq_append_iff.mp h with ⟨more, hfront, hsecond⟩ | ⟨more, hfirst, hsecond⟩
  · exact .inr ⟨more, hfront, hsecond⟩
  · cases more with
    | nil => exact .inr ⟨[], by simpa using hfirst.symm, hsecond.symm⟩
    | cons b more =>
      obtain ⟨rfl, -⟩ := List.cons.inj hsecond
      exact .inl ⟨more, hfirst⟩

/-- A run that begins does just that, as the flag tells it. -/
theorem Stride.beginning {phase phase' : Phase} {scanner scanner' : Scanner} {deeds : List Deed}
    (hs : Stride plan scanner phase deeds phase' scanner') :
    (.refused ∈ deeds → deeds = [.refused] ∧ scanner.running = true)
      ∧ (.claimed ∈ deeds → deeds = [.claimed] ∧ scanner.running = false) := by
  cases hs with
  | claimed hfree => exact ⟨by simp, fun _ => ⟨rfl, hfree⟩⟩
  | refused hrunning => exact ⟨fun _ => ⟨rfl, hrunning⟩, by simp⟩
  | started | nowhere | located | probed | resolved | cleared | finished | unbegun | abandoned =>
    simp

/-- A deed that is done alone is done after all before. -/
theorem alone_of_eq_append {index run : Nat} {deed : Deed} {deeds : List Deed} {more rest : Account}
    (h : deeds.map (index, ·) = more ++ (run, deed) :: rest) :
    deed ∈ deeds ∧ (deeds = [deed] → more = []) := by
  constructor
  · have hmem : (run, deed) ∈ deeds.map (index, ·) := by
      rw [h]
      exact List.mem_append_right _ List.mem_cons_self
    obtain ⟨_, hdeed, heq⟩ := List.mem_map.mp hmem
    cases heq
    exact hdeed
  · rintro rfl
    cases more with
    | nil => rfl
    | cons entry more => simp at h

theorem Account.Begins.stride {index : Nat} {phase phase' : Phase} {scanner : Scanner}
    {deeds : List Deed} (hb : account.Begins) (ha : Accounted plan account s) (hg : Guarded s)
    (hs : Stride plan s.scanner phase deeds phase' scanner) :
    Account.Begins (account ++ deeds.map (index, ·)) := by
  obtain ⟨hrefused, hclaimed⟩ := hs.beginning
  constructor
  · intro front run rest h
    rcases eq_append_cons_cases h with ⟨rest', hbefore⟩ | ⟨more, rfl, hdeeds⟩
    · exact hb.refused front run rest' hbefore
    · obtain ⟨hmem, hfirst⟩ := alone_of_eq_append hdeeds
      rw [hfirst (hrefused hmem).1, List.append_nil]
      exact hg.exists_holds ha (hrefused hmem).2
  · intro front run rest h
    rcases eq_append_cons_cases h with ⟨rest', hbefore⟩ | ⟨more, rfl, hdeeds⟩
    · exact hb.claimed front run rest' hbefore
    · obtain ⟨hmem, hfirst⟩ := alone_of_eq_append hdeeds
      rw [hfirst (hclaimed hmem).1, List.append_nil]
      exact hg.not_holds ha (hclaimed hmem).2

/-- In every schedule, runs begin as the right to sweep has it. -/
theorem begins {moves : List Move} (h : Station.fresh.follow? plan moves = some s) :
    (Station.fresh.account plan moves).Begins := by
  have hall : Accounted plan (Station.fresh.account plan moves) s ∧ Guarded s
      ∧ (Station.fresh.account plan moves).Begins := by
    apply Station.account_keep (P := fun account s =>
      Accounted plan account s ∧ Guarded s ∧ Account.Begins account) _ _ _ h
    · exact ⟨.fresh plan, .fresh, by simp, by simp⟩
    · intro account s ⟨ha, hg, hb⟩
      exact ⟨ha.started, hg.started, hb⟩
    · intro account s index phase deeds phase' scanner ⟨ha, hg, hb⟩ hphase hs
      exact ⟨ha.stride hphase hs, hg.stride hphase hs, hb.stride ha hg hs⟩
  exact hall.2.2

-- ================================================================ grants

namespace Station

variable {moves : List Move} {s' : Station} {move : Move}

theorem trigger_of_running (h : s.scanner.running = true) : s.trigger = (false, s) :=
  if_pos h

theorem trigger_of_free (h : s.scanner.running = false) : s.trigger = (true, s.started) :=
  if_neg (by rw [h]; exact Bool.false_ne_true)

theorem mem_grants_iff {run : Nat} :
    run ∈ s.grants move ↔ move = .trigger ∧ s.trigger.1 = true ∧ run = s.background.length := by
  cases move with
  | trigger => simp [grants]
  | run | step | answer | abandon => simp [grants]

theorem grants_nodup : (s.grants move).Nodup := by
  cases move with
  | trigger =>
    show (if s.trigger.1 = true then [s.background.length] else []).Nodup
    split <;> simp
  | run | step | answer | abandon => exact List.nodup_nil

theorem granted_append (moves more : List Move) :
    s.granted plan (moves ++ more)
      = s.granted plan moves
        ++ ((s.follow? plan moves).elim [] fun s' => s'.granted plan more) := by
  induction moves generalizing s with
  | nil => rfl
  | cons move rest ih =>
    simp only [List.cons_append, granted, follow?]
    cases s.move? plan move with
    | none => rfl
    | some s' =>
      show _ ++ s'.granted plan (rest ++ more) = _
      rw [ih, ← List.append_assoc]
      rfl

/-- No move takes a run away. -/
theorem length_le_of_move? (h : s.move? plan move = some s') :
    s.background.length ≤ s'.background.length := by
  rcases move?_cases h with ⟨-, rfl | rfl⟩ | ⟨index, _, _, phase', scanner, -, -, -, rfl⟩
  · unfold started
    rw [List.length_append]
    exact Nat.le_add_right _ 1
  · exact Nat.le_refl _
  · unfold setRun
    exact Nat.le_of_eq List.length_set.symm

theorem length_le_of_follow? (h : s.follow? plan moves = some s') :
    s.background.length ≤ s'.background.length := by
  induction moves generalizing s with
  | nil =>
    cases h
    exact Nat.le_refl _
  | cons move rest ih =>
    obtain ⟨s₁, hmove, hrest⟩ := Option.bind_eq_some_iff.mp h
    exact Nat.le_trans (length_le_of_move? hmove) (ih hrest)

/-- A trigger that answers true adds a run. -/
theorem lt_of_trigger (htrue : s.trigger.1 = true) (h : s.move? plan .trigger = some s') :
    s.background.length < s'.background.length := by
  cases hrunning : s.scanner.running with
  | true =>
    rw [trigger_of_running hrunning] at htrue
    cases htrue
  | false =>
    rw [move?, trigger_of_free hrunning] at h
    cases h
    simp [started]

/-- No run is granted twice, for each is new when it is granted. -/
theorem granted_nodup (h : fresh.follow? plan moves = some s) :
    (∀ run ∈ fresh.granted plan moves, run < s.background.length)
      ∧ (fresh.granted plan moves).Nodup := by
  -- one move after another
  induction moves using List.reverseRecOn generalizing s with
  | nil => exact ⟨nofun, List.nodup_nil⟩
  | append_singleton moves move ih =>
    rw [follow?_append] at h
    obtain ⟨s₁, h₁, hmove⟩ := Option.bind_eq_some_iff.mp h
    obtain ⟨s₂, hmove, hs₂⟩ := Option.bind_eq_some_iff.mp hmove
    cases hs₂
    obtain ⟨hold, hnodup⟩ := ih h₁
    have hgranted : fresh.granted plan (moves ++ [move])
        = fresh.granted plan moves ++ s₁.grants move := by
      rw [granted_append, h₁]
      simp only [Option.elim_some, granted, hmove, List.append_nil]
    have hnew : ∀ run ∈ s₁.grants move,
        run = s₁.background.length ∧ run < s.background.length := by
      intro run hrun
      obtain ⟨rfl, htrue, rfl⟩ := mem_grants_iff.mp hrun
      exact ⟨rfl, lt_of_trigger htrue hmove⟩
    rw [hgranted]
    constructor
    · intro run hrun
      rcases List.mem_append.mp hrun with hrun | hrun
      · exact Nat.lt_of_lt_of_le (hold run hrun) (length_le_of_move? hmove)
      · exact (hnew run hrun).2
    · refine List.nodup_append.mpr ⟨hnodup, grants_nodup, fun run hrun last hlast heq => ?_⟩
      have hlt := hold run hrun
      rw [heq, (hnew last hlast).1] at hlt
      exact Nat.lt_irrefl _ hlt

end Station

-- ================================================================= fates

/-- What a run has done first. -/
theorem Course.first {deeds : List Deed} {phase : Phase} (h : Course plan deeds phase) :
    deeds = [] ∨ deeds = [.abandoned] ∨ deeds = [.refused]
      ∨ (.claimed ∈ deeds ∧ (.announced (.scannerRunning true) ∈ deeds ∨ deeds = [.claimed])) := by
  cases h with
  | idle => exact .inl rfl
  | unbegun => exact .inr (.inl rfl)
  | refused => exact .inr (.inr (.inl rfl))
  | claimed => exact .inr (.inr (.inr ⟨List.mem_cons_self, .inr rfl⟩))
  | inquiring | cleared | finished => exact .inr (.inr (.inr ⟨by simp, .inl (by simp)⟩))

/-- Who has the right now, but had it not earlier, has got it since. -/
theorem Account.Holds.late {earlier more : Account} {run : Nat}
    (h : Account.Holds (earlier ++ more) run) (hfree : ¬ earlier.Holds run) :
    .claimed ∉ earlier.of run := by
  intro hclaimed
  have hcleared : .cleared ∉ earlier.of run := by
    intro hcleared
    apply h.2
    rw [Account.of_append]
    exact List.mem_append_left _ hcleared
  exact hfree ⟨hclaimed, hcleared⟩

/-- A deed of a run that had done nothing earlier is done later. -/
theorem Account.exists_of_append {earlier more front rest : Account} {run : Nat} {deed : Deed}
    (h : earlier ++ more = front ++ (run, deed) :: rest) (hnew : earlier.of run = []) :
    ∃ mid, front = earlier ++ mid := by
  rcases eq_append_cons_cases h with ⟨rest', hbefore⟩ | ⟨mid, hfront, -⟩
  · have hmem : deed ∈ earlier.of run := by
      rw [Account.mem_of, hbefore]
      exact List.mem_append_right _ List.mem_cons_self
    rw [hnew] at hmem
    cases hmem
  · exact ⟨mid, hfront⟩

namespace Station

variable {before after : List Move} {s₀ : Station}

theorem lt_of_granted (h : fresh.follow? plan (before ++ .trigger :: after) = some s)
    (h₀ : fresh.follow? plan before = some s₀) (htrue : s₀.trigger.1 = true) :
    s₀.background.length < s.background.length := by
  rw [follow?_append, h₀, Option.bind_some] at h
  obtain ⟨s₁, htrigger, hafter⟩ := Option.bind_eq_some_iff.mp h
  exact Nat.lt_of_lt_of_le (lt_of_trigger htrue htrigger) (length_le_of_follow? hafter)

/-- The run of a trigger that answers true is among those granted. -/
theorem mem_granted (h : fresh.follow? plan (before ++ .trigger :: after) = some s)
    (h₀ : fresh.follow? plan before = some s₀) (htrue : s₀.trigger.1 = true) :
    s₀.background.length ∈ fresh.granted plan (before ++ .trigger :: after) := by
  rw [follow?_append, h₀, Option.bind_some] at h
  obtain ⟨s₁, htrigger, -⟩ := Option.bind_eq_some_iff.mp h
  rw [granted_append, h₀, Option.elim_some, granted, htrigger]
  apply List.mem_append_right
  apply List.mem_append_left
  exact mem_grants_iff.mpr ⟨rfl, htrue, rfl⟩

/-- What has become of a run that a trigger has started. -/
theorem fate (h : fresh.follow? plan (before ++ .trigger :: after) = some s)
    (h₀ : fresh.follow? plan before = some s₀) (hfree : s₀.scanner.running = false) :
    Account.Fate (fresh.account plan before) (fresh.account plan (before ++ .trigger :: after))
      s₀.background.length := by
  have hb := begins h
  have hlt := lt_of_granted h h₀ (by rw [trigger_of_free hfree])
  have hcourse := (accounted h).course _ _ (List.getElem?_eq_getElem hlt)
  rcases hcourse.first with hdeeds | hdeeds | hdeeds | ⟨hclaimed, hstarts⟩
  · exact .waiting hdeeds
  · exact .dropped hdeeds
  · have hrefused := Account.mem_of.mp (hdeeds ▸ List.mem_singleton_self Deed.refused)
    obtain ⟨front, rest, hbegan⟩ := List.append_of_mem hrefused
    obtain ⟨other, hholds⟩ := hb.refused front _ rest hbegan
    refine .forestalled hdeeds hbegan ?_ hholds ?_
    · -- the run itself never gets the right
      rintro rfl
      have hclaimed : (s₀.background.length, Deed.claimed)
          ∈ fresh.account plan (before ++ .trigger :: after) := by
        rw [hbegan]
        exact List.mem_append_left _ (Account.mem_of.mp hholds.1)
      rw [← Account.mem_of, hdeeds] at hclaimed
      cases List.mem_singleton.mp hclaimed
    · have hnew := (accounted h₀).unstarted _ (Nat.le_refl s₀.background.length)
      obtain ⟨mid, rfl⟩ := Account.exists_of_append ((account_append _ _ _).symm.trans hbegan) hnew
      exact hholds.late ((guarded h₀).not_holds (accounted h₀) hfree other)
  · obtain ⟨front, rest, hbegan⟩ := List.append_of_mem (Account.mem_of.mp hclaimed)
    exact .claimed hbegan (hb.claimed front _ rest hbegan) hstarts

end Station

-- =============================================================== counting

/-- A run that has ended has announced a start, or it was refused, or it was
given up before it began, and only one of these. -/
theorem Accounted.ended_cases (ha : Accounted plan account s) {run : Nat}
    {result : Option (List NetIdentity)} (hphase : s.background[run]? = some (.ended result)) :
    (account.Starts run ∧ account.of run ≠ [.refused] ∧ account.of run ≠ [.abandoned])
      ∨ (¬ account.Starts run ∧ account.of run = [.refused] ∧ account.of run ≠ [.abandoned])
      ∨ (¬ account.Starts run ∧ account.of run ≠ [.refused] ∧ account.of run = [.abandoned]) := by
  have hcourse := ha.course run _ hphase
  unfold Account.Starts
  generalize account.of run = deeds at hcourse
  cases hcourse with
  | refused => exact .inr (.inl (by decide))
  | unbegun => exact .inr (.inr (by decide))
  | inquiring h => cases h
  | finished h => exact .inl (by simp)

/-- So among runs that have ended these are the counts. -/
theorem Accounted.length_eq_of_ended (ha : Accounted plan account s)
    (hended : ∀ phase ∈ s.background, ∃ result, phase = .ended result) {runs : List Nat}
    (hruns : ∀ run ∈ runs, run < s.background.length) :
    runs.length = runs.countP (fun run => account.Starts run)
      + runs.countP (fun run => account.of run = [.refused])
      + runs.countP (fun run => account.of run = [.abandoned]) := by
  induction runs with
  | nil => rfl
  | cons run rest ih =>
    rw [List.forall_mem_cons] at hruns
    obtain ⟨result, hphase⟩ := hended _ (List.getElem_mem hruns.1)
    have hrun := ha.ended_cases ((List.getElem?_eq_getElem hruns.1).trans (congrArg some hphase))
    simp only [List.length_cons, List.countP_cons, ih hruns.2, decide_eq_true_eq]
    rcases hrun with ⟨h₁, h₂, h₃⟩ | ⟨h₁, h₂, h₃⟩ | ⟨h₁, h₂, h₃⟩
    · rw [if_pos h₁, if_neg h₂, if_neg h₃]
      omega
    · rw [if_neg h₁, if_pos h₂, if_neg h₃]
      omega
    · rw [if_neg h₁, if_neg h₂, if_pos h₃]
      omega

/-- The answers of triggers, in every schedule: with triggers and runs at any
time, the steps of all runs in any order, and any run given up where it
waits.

A trigger answers false exactly while a run has the right to sweep, and then
it starts nothing. If it answers true, it starts a run that is like no
other; and unless this run is given up before it begins, it gets the right
to sweep and announces its start, if no run has the right when it begins; it
is refused, if another run has got the right between the answer and this
moment. When all runs have ended, the answers true are as many as the sweeps
started by triggers and the runs of triggers that were refused or given up
before they began. -/
theorem answers_of_triggers (plan : Plan) (moves : List Move) (s : Station)
    (h : Station.fresh.follow? plan moves = some s) :
    let account := Station.fresh.account plan moves
    let granted := Station.fresh.granted plan moves
    (∀ before after, moves = before ++ .trigger :: after →
      ∃ s₀, Station.fresh.follow? plan before = some s₀ ∧
        let earlier := Station.fresh.account plan before
        (((∃ other, earlier.Holds other) ∧ s₀.trigger = (false, s₀))
          ∨ ((∀ other, ¬ earlier.Holds other) ∧ s₀.trigger = (true, s₀.started)
            ∧ s₀.background.length ∈ granted
            ∧ Account.Fate earlier account s₀.background.length)))
      ∧ granted.Nodup
      ∧ ((∀ phase ∈ s.background, ∃ result, phase = .ended result) →
          granted.length = granted.countP (fun run => account.Starts run)
            + granted.countP (fun run => account.of run = [.refused])
            + granted.countP (fun run => account.of run = [.abandoned])) := by
  intro account granted
  obtain ⟨hruns, hnodup⟩ := Station.granted_nodup h
  refine ⟨?_, hnodup, fun hended => (accounted h).length_eq_of_ended hended hruns⟩
  rintro before after rfl
  have hbefore := h
  rw [Station.follow?_append] at hbefore
  obtain ⟨s₀, h₀, -⟩ := Option.bind_eq_some_iff.mp hbefore
  refine ⟨s₀, h₀, ?_⟩
  cases hrunning : s₀.scanner.running with
  | true =>
    exact .inl ⟨(guarded h₀).exists_holds (accounted h₀) hrunning,
      Station.trigger_of_running hrunning⟩
  | false =>
    have hanswer := Station.trigger_of_free hrunning
    exact .inr ⟨(guarded h₀).not_holds (accounted h₀) hrunning, hanswer,
      Station.mem_granted h h₀ (congrArg Prod.fst hanswer), Station.fate h h₀ hrunning⟩

/-- The run of the first trigger has begun when the second trigger comes,
which starts nothing. -/
theorem one_answer_true :
    let plan : Plan := ⟨[], 1⟩
    let lan : Lan := ⟨some none, fun _ _ => false⟩
    let moves : List Move :=
      [.trigger, .step 0 lan, .trigger, .step 0 lan, .step 0 lan, .step 0 lan, .step 0 lan]
    ∃ s, Station.fresh.follow? plan moves = some s
      ∧ (Station.fresh.granted plan moves).length = 1
      ∧ (Station.fresh.granted plan moves).countP
          (fun run => (Station.fresh.account plan moves).Starts run) = 1
      ∧ ∀ s₀, Station.fresh.follow? plan [.trigger, .step 0 lan] = some s₀ →
          s₀.trigger = (false, s₀) := by
  intro plan lan moves
  obtain ⟨s, hs, hbackground⟩ : ∃ s, Station.fresh.follow? plan moves = some s
      ∧ s.background = [.ended none] := ⟨_, rfl, rfl⟩
  obtain ⟨hanswers, -, hcount⟩ := answers_of_triggers plan moves s hs
  have hended : ∀ phase ∈ s.background, ∃ result, phase = .ended result := by
    rw [hbackground]
    exact List.forall_mem_singleton.mpr ⟨none, rfl⟩
  refine ⟨s, hs, rfl, (hcount hended).symm.trans rfl, fun s₀ h₀ => ?_⟩
  obtain ⟨s₁, h₁, hanswer⟩ := hanswers [.trigger, .step 0 lan] _ rfl
  cases h₀.symm.trans h₁
  rcases hanswer with ⟨-, hfalse⟩ | ⟨hnobody, -⟩
  · exact hfalse
  · exact absurd (by decide) (hnobody 0)

/-- Two triggers before the run of the first one has begun: both answer true,
and the run of the second one is refused. Nobody has given it up, and there
is one sweep for two answers. -/
theorem two_answers_one_sweep :
    let plan : Plan := ⟨[], 1⟩
    let lan : Lan := ⟨some none, fun _ _ => false⟩
    let moves : List Move :=
      [.trigger, .trigger, .step 0 lan, .step 0 lan, .step 1 lan, .step 0 lan, .step 0 lan,
        .step 0 lan]
    ∃ s, Station.fresh.follow? plan moves = some s
      ∧ s.background = [.ended none, .ended none]
      ∧ Station.fresh.trigger.1 = true ∧ Station.fresh.trigger.2.trigger.1 = true
      ∧ Station.fresh.granted plan moves = [0, 1]
      ∧ (Station.fresh.account plan moves).of 1 = [.refused]
      ∧ ¬ (Station.fresh.account plan moves).Starts 1
      ∧ s.scanner.announced
        = [.scannerRunning true, .registerError noAddress, .scannerRunning false] := by
  intro plan lan moves
  exact ⟨_, rfl, rfl, rfl, rfl, rfl, rfl, by decide, rfl⟩

end ReceiptPrinter.Scan
