/-
Sweeps are announced one after another, unless one starts too early.

A run lets others sweep again before it announces its own end. In between,
another run may announce its start. `brackets_unless_overtaken` says that
this is the only way in which the brackets of announcements can get mixed
up, and `late_end` that it happens. The invariant is `InOrder`: as long as
no run was overtaken, at most one run is inside its bracket, and the
announcements stand where its own stand.
-/
import ReceiptPrinter.Proofs.Scan.Protocol
import ReceiptPrinter.Scan.Bracket

namespace ReceiptPrinter.Scan

open Net (Address)

-- ============================================================== brackets

theorem stage?_append (events more : List Event) :
    stage? (events ++ more) = (stage? events).bind fun stage => more.foldlM Stage.after? stage :=
  List.foldlM_append

theorem stage?_concat (events : List Event) (e : Event) :
    stage? (events ++ [e]) = (stage? events).bind (·.after? e) := by
  simp [stage?_append]

/-- Everything that an announcement can do in its place. -/
theorem Stage.after?_cases {stage stage' : Stage} {e : Event} (h : stage.after? e = some stage') :
    stage = .closed ∧ e = .scannerRunning true ∧ stage' = .opened
      ∨ stage = .opened ∧ isWord e = true ∧ stage' = .told
      ∨ stage ≠ .closed ∧ e = .scannerRunning false ∧ stage' = .closed := by
  unfold after? at h
  split at h
  · exact .inl ⟨rfl, rfl, (Option.some.inj h).symm⟩
  · exact .inr (.inl ⟨rfl, rfl, (Option.some.inj h).symm⟩)
  · exact .inr (.inl ⟨rfl, rfl, (Option.some.inj h).symm⟩)
  · exact .inr (.inr ⟨nofun, rfl, (Option.some.inj h).symm⟩)
  · exact .inr (.inr ⟨nofun, rfl, (Option.some.inj h).symm⟩)
  · cases h

theorem Stage.after?_word {e : Event} (h : isWord e = true) :
    opened.after? e = some told := by
  cases e <;> first | rfl | cases h

theorem Stage.after?_end {stage : Stage} (h : stage ≠ .closed) :
    stage.after? (.scannerRunning false) = some .closed := by
  cases stage with
  | closed => exact absurd rfl h
  | opened => rfl
  | told => rfl

theorem Stage.after?_start {stage : Stage} (h : stage ≠ .closed) :
    stage.after? (.scannerRunning true) = none := by
  cases stage with
  | closed => exact absurd rfl h
  | opened => rfl
  | told => rfl

/-- What announcements that stand at a stage end with. -/
def Stage.Ending : Stage → List Event → Prop
  | closed, last => last = []
  | opened, last => last = [.scannerRunning true]
  | told, last => ∃ word, isWord word = true ∧ last = [.scannerRunning true, word]

theorem Stage.Ending.isOpenBracket {stage : Stage} {last : List Event} (h : stage.Ending last)
    (hstage : stage ≠ .closed) : IsOpenBracket last := by
  cases stage with
  | closed => exact absurd rfl hstage
  | opened => exact ⟨[], h, Nat.zero_le 1, nofun⟩
  | told =>
    obtain ⟨word, hword, rfl⟩ := h
    exact ⟨[word], rfl, Nat.le_refl 1, fun e he => List.mem_singleton.mp he ▸ hword⟩

/-- Wherever announcements stand, they are in brackets, and end as they have
to there. -/
theorem brackets_of_stage? {events : List Event} {stage : Stage} (h : stage? events = some stage) :
    ∃ (brackets : List (List Event)) (last : List Event),
      events = (brackets.map (· ++ [Event.scannerRunning false])).flatten ++ last
        ∧ (∀ bracket ∈ brackets, IsOpenBracket bracket) ∧ stage.Ending last := by
  induction events using List.reverseRecOn generalizing stage with
  | nil =>
    cases h
    exact ⟨[], [], rfl, nofun, rfl⟩
  | append_singleton events e ih =>
    rw [stage?_concat] at h
    obtain ⟨before, hbefore, hafter⟩ := Option.bind_eq_some_iff.mp h
    obtain ⟨brackets, last, rfl, hbrackets, hending⟩ := ih hbefore
    rcases Stage.after?_cases hafter with ⟨rfl, rfl, rfl⟩ | ⟨rfl, hword, rfl⟩ | ⟨hopen, rfl, rfl⟩
    · -- a bracket is opened
      refine ⟨brackets, [.scannerRunning true], ?_, hbrackets, rfl⟩
      rw [show last = [] from hending, List.append_nil]
    · -- the word is given
      refine ⟨brackets, [.scannerRunning true, e], ?_, hbrackets, e, hword, rfl⟩
      rw [show last = [.scannerRunning true] from hending, List.append_assoc]
      rfl
    · -- the bracket is closed
      refine ⟨brackets ++ [last], [], ?_, fun bracket hbracket => ?_, rfl⟩
      · simp
      · rcases List.mem_append.mp hbracket with hbracket | hbracket
        · exact hbrackets bracket hbracket
        · exact List.mem_singleton.mp hbracket ▸ hending.isOpenBracket hopen

/-- A bracket without its end leads into it. -/
theorem IsOpenBracket.opens {bracket : List Event} (h : IsOpenBracket bracket) :
    ∃ stage, stage? bracket = some stage ∧ stage ≠ .closed := by
  obtain ⟨words, rfl, hlength, hwords⟩ := h
  match words, hlength with
  | [], _ => exact ⟨.opened, rfl, nofun⟩
  | [word], _ =>
    refine ⟨.told, ?_, nofun⟩
    rw [← List.singleton_append, stage?_concat]
    exact Stage.after?_word (hwords word (List.mem_singleton_self word))

/-- Complete brackets lead from one to the next. -/
theorem stage?_flatten {brackets : List (List Event)}
    (h : ∀ bracket ∈ brackets, IsOpenBracket bracket) :
    stage? (brackets.map (· ++ [Event.scannerRunning false])).flatten = some .closed := by
  induction brackets with
  | nil => rfl
  | cons bracket rest ih =>
    obtain ⟨stage, hstage, hopen⟩ := (h bracket List.mem_cons_self).opens
    have hfirst : stage? (bracket ++ [Event.scannerRunning false]) = some .closed := by
      rw [stage?_concat, hstage]
      exact Stage.after?_end hopen
    rw [List.map_cons, List.flatten_cons, stage?_append, hfirst]
    exact ih fun bracket hmem => h bracket (List.mem_cons_of_mem _ hmem)

/-- Announcements are in brackets exactly if all of them came where they
may. -/
theorem bracketed_iff {events : List Event} :
    Bracketed events ↔ ∃ stage, stage? events = some stage := by
  constructor
  · rintro ⟨brackets, last, rfl, hbrackets, hlast⟩
    rw [stage?_append, stage?_flatten hbrackets]
    rcases hlast with rfl | hlast
    · exact ⟨.closed, rfl⟩
    · obtain ⟨stage, hstage, -⟩ := hlast.opens
      exact ⟨stage, hstage⟩
  · rintro ⟨stage, hstage⟩
    obtain ⟨brackets, last, rfl, hbrackets, hending⟩ := brackets_of_stage? hstage
    refine ⟨brackets, last, rfl, hbrackets, ?_⟩
    by_cases hclosed : stage = .closed
    · subst hclosed
      exact .inl hending
    · exact .inr (hending.isOpenBracket hclosed)

/-- Whoever listens to announcements in brackets knows whether one is
open. -/
theorem lastRunning_of_stage? {events : List Event} {stage : Stage}
    (h : stage? events = some stage) : lastRunning events = true ↔ stage ≠ .closed := by
  induction events using List.reverseRecOn generalizing stage with
  | nil =>
    cases h
    decide
  | append_singleton events e ih =>
    rw [stage?_concat] at h
    obtain ⟨before, hbefore, hafter⟩ := Option.bind_eq_some_iff.mp h
    rw [lastRunning, List.foldl_append, List.foldl_cons, List.foldl_nil]
    rcases Stage.after?_cases hafter with ⟨rfl, rfl, rfl⟩ | ⟨rfl, hword, rfl⟩ | ⟨hopen, rfl, rfl⟩
    · exact iff_of_true rfl nofun
    · -- a word changes nothing
      have hopened := (ih hbefore).mpr nofun
      cases e with
      | scannerResolved found => exact iff_of_true hopened nofun
      | registerError message => exact iff_of_true hopened nofun
      | _ => cases hword
    · exact iff_of_false Bool.false_ne_true (absurd rfl)

-- ============================================== starts that come too early

namespace Account

variable {account : Account} {index : Nat} {more : List Deed}

theorem mem_of {deed : Deed} : deed ∈ account.of index ↔ (index, deed) ∈ account := by
  simp [of, and_comm]

/-- Only a start can come too early. -/
theorem overtaken_append (h : Deed.announced (.scannerRunning true) ∉ more) :
    Overtaken (account ++ more.map (index, ·)) ↔ account.Overtaken := by
  have hlate : ∀ i, (i, Deed.announced (.scannerRunning true)) ∉ more.map (index, ·) := by
    simpa using h
  constructor
  · rintro ⟨before, i, after, heq, hlingers⟩
    rcases List.append_eq_append_iff.mp heq with ⟨rest, rfl, hrest⟩ | ⟨rest, rfl, hrest⟩
    · exact absurd (hrest ▸ List.mem_append_right _ List.mem_cons_self) (hlate i)
    · cases rest with
      | nil =>
        have hmem : (i, _) ∈ [] ++ more.map (index, ·) := hrest ▸ List.mem_cons_self
        exact absurd hmem (hlate i)
      | cons first rest =>
        obtain ⟨rfl, -⟩ := List.cons.inj hrest
        exact ⟨before, i, rest, rfl, hlingers⟩
  · rintro ⟨before, i, after, rfl, hlingers⟩
    exact ⟨before, i, after ++ more.map (index, ·), List.append_assoc _ _ _, hlingers⟩

/-- A start comes too early exactly if some run lingers then. -/
theorem overtaken_concat :
    Overtaken (account ++ [(index, Deed.announced (.scannerRunning true))])
      ↔ account.Overtaken ∨ ∃ other, account.Lingers other := by
  constructor
  · rintro ⟨before, i, after, heq, hlingers⟩
    cases after using List.reverseRecOn with
    | nil =>
      obtain ⟨rfl, -⟩ := List.append_inj' heq rfl
      exact .inr hlingers
    | append_singleton after last =>
      rw [← List.cons_append, ← List.append_assoc] at heq
      obtain ⟨rfl, -⟩ := List.append_inj' heq rfl
      exact .inl ⟨before, i, after, rfl, hlingers⟩
  · rintro (⟨before, i, after, rfl, hlingers⟩ | hlingers)
    · exact ⟨before, i, after ++ [_], List.append_assoc _ _ _, hlingers⟩
    · exact ⟨account, index, [], rfl, hlingers⟩

/-- If nothing comes between the two steps that end a run, no run is
overtaken. -/
theorem not_overtaken
    (h : ∀ before i after, account = before ++ (i, Deed.cleared) :: after →
      after = [] ∨ ∃ rest, after = (i, Deed.announced (.scannerRunning false)) :: rest) :
    ¬ account.Overtaken := by
  rintro ⟨before, index, after, rfl, other, hcleared, hsilent⟩
  obtain ⟨first, rest, rfl⟩ := List.append_of_mem (mem_of.mp hcleared)
  have hnext := h first other (rest ++ (index, .announced (.scannerRunning true)) :: after)
    (by rw [List.append_assoc, List.cons_append])
  rcases hnext with hnext | ⟨after', hnext⟩
  · simp at hnext
  · cases rest with
    | nil => cases hnext
    | cons deed rest =>
      obtain ⟨rfl, -⟩ := List.cons.inj hnext
      exact hsilent (mem_of.mpr (by simp))

end Account

-- ================================================== one run's own bracket

/-- Whether a run has announced its start and is still to announce its
end. -/
def Phase.isInside : Phase → Bool
  | locating | sweeping _ | concluding _ | cleared _ => true
  | idle | claimed | ended _ => false

section

variable {plan : Plan} {deeds more : List Deed} {phase phase' : Phase} {s s' : Scanner}

/-- During its inquiry a run is inside its bracket. -/
theorem Inquiry.stage (h : Inquiry plan deeds phase) :
    ∃ stage, stage? (Event.scannerRunning true :: deeds.filterMap Deed.event?) = some stage
      ∧ stage ≠ .closed := by
  cases h with
  | locating => exact ⟨.opened, rfl, nofun⟩
  | nowhere => exact ⟨.told, rfl, nofun⟩
  | sweeping h =>
    rw [List.filterMap_cons_none rfl, h.events]
    exact ⟨.opened, rfl, nofun⟩
  | resolved h hdone =>
    rw [List.filterMap_append, List.filterMap_cons_none rfl, h.events]
    exact ⟨.told, rfl, nofun⟩
  | unlocated => exact ⟨.opened, rfl, nofun⟩
  | unswept h =>
    rw [List.filterMap_append, List.filterMap_cons_none rfl, h.events]
    exact ⟨.opened, rfl, nofun⟩

theorem Inquiry.isInside (h : Inquiry plan deeds phase) : phase.isInside = true := by
  cases h <;> rfl

/-- What a run announces by itself is in brackets, and it is inside one
exactly as long as its phase says so. -/
theorem Course.stage (h : Course plan deeds phase) :
    ∃ stage, stage? (deeds.filterMap Deed.event?) = some stage
      ∧ (phase.isInside = true ↔ stage ≠ .closed) := by
  cases h with
  | idle => exact ⟨.closed, rfl, by decide⟩
  | refused => exact ⟨.closed, rfl, by decide⟩
  | unbegun => exact ⟨.closed, rfl, by decide⟩
  | claimed => exact ⟨.closed, rfl, by decide⟩
  | inquiring h =>
    obtain ⟨stage, hstage, hopen⟩ := h.stage
    exact ⟨stage, hstage, iff_of_true h.isInside hopen⟩
  | cleared h =>
    obtain ⟨stage, hstage, hopen⟩ := h.stage
    refine ⟨stage, ?_, iff_of_true rfl hopen⟩
    rw [List.filterMap_append, List.filterMap_append]
    exact (List.append_nil _).symm ▸ hstage
  | @finished inner _ h =>
    obtain ⟨stage, hstage, hopen⟩ := h.stage
    refine ⟨.closed, ?_, iff_of_false nofun (absurd rfl)⟩
    have hclosed : stage? ((Event.scannerRunning true :: inner.filterMap Deed.event?)
        ++ [Event.scannerRunning false]) = some .closed := by
      rw [stage?_concat, hstage]
      exact Stage.after?_end hopen
    rw [List.filterMap_append, List.filterMap_append]
    exact hclosed

theorem Course.of_claimed (h : Course plan deeds .claimed) : deeds = [.claimed] := by
  cases h with
  | claimed => rfl
  | inquiring h => cases h

/-- The deeds of a course tell whether the run is inside its bracket. -/
theorem Course.isInside_iff (h : Course plan deeds phase) :
    Deed.announced (.scannerRunning true) ∈ deeds ∧ Deed.announced (.scannerRunning false) ∉ deeds
      ↔ phase.isInside = true := by
  cases h with
  | idle => decide
  | refused => decide
  | unbegun => decide
  | claimed => decide
  | inquiring h => simp [h.isInside, h.not_mem (.announced (.scannerRunning false)) rfl]
  | cleared h => simp [Phase.isInside, h.not_mem (.announced (.scannerRunning false)) rfl]
  | finished h => simp [Phase.isInside]

/-- A stride leaves a run outside its bracket and announces nothing, takes it
into its bracket, leaves it there, or takes it out. Only by the second a
start is announced. -/
theorem Stride.inside_cases (hs : Stride plan s phase more phase' s') :
    phase = .claimed ∧ phase' = .locating ∧ more = [.announced (.scannerRunning true)]
      ∨ Deed.announced (.scannerRunning true) ∉ more
        ∧ (phase.isInside = true ∨ phase'.isInside = false ∧ more.filterMap Deed.event? = []) := by
  cases hs with
  | started => exact .inl ⟨rfl, rfl, rfl⟩
  | claimed h => exact .inr ⟨by decide, .inr ⟨rfl, rfl⟩⟩
  | refused h => exact .inr ⟨by decide, .inr ⟨rfl, rfl⟩⟩
  | unbegun => exact .inr ⟨by decide, .inr ⟨rfl, rfl⟩⟩
  | nowhere => exact .inr ⟨by decide, .inl rfl⟩
  | located own => exact .inr ⟨by simp, .inl rfl⟩
  | probed reachable h => exact .inr ⟨by simp, .inl rfl⟩
  | resolved h => exact .inr ⟨by simp, .inl rfl⟩
  | cleared result => exact .inr ⟨by decide, .inl rfl⟩
  | finished result => exact .inr ⟨by decide, .inl rfl⟩
  | abandoned h =>
    refine .inr ⟨by decide, .inl ?_⟩
    rcases h with rfl | ⟨w, rfl⟩ <;> rfl

end

-- ===================================================== all runs together

/-- Which runs linger can be told from the account. -/
theorem Accounted.lingers_iff {plan : Plan} {account : Account} {t : Station}
    (ha : Accounted plan account t) (index : Nat) :
    account.Lingers index ↔ ∃ result, t.background[index]? = some (.cleared result) := by
  cases hphase : t.background[index]? with
  | none =>
    have hnothing := ha.unstarted index (List.getElem?_eq_none_iff.mp hphase)
    simp [Account.Lingers, hnothing]
  | some phase =>
    rw [Account.Lingers, (ha.course index phase hphase).lingers_iff]
    simp

/-- As long as no run was overtaken, at most one is inside its bracket, and
the announcements stand where its own stand. -/
structure InOrder (account : Account) (t : Station) : Prop where
  overtaken : account.Overtaken → stage? account.events = none
  outside : ¬ account.Overtaken →
    (∀ (i : Nat) p, t.background[i]? = some p → p.isInside = false) →
    stage? account.events = some .closed
  inside : ¬ account.Overtaken → ∀ (i : Nat) p, t.background[i]? = some p → p.isInside = true →
    stage? account.events = stage? ((account.of i).filterMap Deed.event?)
      ∧ ∀ (j : Nat) q, t.background[j]? = some q → q.isInside = true → j = i

namespace InOrder

variable {plan : Plan} {account : Account} {t : Station} {index : Nat}
  {more : List Deed} {phase phase' : Phase} {s' : Scanner}

theorem fresh : InOrder [] .fresh where
  overtaken h := by
    obtain ⟨before, _, after, heq, -⟩ := h
    cases before <;> cases heq
  outside _ _ := rfl
  inside _ _ _ h := by cases h

theorem started (ho : InOrder account t) : InOrder account t.started where
  overtaken := ho.overtaken
  outside hnot hall := by
    refine ho.outside hnot fun i p hp => hall i p ?_
    obtain ⟨hlt, -⟩ := List.getElem?_eq_some_iff.mp hp
    exact (List.getElem?_append_left hlt).trans hp
  inside hnot i p hp hin := by
    rcases Station.background_started hp with hp | ⟨-, rfl⟩
    · obtain ⟨hstage, halone⟩ := ho.inside hnot i p hp hin
      refine ⟨hstage, fun j q hq hother => ?_⟩
      rcases Station.background_started hq with hq | ⟨-, rfl⟩
      · exact halone j q hq hother
      · cases hother
    · cases hin

/-- The announcements after a stride follow those before it. -/
theorem stage?_events :
    stage? (Account.events (account ++ more.map (index, ·)))
      = (stage? account.events).bind ((more.filterMap Deed.event?).foldlM Stage.after?) := by
  rw [Account.events_append, Account.events_same, stage?_append]

/-- A run that has got the right to sweep announces its start. -/
theorem stride_started (ha : Accounted plan account t) (hg : Guarded t) (ho : InOrder account t)
    (hphase : t.background[index]? = some .claimed) :
    InOrder (account ++ [(index, Deed.announced (.scannerRunning true))])
      (t.setRun index .locating s') := by
  have hnew : (t.setRun index .locating s').background[index]? = some .locating :=
    Station.background_self hphase
  have hevents :
      stage? (Account.events (account ++ [(index, Deed.announced (.scannerRunning true))]))
        = (stage? account.events).bind (·.after? (.scannerRunning true)) := by
    rw [Account.events_append]
    exact stage?_concat _ _
  by_cases hothers : ∃ (i : Nat) (p : Phase), t.background[i]? = some p ∧ p.isInside = true
  · -- whoever is still inside has let this run sweep, and lingers
    obtain ⟨i, p, hp, hin⟩ := hothers
    have hlingers : account.Lingers i := by
      refine (ha.course i p hp).lingers_iff.mpr ?_
      cases p with
      | cleared result => exact ⟨result, rfl⟩
      | idle | claimed | ended result => cases hin
      | locating | sweeping w | concluding result =>
        rw [hg.unique hp rfl hphase rfl, hphase] at hp
        cases hp
    have hovertaken :
        Account.Overtaken (account ++ [(index, Deed.announced (.scannerRunning true))]) :=
      Account.overtaken_concat.mpr (.inr ⟨i, hlingers⟩)
    refine ⟨fun _ => ?_, fun hnot => absurd hovertaken hnot, fun hnot => absurd hovertaken hnot⟩
    rw [hevents]
    by_cases hbefore : account.Overtaken
    · rw [ho.overtaken hbefore]
      rfl
    · obtain ⟨stage, hstage, hopen⟩ := (ha.course i p hp).stage
      rw [(ho.inside hbefore i p hp hin).1, hstage]
      exact Stage.after?_start (hopen.mp hin)
  · -- nobody is inside, so nobody lingers
    have hall : ∀ (i : Nat) p, t.background[i]? = some p → p.isInside = false := by
      intro i p hp
      by_contra hin
      exact hothers ⟨i, p, hp, Bool.not_eq_false _ ▸ hin⟩
    have hsame : Account.Overtaken (account ++ [(index, Deed.announced (.scannerRunning true))])
        ↔ account.Overtaken := by
      rw [Account.overtaken_concat]
      refine or_iff_left ?_
      rintro ⟨other, hlingers⟩
      obtain ⟨result, hcleared⟩ := (ha.lingers_iff other).mp hlingers
      cases hall other _ hcleared
    refine ⟨fun h => ?_, fun _ h => ?_, fun h i p hp hin => ?_⟩
    · rw [hevents, ho.overtaken (hsame.mp h)]
      rfl
    · cases h index _ hnew
    · rcases Station.background_setRun hp with ⟨rfl, rfl⟩ | ⟨-, hp⟩
      · refine ⟨?_, fun j q hq hother => ?_⟩
        · have hown : Account.of [(i, Deed.announced (.scannerRunning true))] i
              = [.announced (.scannerRunning true)] := Account.of_same i [_]
          rw [hevents, ho.outside (mt hsame.mpr h) hall, Account.of_append,
            (ha.course i _ hphase).of_claimed, hown]
          rfl
        · rcases Station.background_setRun hq with ⟨rfl, -⟩ | ⟨-, hq⟩
          · rfl
          · rw [hall j q hq] at hother
            cases hother
      · rw [hall i p hp] at hin
        cases hin

/-- A run inside its bracket goes on, and the announcements as its own do. -/
theorem stride_inside (ha : Accounted plan account t) (ho : InOrder account t)
    (hphase : t.background[index]? = some phase)
    (hs : Stride plan t.scanner phase more phase' s')
    (hmore : Deed.announced (.scannerRunning true) ∉ more) (hin : phase.isInside = true) :
    InOrder (account ++ more.map (index, ·)) (t.setRun index phase' s') := by
  have hsame : Account.Overtaken (account ++ more.map (index, ·)) ↔ account.Overtaken :=
    Account.overtaken_append hmore
  have hown : ¬ Account.Overtaken (account ++ more.map (index, ·)) →
      stage? (Account.events (account ++ more.map (index, ·)))
        = stage? ((Account.of (account ++ more.map (index, ·)) index).filterMap Deed.event?) := by
    intro h
    rw [stage?_events, (ho.inside (mt hsame.mpr h) index phase hphase hin).1,
      Account.of_append, Account.of_same, List.filterMap_append, stage?_append]
  refine ⟨fun h => ?_, fun h hall => ?_, fun h i p hp hother => ?_⟩
  · rw [stage?_events, ho.overtaken (hsame.mp h)]
    rfl
  · -- it has come to its end, and its own bracket is closed
    have hnew : (t.setRun index phase' s').background[index]? = some phase' :=
      Station.background_self hphase
    obtain ⟨stage, hstage, hopen⟩ := ((ha.stride hphase hs).course index phase' hnew).stage
    rw [hown h, hstage]
    by_contra hne
    rw [hall index phase' hnew] at hopen
    exact Bool.false_ne_true (hopen.mpr fun heq => hne (congrArg some heq))
  · -- it is the only one inside
    have halone := (ho.inside (mt hsame.mpr h) index phase hphase hin).2
    have honly : ∀ {j : Nat} {q : Phase}, (t.setRun index phase' s').background[j]? = some q →
        q.isInside = true → j = index := by
      intro j q hq hin'
      rcases Station.background_setRun hq with ⟨hj, -⟩ | ⟨-, hq⟩
      · exact hj
      · exact halone j q hq hin'
    cases honly hp hother
    exact ⟨hown h, fun j q hq hin' => honly hq hin'⟩

/-- A run outside its bracket that announces nothing changes nothing. -/
theorem stride_outside (ho : InOrder account t) (hphase : t.background[index]? = some phase)
    (hmore : Deed.announced (.scannerRunning true) ∉ more)
    (hsilent : more.filterMap Deed.event? = []) (hout : phase.isInside = false)
    (hout' : phase'.isInside = false) :
    InOrder (account ++ more.map (index, ·)) (t.setRun index phase' s') := by
  have hsame : Account.Overtaken (account ++ more.map (index, ·)) ↔ account.Overtaken :=
    Account.overtaken_append hmore
  have hevents : stage? (Account.events (account ++ more.map (index, ·)))
      = stage? account.events := by
    rw [stage?_events, hsilent]
    exact Option.bind_fun_some _
  have hbefore : ∀ {j : Nat} {q : Phase}, (t.setRun index phase' s').background[j]? = some q →
      q.isInside = true → j ≠ index ∧ t.background[j]? = some q := by
    intro j q hq hin
    rcases Station.background_setRun hq with ⟨-, rfl⟩ | hq
    · rw [hout'] at hin
      cases hin
    · exact hq
  refine ⟨fun h => hevents.trans (ho.overtaken (hsame.mp h)), fun h hall => ?_,
    fun h i p hp hin => ?_⟩
  · rw [hevents]
    refine ho.outside (mt hsame.mpr h) fun i p hp => ?_
    by_cases hi : i = index
    · subst hi
      rw [hphase] at hp
      cases hp
      exact hout
    · exact hall i p (Station.background_other hi hp)
  · obtain ⟨hi, hp⟩ := hbefore hp hin
    obtain ⟨hstage, halone⟩ := ho.inside (mt hsame.mpr h) i p hp hin
    refine ⟨?_, fun j q hq hin' => halone j q (hbefore hq hin').2 hin'⟩
    rw [hevents, hstage, Account.of_append, Account.of_other _ hi, List.append_nil]

theorem stride (ha : Accounted plan account t) (hg : Guarded t) (ho : InOrder account t)
    (hphase : t.background[index]? = some phase)
    (hs : Stride plan t.scanner phase more phase' s') :
    InOrder (account ++ more.map (index, ·)) (t.setRun index phase' s') := by
  rcases hs.inside_cases with ⟨rfl, rfl, rfl⟩ | ⟨hmore, hin | ⟨hout', hsilent⟩⟩
  · exact stride_started ha hg ho hphase
  · exact stride_inside ha ho hphase hs hmore hin
  · cases hin : phase.isInside with
    | true => exact stride_inside ha ho hphase hs hmore hin
    | false => exact stride_outside ho hphase hmore hsilent hin hout'

end InOrder

-- ============================================================= the result

theorem inOrder {plan : Plan} {moves : List Move} {t : Station}
    (h : Station.fresh.follow? plan moves = some t) :
    InOrder (Station.fresh.account plan moves) t := by
  let P (account : Account) (t : Station) :=
    Accounted plan account t ∧ Guarded t ∧ InOrder account t
  have hkeep : P (Station.fresh.account plan moves) t := by
    refine Station.account_keep (P := P) ⟨.fresh plan, .fresh, .fresh⟩ ?_ ?_ h
    · exact fun ⟨ha, hg, ho⟩ => ⟨ha.started, hg.started, ho.started⟩
    · exact fun ⟨ha, hg, ho⟩ hphase hs =>
        ⟨ha.stride hphase hs, hg.stride hphase hs, ho.stride ha hg hphase hs⟩
  exact hkeep.2.2

/-- Runs of one scanner, with their steps in any order.

Their announcements come one complete bracket after another exactly if no run
announces its start while another one has let it sweep but not yet announced
its own end. Then who listens can trust the last start or end that was
announced: it is a start exactly if some run has announced its start and not
yet its end. No run comes too early if nothing ever comes between the two
steps that end a run. -/
theorem brackets_unless_overtaken (plan : Plan) (moves : List Move) (s : Station)
    (h : Station.fresh.follow? plan moves = some s) :
    let account := Station.fresh.account plan moves
    (Bracketed s.scanner.announced ↔ ¬ account.Overtaken)
      ∧ (¬ account.Overtaken → (lastRunning s.scanner.announced = true ↔
          ∃ i, Deed.announced (.scannerRunning true) ∈ account.of i
            ∧ Deed.announced (.scannerRunning false) ∉ account.of i))
      ∧ ((∀ before i after, account = before ++ (i, Deed.cleared) :: after →
            after = [] ∨ ∃ rest, after = (i, Deed.announced (.scannerRunning false)) :: rest) →
          ¬ account.Overtaken) := by
  intro account
  have ha := accounted h
  have ho := inOrder h
  rw [← ha.events]
  -- without a run that came too early, somebody is inside exactly in an open bracket
  have hstage : ¬ account.Overtaken → ∃ stage, stage? account.events = some stage
      ∧ (stage ≠ .closed ↔ ∃ i, Deed.announced (.scannerRunning true) ∈ account.of i
        ∧ Deed.announced (.scannerRunning false) ∉ account.of i) := by
    intro hnot
    have hrun : ∀ i, (Deed.announced (.scannerRunning true) ∈ account.of i
        ∧ Deed.announced (.scannerRunning false) ∉ account.of i)
        ↔ ∃ p, s.background[i]? = some p ∧ p.isInside = true := by
      intro i
      cases hphase : s.background[i]? with
      | none => simp [account, ha.unstarted i (List.getElem?_eq_none_iff.mp hphase)]
      | some phase => simp [account, (ha.course i phase hphase).isInside_iff]
    by_cases hinside : ∃ (i : Nat) (p : Phase), s.background[i]? = some p ∧ p.isInside = true
    · obtain ⟨i, p, hp, hin⟩ := hinside
      obtain ⟨stage, hstage, hopen⟩ := (ha.course i p hp).stage
      refine ⟨stage, (ho.inside hnot i p hp hin).1.trans hstage, ?_⟩
      exact iff_of_true (hopen.mp hin) ⟨i, (hrun i).mpr ⟨p, hp, hin⟩⟩
    · refine ⟨.closed, ho.outside hnot fun i p hp => ?_, iff_of_false (absurd rfl) ?_⟩
      · by_contra hin
        exact hinside ⟨i, p, hp, Bool.not_eq_false _ ▸ hin⟩
      · rintro ⟨i, hi⟩
        exact hinside ⟨i, (hrun i).mp hi⟩
  refine ⟨?_, fun hnot => ?_, Account.not_overtaken⟩
  · rw [bracketed_iff]
    constructor
    · rintro ⟨stage, hsome⟩ hovertaken
      rw [ho.overtaken hovertaken] at hsome
      cases hsome
    · intro hnot
      obtain ⟨stage, hsome, -⟩ := hstage hnot
      exact ⟨stage, hsome⟩
  · obtain ⟨stage, hsome, hopen⟩ := hstage hnot
    rw [lastRunning_of_stage? hsome]
    exact hopen

/-- Two runs, the second one asked for between the two steps that end the
first one, but not begun before the first one has announced its end. -/
theorem brackets_of_two_runs :
    let plan : Plan := ⟨[], 1⟩
    let lan : Lan := ⟨some none, fun _ _ => false⟩
    let moves : List Move :=
      [.run, .step 0 lan, .step 0 lan, .step 0 lan, .step 0 lan, .run, .step 0 lan, .step 1 lan,
        .step 1 lan]
    ∃ s, Station.fresh.follow? plan moves = some s
      ∧ s.scanner.announced
        = [.scannerRunning true, .registerError noAddress, .scannerRunning false,
          .scannerRunning true]
      ∧ ¬ (Station.fresh.account plan moves).Overtaken
      ∧ lastRunning s.scanner.announced = true := by
  intro plan lan moves
  obtain ⟨s, hs, hannounced⟩ : ∃ s, Station.fresh.follow? plan moves = some s ∧ s.scanner.announced
      = [.scannerRunning true, .registerError noAddress, .scannerRunning false,
        .scannerRunning true] := ⟨_, rfl, rfl⟩
  obtain ⟨hbrackets, hlast, -⟩ := brackets_unless_overtaken plan moves s hs
  have hbracketed : Bracketed s.scanner.announced := by
    rw [bracketed_iff, hannounced]
    exact ⟨.opened, rfl⟩
  have hnot := hbrackets.mp hbracketed
  exact ⟨s, hs, hannounced, hnot, (hlast hnot).mpr ⟨1, by decide, by decide⟩⟩

/-- The first run lets the second one sweep, which announces its start before
the first one announces its end: the brackets are mixed up, and the last
that is announced is an end, while the second run sweeps. -/
theorem late_end :
    let plan : Plan := ⟨[], 1⟩
    let lan : Lan := ⟨some none, fun _ _ => false⟩
    let moves : List Move :=
      [.run, .step 0 lan, .step 0 lan, .step 0 lan, .step 0 lan, .run, .step 1 lan, .step 1 lan,
        .step 0 lan]
    ∃ s, Station.fresh.follow? plan moves = some s
      ∧ s.scanner.announced
        = [.scannerRunning true, .registerError noAddress, .scannerRunning true,
          .scannerRunning false]
      ∧ ¬ Bracketed s.scanner.announced
      ∧ lastRunning s.scanner.announced = false ∧ s.scanner.running = true := by
  intro plan lan moves
  refine ⟨_, rfl, rfl, ?_, rfl, rfl⟩
  rw [bracketed_iff]
  rintro ⟨stage, hstage⟩
  cases hstage

end ReceiptPrinter.Scan
