/-
What a run does from its beginning to its end.

`Course` lists the deeds that a run can have done, by how far it has come.
Every stride takes a course a bit further, so every run of every schedule is
on a course, whatever the other runs do (`Station.course`). The flag of the
scanner is set exactly as long as a run is between its claim and its
clearing, and there is never a second one (`Guarded`). Both together give
`single_flight`.
-/
import ReceiptPrinter.Proofs.Scan.Account

namespace ReceiptPrinter.Scan

open Net (Address)

-- =============================================================== courses

/-- The windows of a sweep, with the probes answered so far. -/
inductive Sweeps (plan : Plan) (own : Address) : List Deed → Window → Prop where
  | start : Sweeps plan own [] (.start plan own)
  | probed {deeds : List Deed} {w : Window} {slot : Nat} {host : Address} {port : UInt16}
    (h : Sweeps plan own deeds w) (reachable : Bool) (hprobe : w.probe? slot = some (host, port)) :
    Sweeps plan own (deeds ++ [Deed.probed host port reachable]) (w.answer plan slot reachable)

/-- What a run does between the announcement of its start and its clearing. -/
inductive Inquiry (plan : Plan) : List Deed → Phase → Prop where
  | locating : Inquiry plan [] .locating
  | nowhere :
    Inquiry plan [.located none, .announced (.registerError noAddress)] (.concluding none)
  | sweeping {own : Address} {deeds : List Deed} {w : Window} (h : Sweeps plan own deeds w) :
    Inquiry plan (Deed.located (some own) :: deeds) (.sweeping w)
  | resolved {own : Address} {deeds : List Deed} {w : Window} (h : Sweeps plan own deeds w)
    (hdone : w.oldest? = none) :
    Inquiry plan (Deed.located (some own) :: deeds ++ [Deed.announced (.scannerResolved w.found)])
      (.concluding (some w.found))
  | unlocated : Inquiry plan [.abandoned] (.concluding none)
  | unswept {own : Address} {deeds : List Deed} {w : Window} (h : Sweeps plan own deeds w) :
    Inquiry plan (Deed.located (some own) :: deeds ++ [Deed.abandoned]) (.concluding none)

/-- What a run has done, by how far it has come. -/
inductive Course (plan : Plan) : List Deed → Phase → Prop where
  | idle : Course plan [] .idle
  | refused : Course plan [.refused] (.ended none)
  | unbegun : Course plan [.abandoned] (.ended none)
  | claimed : Course plan [.claimed] .claimed
  | inquiring {deeds : List Deed} {phase : Phase} (h : Inquiry plan deeds phase) :
    Course plan ([Deed.claimed, .announced (.scannerRunning true)] ++ deeds) phase
  | cleared {deeds : List Deed} {result : Option (List NetIdentity)}
    (h : Inquiry plan deeds (.concluding result)) :
    Course plan ([Deed.claimed, .announced (.scannerRunning true)] ++ deeds ++ [Deed.cleared])
      (.cleared result)
  | finished {deeds : List Deed} {result : Option (List NetIdentity)}
    (h : Inquiry plan deeds (.concluding result)) :
    Course plan ([Deed.claimed, .announced (.scannerRunning true)] ++ deeds
      ++ [Deed.cleared, .announced (.scannerRunning false)]) (.ended result)

variable {plan : Plan} {deeds more : List Deed} {phase phase' : Phase} {s s' : Scanner}

/-- A stride takes a run further on its course. -/
theorem Course.stride (h : Course plan deeds phase) (hs : Stride plan s phase more phase' s') :
    Course plan (deeds ++ more) phase' := by
  cases hs with
  | claimed hrunning =>
    cases h with
    | idle => exact .claimed
    | inquiring h => cases h
  | refused hrunning =>
    cases h with
    | idle => exact .refused
    | inquiring h => cases h
  | unbegun =>
    cases h with
    | idle => exact .unbegun
    | inquiring h => cases h
  | started =>
    cases h with
    | claimed => exact .inquiring .locating
    | inquiring h => cases h
  | nowhere =>
    cases h with
    | inquiring h =>
      cases h
      exact .inquiring .nowhere
  | located own =>
    cases h with
    | inquiring h =>
      cases h
      exact .inquiring (.sweeping .start)
  | probed reachable hprobe =>
    cases h with
    | inquiring h =>
      cases h with
      | sweeping h =>
        exact .inquiring (.sweeping (h.probed reachable hprobe))
  | resolved hdone =>
    cases h with
    | inquiring h =>
      cases h with
      | sweeping h => exact .inquiring (.resolved h hdone)
  | cleared result =>
    cases h with
    | inquiring h => exact .cleared h
  | finished result =>
    cases h with
    | cleared h =>
      rw [List.append_assoc]
      exact .finished h
    | inquiring h => cases h
  | abandoned hphase =>
    rcases hphase with rfl | ⟨w, rfl⟩
    · cases h with
      | inquiring h =>
        cases h
        exact .inquiring .unlocated
    · cases h with
      | inquiring h =>
        cases h with
        | sweeping h => exact .inquiring (.unswept h)

-- ================================================ deeds of an inquiry

/-- Deeds that neither begin nor end anything. -/
def Deed.isInner : Deed → Bool
  | claimed | refused | cleared | announced (.scannerRunning _) => false
  | located _ | probed _ _ _ | announced _ | abandoned => true

/-- A sweep does nothing but probe. -/
theorem Sweeps.eq_probed {own : Address} {w : Window} (h : Sweeps plan own deeds w) {deed : Deed}
    (hdeed : deed ∈ deeds) : ∃ host port reachable, deed = .probed host port reachable := by
  induction h with
  | start => cases hdeed
  | probed h reachable hprobe ih =>
    rcases List.mem_append.mp hdeed with hdeed | hdeed
    · exact ih hdeed
    · exact ⟨_, _, _, List.mem_singleton.mp hdeed⟩

theorem Sweeps.events {own : Address} {w : Window} (h : Sweeps plan own deeds w) :
    deeds.filterMap Deed.event? = [] := by
  refine List.filterMap_eq_nil_iff.mpr fun deed hdeed => ?_
  obtain ⟨host, port, reachable, rfl⟩ := h.eq_probed hdeed
  rfl

namespace Inquiry

theorem isInner (h : Inquiry plan deeds phase) : ∀ deed ∈ deeds, deed.isInner = true := by
  have hsweep : ∀ {own deeds w}, Sweeps plan own deeds w → ∀ deed ∈ deeds, deed.isInner = true := by
    intro own deeds w h deed hdeed
    obtain ⟨host, port, reachable, rfl⟩ := h.eq_probed hdeed
    rfl
  cases h with
  | locating => exact nofun
  | nowhere => decide
  | sweeping h => simpa [Deed.isInner] using hsweep h
  | resolved h hdone => simpa [Deed.isInner, or_imp, forall_and] using hsweep h
  | unlocated => decide
  | unswept h => simpa [Deed.isInner, or_imp, forall_and] using hsweep h

/-- Before it concludes, an inquiry announces nothing. -/
theorem events_of_open (h : Inquiry plan deeds phase)
    (hopen : ∀ result, phase ≠ .concluding result) : deeds.filterMap Deed.event? = [] := by
  cases h with
  | locating => rfl
  | sweeping h => exact h.events
  | nowhere => exact absurd rfl (hopen _)
  | resolved h hdone => exact absurd rfl (hopen _)
  | unlocated => exact absurd rfl (hopen _)
  | unswept h => exact absurd rfl (hopen _)

/-- An inquiry that has concluded has its verdict. -/
theorem verdict {result : Option (List NetIdentity)} (h : Inquiry plan deeds (.concluding result)) :
    Verdict deeds (deeds.filterMap Deed.event?) result := by
  cases h with
  | nowhere => exact .nowhere (by decide) (by decide)
  | resolved h hdone =>
    rw [List.filterMap_append, List.filterMap_cons_none rfl, h.events]
    refine .resolved _ (fun hmem => ?_) List.mem_cons_self
    rcases List.mem_append.mp hmem with hmem | hmem
    · have hprobe := (List.mem_cons.mp hmem).resolve_left nofun
      obtain ⟨host, port, reachable, heq⟩ := h.eq_probed hprobe
      cases heq
    · cases List.mem_singleton.mp hmem
  | unlocated => exact .abandoned (by decide)
  | unswept h =>
    rw [List.filterMap_append, List.filterMap_cons_none rfl, h.events]
    exact .abandoned (List.mem_append_right _ (List.mem_singleton_self _))

end Inquiry

-- ================================================== deeds of a course

/-- More deeds than these do not change the verdict, unless the run is given
up by them. -/
theorem Verdict.mono {middle : List Event} {result : Option (List NetIdentity)}
    (h : Verdict deeds middle result) (hmem : ∀ deed ∈ deeds, deed ∈ more)
    (habandoned : Deed.abandoned ∈ more → Deed.abandoned ∈ deeds) : Verdict more middle result := by
  cases h with
  | abandoned h => exact .abandoned (hmem _ h)
  | nowhere h hnone => exact .nowhere (mt habandoned h) (hmem _ hnone)
  | resolved found h hown => exact .resolved found (mt habandoned h) (hmem _ hown)

/-- Whether a run has the right to sweep. -/
def Phase.holds : Phase → Bool
  | claimed | locating | sweeping _ | concluding _ => true
  | idle | cleared _ | ended _ => false

theorem Inquiry.holds (h : Inquiry plan deeds phase) : phase.holds = true := by
  cases h <;> rfl

/-- What begins or ends something is not done in the course of an inquiry. -/
theorem Inquiry.not_mem (h : Inquiry plan deeds phase) (deed : Deed)
    (houter : deed.isInner = false) : deed ∉ deeds := by
  intro hmem
  rw [h.isInner deed hmem] at houter
  cases houter

/-- A run has something to give exactly if it has announced it. -/
theorem Verdict.result_iff {middle : List Event} {result : Option (List NetIdentity)}
    (h : Verdict deeds middle result) (found : List NetIdentity) :
    result = some found ↔ Event.scannerResolved found ∈ middle := by
  cases h with
  | abandoned h => simp
  | nowhere h hnone => simp
  | resolved found h hown => simp [eq_comm]

namespace Course

/-- The deeds of a course tell whether the run has the right to sweep. -/
theorem holds_iff (h : Course plan deeds phase) :
    Deed.claimed ∈ deeds ∧ Deed.cleared ∉ deeds ↔ phase.holds = true := by
  cases h with
  | idle => decide
  | refused => decide
  | unbegun => decide
  | claimed => decide
  | inquiring h => simp [h.holds, h.not_mem .cleared rfl]
  | cleared h => simp [Phase.holds]
  | finished h => simp [Phase.holds]

/-- They tell whether it has given the right up and is still to announce its
end. -/
theorem lingers_iff (h : Course plan deeds phase) :
    Deed.cleared ∈ deeds ∧ Deed.announced (.scannerRunning false) ∉ deeds
      ↔ ∃ result, phase = .cleared result := by
  cases h with
  | idle => simp
  | refused => simp
  | unbegun => simp
  | claimed => simp
  | inquiring h =>
    have hphase : ∀ result, phase ≠ .cleared result := by
      rintro result rfl
      cases h
    simp [h.not_mem .cleared rfl, hphase]
  | cleared h => simp [h.not_mem (.announced (.scannerRunning false)) rfl]
  | finished h => simp

/-- A run that is refused does nothing else, and has nothing to give. -/
theorem of_refused (h : Course plan deeds phase) (hmem : Deed.refused ∈ deeds) :
    deeds = [.refused] ∧ phase = .ended none := by
  cases h with
  | refused => exact ⟨rfl, rfl⟩
  | idle => cases hmem
  | unbegun => simp at hmem
  | claimed => simp at hmem
  | inquiring h => simp [h.not_mem .refused rfl] at hmem
  | cleared h => simp [h.not_mem .refused rfl] at hmem
  | finished h => simp [h.not_mem .refused rfl] at hmem

/-- A run that does not get the right to sweep neither announces nor probes
anything. -/
theorem of_unclaimed (h : Course plan deeds phase) (hmem : Deed.claimed ∉ deeds) :
    deeds.filterMap Deed.event? = [] ∧ deeds.filterMap Deed.probe? = [] := by
  cases h with
  | idle => exact ⟨rfl, rfl⟩
  | refused => exact ⟨rfl, rfl⟩
  | unbegun => exact ⟨rfl, rfl⟩
  | claimed => exact absurd List.mem_cons_self hmem
  | inquiring h => exact absurd List.mem_cons_self hmem
  | cleared h => exact absurd List.mem_cons_self hmem
  | finished h => exact absurd List.mem_cons_self hmem

theorem result_eq_none {result : Option (List NetIdentity)} (h : Course plan deeds (.ended result))
    (hmem : Deed.claimed ∉ deeds) : result = none := by
  cases h with
  | refused => rfl
  | unbegun => rfl
  | inquiring h => cases h
  | finished h => exact absurd List.mem_cons_self hmem

/-- What a run has announced when it has ended. -/
theorem of_ended {result : Option (List NetIdentity)} (h : Course plan deeds (.ended result))
    (hmem : Deed.claimed ∈ deeds) :
    ∃ middle, Verdict deeds middle result
      ∧ deeds.filterMap Deed.event?
        = Event.scannerRunning true :: middle ++ [Event.scannerRunning false] := by
  cases h with
  | refused => simp at hmem
  | unbegun => simp at hmem
  | inquiring h => cases h
  | @finished inner _ h =>
    refine ⟨inner.filterMap Deed.event?, h.verdict.mono ?_ ?_, ?_⟩
    · exact fun deed hdeed => List.mem_append_left _ (List.mem_append_right _ hdeed)
    · simp
    · rw [List.filterMap_append, List.filterMap_append]
      rfl

/-- What a run has announced before it has ended. -/
theorem of_unended (h : Course plan deeds phase) (hopen : ∀ result, phase ≠ .ended result) :
    deeds.filterMap Deed.event? = []
      ∨ ∃ middle, deeds.filterMap Deed.event? = Event.scannerRunning true :: middle
        ∧ (middle = [] ∨ ∃ result, Verdict deeds middle result) := by
  cases h with
  | idle => exact .inl rfl
  | refused => exact absurd rfl (hopen _)
  | unbegun => exact absurd rfl (hopen _)
  | claimed => exact .inl rfl
  | @inquiring inner _ h =>
    refine .inr ⟨inner.filterMap Deed.event?, rfl, ?_⟩
    by_cases hphase : ∃ result, phase = .concluding result
    · obtain ⟨result, rfl⟩ := hphase
      refine .inr ⟨result, h.verdict.mono ?_ ?_⟩
      · exact fun deed hdeed => List.mem_append_right _ hdeed
      · simp
    · exact .inl (h.events_of_open fun result heq => hphase ⟨result, heq⟩)
  | @cleared inner result h =>
    refine .inr ⟨inner.filterMap Deed.event?, ?_, .inr ⟨result, h.verdict.mono ?_ ?_⟩⟩
    · rw [List.filterMap_append, List.filterMap_append]
      exact List.append_nil _
    · exact fun deed hdeed => List.mem_append_left _ (List.mem_append_right _ hdeed)
    · simp
  | finished h => exact absurd rfl (hopen _)

end Course

-- ================================================= all runs together

/-- What is known of a station and the account of all that was done there:
every run is on its course, and what the scanner knows comes from the
runs. -/
structure Accounted (plan : Plan) (account : Account) (s : Station) : Prop where
  course : ∀ (index : Nat) phase, s.background[index]? = some phase →
    Course plan (account.of index) phase
  /-- Runs that were not started have done nothing. -/
  unstarted : ∀ index, s.background.length ≤ index → account.of index = []
  events : account.events = s.scanner.announced
  probes : account.probes = s.scanner.probes

/-- The flag is set exactly as long as a run has the right to sweep, and no
two have it. -/
structure Guarded (s : Station) : Prop where
  free : s.scanner.running = false → ∀ (index : Nat) phase, s.background[index]? = some phase →
    phase.holds = false
  held : s.scanner.running = true → ∃ index phase, s.background[index]? = some phase
    ∧ phase.holds = true
    ∧ ∀ (other : Nat) phase, s.background[other]? = some phase → phase.holds = true → other = index

namespace Stride

theorem announced_eq (hs : Stride plan s phase more phase' s') :
    s'.announced = s.announced ++ more.filterMap Deed.event? := by
  cases hs with
  | started | nowhere | resolved | finished => rfl
  | _ => exact (List.append_nil _).symm

theorem probes_eq (hs : Stride plan s phase more phase' s') :
    s'.probes = s.probes ++ more.filterMap Deed.probe? := by
  cases hs with
  | probed => rfl
  | _ => exact (List.append_nil _).symm

/-- The right to sweep is taken while nobody has it, given up together with
the flag, and otherwise left where it is. -/
theorem holds_cases (hs : Stride plan s phase more phase' s') :
    (phase.holds = false ∧ phase'.holds = true ∧ s.running = false ∧ s'.running = true)
      ∨ (phase.holds = true ∧ phase'.holds = false ∧ s'.running = false)
      ∨ (phase'.holds = phase.holds ∧ s'.running = s.running) := by
  cases hs with
  | claimed h => exact .inl ⟨rfl, rfl, h, rfl⟩
  | cleared result => exact .inr (.inl ⟨rfl, rfl, rfl⟩)
  | abandoned h => rcases h with rfl | ⟨w, rfl⟩ <;> exact .inr (.inr ⟨rfl, rfl⟩)
  | refused h => exact .inr (.inr ⟨rfl, rfl⟩)
  | started => exact .inr (.inr ⟨rfl, rfl⟩)
  | nowhere => exact .inr (.inr ⟨rfl, rfl⟩)
  | located own => exact .inr (.inr ⟨rfl, rfl⟩)
  | probed reachable h => exact .inr (.inr ⟨rfl, rfl⟩)
  | resolved h => exact .inr (.inr ⟨rfl, rfl⟩)
  | finished result => exact .inr (.inr ⟨rfl, rfl⟩)
  | unbegun => exact .inr (.inr ⟨rfl, rfl⟩)

end Stride

namespace Station

variable {account : Account} {t : Station} {index : Nat}

/-- A run of a station at which one more was started. -/
theorem background_started {other : Nat} {p : Phase}
    (h : t.started.background[other]? = some p) :
    t.background[other]? = some p ∨ other = t.background.length ∧ p = .idle := by
  rw [started, List.getElem?_append] at h
  split at h
  · exact .inl h
  · next hle =>
    have hzero : other - t.background.length = 0 := by
      obtain ⟨hlt, -⟩ := List.getElem?_eq_some_iff.mp h
      rw [List.length_singleton] at hlt
      omega
    rw [hzero] at h
    exact .inr ⟨by omega, (Option.some.inj h).symm⟩

/-- The run that has come further. -/
theorem background_self (h : t.background[index]? = some phase) :
    (t.setRun index phase' s').background[index]? = some phase' := by
  obtain ⟨hlt, -⟩ := List.getElem?_eq_some_iff.mp h
  exact List.getElem?_set_self hlt

/-- The other runs stay where they are. -/
theorem background_other {other : Nat} {p : Phase} (hne : other ≠ index)
    (h : t.background[other]? = some p) :
    (t.setRun index phase' s').background[other]? = some p :=
  (List.getElem?_set_ne (Ne.symm hne)).trans h

/-- A run of a station at which one run has come further. -/
theorem background_setRun {other : Nat} {p : Phase}
    (h : (t.setRun index phase' s').background[other]? = some p) :
    other = index ∧ p = phase' ∨ other ≠ index ∧ t.background[other]? = some p := by
  rw [setRun, List.getElem?_set] at h
  split at h
  · next heq =>
    split at h
    · exact .inl ⟨heq.symm, (Option.some.inj h).symm⟩
    · cases h
  · next hne => exact .inr ⟨Ne.symm hne, h⟩

end Station

namespace Accounted

variable {account : Account} {t : Station} {index : Nat}

theorem fresh (plan : Plan) : Accounted plan [] .fresh where
  course _ _ h := by cases h
  unstarted _ _ := rfl
  events := rfl
  probes := rfl

theorem started (ha : Accounted plan account t) : Accounted plan account t.started where
  course other p hp := by
    rcases Station.background_started hp with hp | ⟨rfl, rfl⟩
    · exact ha.course other p hp
    · rw [ha.unstarted _ (Nat.le_refl _)]
      exact .idle
  unstarted other hle := by
    refine ha.unstarted other (Nat.le_trans (Nat.le_add_right _ 1) ?_)
    rwa [Station.started, List.length_append] at hle
  events := ha.events
  probes := ha.probes

theorem stride (ha : Accounted plan account t) (hphase : t.background[index]? = some phase)
    (hs : Stride plan t.scanner phase more phase' s') :
    Accounted plan (account ++ more.map (index, ·)) (t.setRun index phase' s') where
  course other p hp := by
    rw [Account.of_append]
    rcases Station.background_setRun hp with ⟨rfl, rfl⟩ | ⟨hne, hp⟩
    · rw [Account.of_same]
      exact (ha.course other phase hphase).stride hs
    · rw [Account.of_other _ hne, List.append_nil]
      exact ha.course other p hp
  unstarted other hle := by
    obtain ⟨hlt, -⟩ := List.getElem?_eq_some_iff.mp hphase
    rw [Station.setRun, List.length_set] at hle
    rw [Account.of_append, ha.unstarted other hle, Account.of_other _ (by omega)]
    rfl
  events := by
    rw [Account.events_append, ha.events, Account.events_same]
    exact hs.announced_eq.symm
  probes := by
    rw [Account.probes_append, ha.probes, Account.probes_same]
    exact hs.probes_eq.symm

end Accounted

namespace Guarded

variable {t : Station} {index : Nat}

theorem fresh : Guarded .fresh where
  free _ _ _ h := by cases h
  held h := by cases h

theorem started (hg : Guarded t) : Guarded t.started where
  free hrunning other p hp := by
    rcases Station.background_started hp with hp | ⟨-, rfl⟩
    · exact hg.free hrunning other p hp
    · rfl
  held hrunning := by
    obtain ⟨i, p, hp, hholds, halone⟩ := hg.held hrunning
    obtain ⟨hlt, -⟩ := List.getElem?_eq_some_iff.mp hp
    refine ⟨i, p, ?_, hholds, fun other q hq hother => ?_⟩
    · rw [Station.started, List.getElem?_append_left hlt]
      exact hp
    · rcases Station.background_started hq with hq | ⟨-, rfl⟩
      · exact halone other q hq hother
      · cases hother

/-- No two runs have the right to sweep. -/
theorem unique (hg : Guarded t) {i j : Nat} {p q : Phase} (hp : t.background[i]? = some p)
    (hholds : p.holds = true) (hq : t.background[j]? = some q) (hholds' : q.holds = true) :
    i = j := by
  cases hrunning : t.scanner.running with
  | false =>
    rw [hg.free hrunning i p hp] at hholds
    cases hholds
  | true =>
    obtain ⟨k, _, -, -, halone⟩ := hg.held hrunning
    exact (halone i p hp hholds).trans (halone j q hq hholds').symm

theorem stride (hg : Guarded t) (hphase : t.background[index]? = some phase)
    (hs : Stride plan t.scanner phase more phase' s') : Guarded (t.setRun index phase' s') := by
  have hnew : (t.setRun index phase' s').background[index]? = some phase' :=
    Station.background_self hphase
  rcases hs.holds_cases with ⟨-, hholds', hrunning, hrunning'⟩ | ⟨hholds, hholds', hrunning'⟩
    | ⟨hsame, hrunning⟩
  · -- nobody else has the right, or the flag would have been set
    refine ⟨fun h => ?_, fun _ => ⟨index, phase', hnew, hholds', fun other q hq hother => ?_⟩⟩
    · rw [show (t.setRun index phase' s').scanner = s' from rfl, hrunning'] at h
      cases h
    · rcases Station.background_setRun hq with ⟨heq, -⟩ | ⟨-, hq⟩
      · exact heq
      · rw [hg.free hrunning other q hq] at hother
        cases hother
  · -- it was the only one that had it
    refine ⟨fun _ other q hq => ?_, fun h => ?_⟩
    · rcases Station.background_setRun hq with ⟨-, rfl⟩ | ⟨hne, hq⟩
      · exact hholds'
      · by_contra hother
        exact hne (hg.unique hq (Bool.not_eq_false _ ▸ hother) hphase hholds)
    · rw [show (t.setRun index phase' s').scanner = s' from rfl, hrunning'] at h
      cases h
  · -- whoever had the right still has it
    have hbefore : ∀ (other : Nat) q, (t.setRun index phase' s').background[other]? = some q →
        ∃ p, t.background[other]? = some p ∧ p.holds = q.holds := by
      intro other q hq
      rcases Station.background_setRun hq with ⟨rfl, rfl⟩ | ⟨-, hq⟩
      · exact ⟨phase, hphase, hsame.symm⟩
      · exact ⟨q, hq, rfl⟩
    refine ⟨fun h other q hq => ?_, fun h => ?_⟩
    · obtain ⟨p, hp, hholds⟩ := hbefore other q hq
      rw [← hholds]
      exact hg.free (hrunning.symm.trans h) other p hp
    · obtain ⟨i, p, hp, hholds, halone⟩ := hg.held (hrunning.symm.trans h)
      have hi : ∃ p', (t.setRun index phase' s').background[i]? = some p' ∧ p'.holds = true := by
        by_cases heq : i = index
        · subst heq
          rw [hphase] at hp
          cases hp
          exact ⟨phase', hnew, hsame.trans hholds⟩
        · exact ⟨p, Station.background_other heq hp, hholds⟩
      obtain ⟨p', hp', hholds'⟩ := hi
      refine ⟨i, p', hp', hholds', fun other q hq hother => ?_⟩
      obtain ⟨p, hp, hholds⟩ := hbefore other q hq
      exact halone other p hp (hholds.trans hother)

end Guarded

-- ============================================================= the result

section

variable {moves : List Move} {t : Station}

/-- After every schedule the runs account for all that was done. -/
theorem accounted (h : Station.fresh.follow? plan moves = some t) :
    Accounted plan (Station.fresh.account plan moves) t :=
  Station.account_keep (P := Accounted plan) (.fresh plan) Accounted.started Accounted.stride h

/-- After every schedule the flag guards the right to sweep. -/
theorem guarded (h : Station.fresh.follow? plan moves = some t) : Guarded t :=
  Station.account_keep (P := fun _ t => Guarded t) .fresh Guarded.started Guarded.stride h

/-- Whether a run has the right to sweep can be told from the account. -/
theorem Accounted.holds_iff {account : Account} (ha : Accounted plan account t) (index : Nat) :
    account.Holds index ↔ ∃ phase, t.background[index]? = some phase ∧ phase.holds = true := by
  cases hphase : t.background[index]? with
  | none =>
    have hnothing := ha.unstarted index (List.getElem?_eq_none_iff.mp hphase)
    simp [Account.Holds, hnothing]
  | some phase =>
    rw [Account.Holds, (ha.course index phase hphase).holds_iff]
    simp

/-- While the flag is not set, whoever comes next gets the right to sweep. -/
theorem Station.run_claims {s : Station} (hfree : s.scanner.running = false) (lan : Lan) :
    ∃ s', s.follow? plan [.run, .step s.background.length lan] = some s'
      ∧ s'.background[s.background.length]? = some .claimed := by
  refine ⟨s.started.setRun s.background.length .claimed { s.scanner with running := true },
    ?_, ?_⟩
  · simp [follow?, move?, started, Phase.step, hfree]
  · simp [setRun, started]

end

/-- Runs of one scanner, started at any time, in the foreground or by a
trigger, with their steps in any order, whatever address the machine is
found to have, whatever the probes are answered, and with any of them given
up where they wait.

At most one run at a time has got the right to sweep and not yet let others
sweep again; the flag is set exactly as long as there is one, and is not set
while no run is under way, so that the next one can start. A run that is
refused ends at once, with nothing to give, and neither announces nor probes
anything. A run that gets the right announces its start, then its verdict,
then its end, each once: the result, which it then gives its caller, if it
has an address; the error if it has none; neither if it is given up
before. -/
theorem single_flight (plan : Plan) (moves : List Move) (s : Station)
    (h : Station.fresh.follow? plan moves = some s) :
    let account := Station.fresh.account plan moves
    account.events = s.scanner.announced ∧ account.probes = s.scanner.probes
      ∧ (∀ i j, account.Holds i → account.Holds j → i = j)
      ∧ (s.scanner.running = true ↔ ∃ i, account.Holds i)
      ∧ ((∀ phase ∈ s.background, phase = .idle ∨ ∃ result, phase = .ended result) →
          s.scanner.running = false)
      ∧ (s.scanner.running = false → ∀ lan,
          ∃ s', s.follow? plan [.run, .step s.background.length lan] = some s'
            ∧ s'.background[s.background.length]? = some .claimed)
      ∧ ∀ (i : Nat) phase, s.background[i]? = some phase →
        let deeds := account.of i
        let events := deeds.filterMap Deed.event?
        (Deed.refused ∈ deeds → deeds = [.refused] ∧ phase = .ended none)
          ∧ (Deed.claimed ∉ deeds → events = [] ∧ deeds.filterMap Deed.probe? = [])
          ∧ (Deed.claimed ∈ deeds → ∀ result, phase = .ended result →
              ∃ middle, Verdict deeds middle result
                ∧ events = Event.scannerRunning true :: middle ++ [Event.scannerRunning false])
          ∧ ((∀ result, phase ≠ .ended result) → events = []
              ∨ ∃ middle, events = Event.scannerRunning true :: middle
                ∧ (middle = [] ∨ ∃ result, Verdict deeds middle result))
          ∧ ∀ result, phase = .ended result → ∀ found,
              result = some found ↔ Event.scannerResolved found ∈ events := by
  intro account
  have ha := accounted h
  have hg := guarded h
  have hrunning : s.scanner.running = true ↔ ∃ i, account.Holds i := by
    constructor
    · intro hrunning
      obtain ⟨i, phase, hphase, hholds, -⟩ := hg.held hrunning
      exact ⟨i, (ha.holds_iff i).mpr ⟨phase, hphase, hholds⟩⟩
    · rintro ⟨i, hi⟩
      obtain ⟨phase, hphase, hholds⟩ := (ha.holds_iff i).mp hi
      by_contra hfree
      rw [hg.free (Bool.not_eq_true _ ▸ hfree) i phase hphase] at hholds
      cases hholds
  refine ⟨ha.events, ha.probes, fun i j hi hj => ?_, hrunning, fun hrest => ?_,
    fun hfree => Station.run_claims hfree, fun i phase hphase => ?_⟩
  · obtain ⟨p, hp, hholds⟩ := (ha.holds_iff i).mp hi
    obtain ⟨q, hq, hholds'⟩ := (ha.holds_iff j).mp hj
    exact hg.unique hp hholds hq hholds'
  · by_contra hheld
    obtain ⟨i, phase, hphase, hholds, -⟩ := hg.held (Bool.not_eq_false _ ▸ hheld)
    rcases hrest phase (List.mem_of_getElem? hphase) with rfl | ⟨result, rfl⟩ <;> cases hholds
  · have hcourse := ha.course i phase hphase
    refine ⟨hcourse.of_refused, hcourse.of_unclaimed, ?_, hcourse.of_unended, ?_⟩
    · rintro hclaimed result rfl
      exact hcourse.of_ended hclaimed
    · rintro result rfl found
      by_cases hclaimed : Deed.claimed ∈ account.of i
      · obtain ⟨middle, hverdict, hevents⟩ := hcourse.of_ended hclaimed
        rw [hevents, hverdict.result_iff]
        simp
      · rw [(hcourse.of_unclaimed hclaimed).1, hcourse.result_eq_none hclaimed]
        simp

/-- Three runs, one of them asked for by a trigger. The first one sweeps, and
finds that the machine has no address; the second one is refused meanwhile;
the third one is given up where it looks for the address. -/
theorem three_runs :
    let plan : Plan := ⟨[9100], 32⟩
    let silent (address : Option (Option Address)) : Lan := ⟨address, fun _ _ => false⟩
    let moves : List Move :=
      [.run, .trigger, .step 0 (silent none), .step 1 (silent none), .step 0 (silent none),
        .step 0 (silent (some none)), .step 0 (silent none), .step 0 (silent none), .trigger,
        .step 2 (silent none), .step 2 (silent none), .abandon 2]
    ∃ s, Station.fresh.follow? plan moves = some s
      ∧ s.scanner.announced
        = [.scannerRunning true, .registerError noAddress, .scannerRunning false,
          .scannerRunning true]
      ∧ s.scanner.running = true ∧ s.background[1]? = some (Phase.ended none)
      ∧ (∀ i, (Station.fresh.account plan moves).Holds i → i = 2)
      ∧ ∃ middle, Verdict ((Station.fresh.account plan moves).of 0) middle none
        ∧ middle = [.registerError noAddress] := by
  intro plan silent moves
  have hfollow : ∃ s, Station.fresh.follow? plan moves = some s
      ∧ s.background = [.ended none, .ended none, .concluding none] := ⟨_, rfl, rfl⟩
  obtain ⟨s, hs, hbackground⟩ := hfollow
  obtain ⟨hevents, -, halone, hrunning, -, -, hruns⟩ := single_flight plan moves s hs
  have hholds : (Station.fresh.account plan moves).Holds 2 := by decide
  obtain ⟨-, -, hended, -, -⟩ := hruns 0 (.ended none) (by rw [hbackground]; rfl)
  obtain ⟨middle, hverdict, hmiddle⟩ := hended (by decide) none rfl
  refine ⟨s, hs, hevents.symm.trans rfl, hrunning.mpr ⟨2, hholds⟩, ?_,
    fun i hi => halone i 2 hi hholds, middle, hverdict, ?_⟩
  · rw [hbackground]
    rfl
  · have hown : ((Station.fresh.account plan moves).of 0).filterMap Deed.event?
        = Event.scannerRunning true :: [.registerError noAddress]
          ++ [Event.scannerRunning false] := rfl
    rw [hown] at hmiddle
    exact (List.append_cancel_right (List.cons.inj hmiddle).2).symm

end ReceiptPrinter.Scan
