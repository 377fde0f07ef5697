/-
Every sweep finds what there is to find.

The window of a run knows its sweep (`Window.Split`), so the order in which
probes are answered makes no difference to what a run finds, nor to what it
tries. Every answer leaves less to do, so there are only so many, and a run
that has its address can always go on: it gets to its end.
-/
import ReceiptPrinter.Proofs.Scan.Protocol
import ReceiptPrinter.Proofs.Scan.Window

namespace ReceiptPrinter.Scan

open Net (Address)

-- ========================================================= what was tried

section

variable {deeds more : List Deed}

theorem asked_append : asked (deeds ++ more) = fun host => asked deeds host ++ asked more host := by
  funext host
  exact List.filterMap_append

theorem asked_probed (host : Address) (port : UInt16) (reachable : Bool) :
    asked (deeds ++ [Deed.probed host port reachable])
      = fun other => if other = host then asked deeds other ++ [port] else asked deeds other := by
  rw [asked_append]
  funext other
  by_cases heq : other = host
  · simp [asked, Deed.port?, heq]
  · simp [asked, Deed.port?, heq, Ne.symm heq]

theorem Faithful.of_append {reach : Reach} (h : Faithful reach (deeds ++ more)) :
    Faithful reach deeds ∧ Faithful reach more :=
  ⟨fun host port reachable hmem => h host port reachable (List.mem_append_left _ hmem),
    fun host port reachable hmem => h host port reachable (List.mem_append_right _ hmem)⟩

end

-- ============================================================ the sweep

namespace Sweeps

variable {plan : Plan} {reach : Reach} {own : Address} {deeds : List Deed} {w : Window}

/-- The window of a sweep accounts for what was tried. -/
theorem split (h : Sweeps plan own deeds w) (hreach : Faithful reach deeds) :
    ∃ gone inside, w.Split plan reach own (asked deeds) gone inside := by
  induction h with
  | start => exact Window.Split.start plan reach own
  | @probed deeds w slot host port h reachable hprobe ih =>
    obtain ⟨hbefore, hlast⟩ := hreach.of_append
    obtain ⟨gone, inside, hsplit⟩ := ih hbefore
    rw [asked_probed, hlast host port reachable (List.mem_singleton_self _)]
    exact hsplit.answer hprobe

theorem tight (h : Sweeps plan own deeds w) : w.Tight plan := by
  induction h with
  | start => exact Window.start_tight plan own
  | @probed _ _ slot _ _ h reachable hprobe ih => exact ih.answer slot reachable

/-- A sweep has only so many probes. -/
theorem length_le (h : Sweeps plan own deeds w) :
    deeds.length + w.work plan ≤ 255 * plan.ports.length := by
  induction h with
  | start => exact Nat.le_of_eq ((Nat.zero_add _).trans (Window.work_start plan own))
  | @probed deeds w slot host port h reachable hprobe ih =>
    have hless : _ ≤ w.work plan := Window.work_answer hprobe reachable
    rw [List.length_append, List.length_singleton]
    omega

/-- When a sweep is done, it has found the devices, and has tried on every
host what was to be tried. -/
theorem found_eq (h : Sweeps plan own deeds w) (hreach : Faithful reach deeds)
    (hlimit : 1 ≤ plan.limit) (hdone : w.oldest? = none) :
    w.found = devices reach plan.ports own
      ∧ ∀ host, Neighbours own host → asked deeds host = tried reach plan.ports host := by
  obtain ⟨gone, inside, hsplit⟩ := h.split hreach
  obtain ⟨hslots, hwaiting⟩ := h.tight.done hlimit hdone
  have hinside : inside = [] := List.eq_nil_of_length_eq_zero (by
    rw [hsplit.tracked.length_eq, hslots, List.length_nil])
  have hgone : hosts own = gone := by
    rw [hsplit.parts, hinside, hwaiting, List.append_nil, List.append_nil]
  refine ⟨?_, fun host hhost => hsplit.exhausted host (hgone ▸ mem_hosts.mpr hhost)⟩
  rw [hsplit.found, devices, hgone]

/-- At any time, ports have only been tried as long as there was need. -/
theorem asked_cases (h : Sweeps plan own deeds w) (hreach : Faithful reach deeds)
    (host : Address) :
    (asked deeds host ≠ [] → Neighbours own host)
      ∧ (Tries reach plan.ports host (asked deeds host)
        ∨ Exhausts reach plan.ports host (asked deeds host)) := by
  obtain ⟨gone, inside, hsplit⟩ := h.split hreach
  have huntried : asked deeds host = [] → Tries reach plan.ports host (asked deeds host) :=
    fun hnone => ⟨plan.ports, by rw [hnone, List.nil_append], by rw [hnone]; exact nofun⟩
  by_cases hhost : host ∈ hosts own
  · refine ⟨fun _ => mem_hosts.mp hhost, ?_⟩
    rw [hsplit.parts, List.mem_append, List.mem_append] at hhost
    rcases hhost with (hgone | hinside) | hwaiting
    · rw [hsplit.exhausted host hgone]
      exact .inr (tried_exhausts reach plan.ports host)
    · obtain ⟨slot, htracks⟩ := hsplit.exists_tracks hinside
      cases htracks with
      | probing hports hasked => exact .inl ⟨_, hports, hasked⟩
      | settled hasked =>
        rw [hasked]
        exact .inr (tried_exhausts reach plan.ports host)
    · exact .inl (huntried (hsplit.untried host hwaiting))
  · exact ⟨fun hne => absurd (hsplit.strangers host hhost) hne,
      .inl (huntried (hsplit.strangers host hhost))⟩

end Sweeps

-- ======================================================= a run's sweep

section

variable {plan : Plan} {own : Address} {deeds : List Deed} {phase : Phase}

/-- The sweep of a run that has learned its address: its probes are those of
the run, it goes on while the run is sweeping, and it is done when its result
is announced. -/
structure Swept (plan : Plan) (own : Address) (deeds : List Deed) (phase : Phase)
    (probes : List Deed) (w : Window) : Prop where
  sweeps : Sweeps plan own probes w
  subset : ∀ deed ∈ probes, deed ∈ deeds
  asked_eq : asked deeds = asked probes
  located : ∀ other, Deed.located other ∈ deeds → other = some own
  sweeping : ∀ w', phase = .sweeping w' → w' = w
  resolved : ∀ found, Deed.announced (.scannerResolved found) ∈ deeds →
    w.oldest? = none ∧ found = w.found

/-- Deeds that try nothing add nothing to what was tried. -/
theorem asked_of_idle {more : List Deed} (h : ∀ deed ∈ more, ∀ host, deed.port? host = none) :
    asked more = fun _ => [] := by
  funext host
  exact List.filterMap_eq_nil_iff.mpr fun deed hdeed => h deed hdeed host

theorem Sweeps.swept {probes : List Deed} {w : Window} (h : Sweeps plan own probes w)
    {last : List Deed} (hlocated : ∀ other, Deed.located other ∉ last)
    (hidle : ∀ deed ∈ last, ∀ host, deed.port? host = none)
    (hsweeping : ∀ w', phase = .sweeping w' → w' = w)
    (hresolved : ∀ found, Deed.announced (.scannerResolved found) ∈ last →
      w.oldest? = none ∧ found = w.found) :
    Swept plan own (Deed.located (some own) :: probes ++ last) phase probes w where
  sweeps := h
  subset deed hdeed := List.mem_append_left _ (List.mem_cons_of_mem _ hdeed)
  asked_eq := by
    rw [asked_append, asked_of_idle hidle]
    funext host
    exact List.append_nil _
  located other hmem := by
    rcases List.mem_append.mp hmem with hmem | hmem
    · rcases List.mem_cons.mp hmem with heq | hmem
      · exact Deed.located.inj heq
      · obtain ⟨_, _, _, heq⟩ := h.eq_probed hmem
        cases heq
    · exact absurd hmem (hlocated other)
  sweeping := hsweeping
  resolved found hmem := by
    rcases List.mem_append.mp hmem with hmem | hmem
    · obtain ⟨_, _, _, heq⟩ := h.eq_probed ((List.mem_cons.mp hmem).resolve_left nofun)
      cases heq
    · exact hresolved found hmem

theorem Inquiry.swept (h : Inquiry plan deeds phase) (hown : Deed.located (some own) ∈ deeds) :
    ∃ probes w, Swept plan own deeds phase probes w := by
  -- the address that was learned first is the only one
  have hsame : ∀ {own' probes w}, Swept plan own' deeds phase probes w →
      ∃ probes w, Swept plan own deeds phase probes w := by
    intro own' probes w hswept
    cases hswept.located _ hown
    exact ⟨probes, w, hswept⟩
  cases h with
  | locating => cases hown
  | nowhere => simp at hown
  | unlocated => simp at hown
  | @sweeping own' probes w h =>
    have hswept :
        Swept plan own' (Deed.located (some own') :: probes ++ []) (.sweeping w) probes w :=
      h.swept nofun nofun (fun w' heq => (Phase.sweeping.inj heq).symm) nofun
    rw [List.append_nil] at hswept
    exact hsame hswept
  | resolved h hdone =>
    refine hsame (h.swept (by simp) (by simp [Deed.port?]) nofun fun found hmem => ⟨hdone, ?_⟩)
    cases List.mem_singleton.mp hmem
    rfl
  | unswept h =>
    exact hsame (h.swept (by simp) (by simp [Deed.port?]) nofun (by simp))

/-- What a run does before and after its inquiry does not matter to its
sweep. -/
theorem Swept.wrap {probes : List Deed} {w : Window} (h : Swept plan own deeds phase probes w)
    {phase' : Phase} {before after : List Deed} (hbefore : ∀ deed ∈ before, deed.isInner = false)
    (hafter : ∀ deed ∈ after, deed.isInner = false)
    (hphase : ∀ w', phase' = .sweeping w' → phase = .sweeping w') :
    Swept plan own (before ++ deeds ++ after) phase' probes w := by
  have hidle : ∀ {outer : List Deed}, (∀ deed ∈ outer, deed.isInner = false) →
      asked outer = fun _ => [] := by
    intro outer houter
    refine asked_of_idle fun deed hdeed host => ?_
    cases deed with
    | probed other port reachable => cases houter _ hdeed
    | _ => rfl
  have hinner : ∀ {deed : Deed}, deed.isInner = true → deed ∈ before ++ deeds ++ after →
      deed ∈ deeds := by
    intro deed hdeed hmem
    rcases List.mem_append.mp hmem with hmem | hmem
    · refine (List.mem_append.mp hmem).resolve_left fun hmem => ?_
      rw [hbefore deed hmem] at hdeed
      cases hdeed
    · rw [hafter deed hmem] at hdeed
      cases hdeed
  refine ⟨h.sweeps, fun deed hdeed => ?_, ?_, fun other hmem => h.located other (hinner rfl hmem),
    fun w' heq => h.sweeping w' (hphase w' heq),
    fun found hmem => h.resolved found (hinner rfl hmem)⟩
  · exact List.mem_append_left _ (List.mem_append_right _ (h.subset deed hdeed))
  · rw [asked_append, asked_append, hidle hbefore, hidle hafter, h.asked_eq]
    funext host
    exact List.append_nil _

theorem Course.swept (h : Course plan deeds phase) (hown : Deed.located (some own) ∈ deeds) :
    ∃ probes w, Swept plan own deeds phase probes w := by
  have hclaimed : ∀ deed ∈ [Deed.claimed, .announced (.scannerRunning true)],
      deed.isInner = false := by decide
  cases h with
  | idle => cases hown
  | refused => simp at hown
  | unbegun => simp at hown
  | claimed => simp at hown
  | @inquiring inner _ h =>
    have hinner : Deed.located (some own) ∈ inner := by simpa using hown
    obtain ⟨probes, w, hswept⟩ := h.swept hinner
    have hwrapped : Swept plan own (_ ++ inner ++ []) phase probes w :=
      hswept.wrap hclaimed nofun fun w' heq => heq
    rw [List.append_nil] at hwrapped
    exact ⟨probes, w, hwrapped⟩
  | @cleared inner _ h =>
    have hinner : Deed.located (some own) ∈ inner := by simpa using hown
    obtain ⟨probes, w, hswept⟩ := h.swept hinner
    exact ⟨probes, w, hswept.wrap hclaimed (by decide) nofun⟩
  | @finished inner _ h =>
    have hinner : Deed.located (some own) ∈ inner := by simpa using hown
    obtain ⟨probes, w, hswept⟩ := h.swept hinner
    exact ⟨probes, w, hswept.wrap hclaimed (by decide) nofun⟩

theorem Inquiry.length_le (h : Inquiry plan deeds phase) :
    deeds.length ≤ 255 * plan.ports.length + 2 := by
  cases h with
  | locating => exact Nat.zero_le _
  | nowhere => exact Nat.le_add_left 2 _
  | unlocated => exact Nat.le_add_left 1 (_ + 1)
  | sweeping h =>
    have hprobes := h.length_le
    rw [List.length_cons]
    omega
  | resolved h hdone =>
    have hprobes := h.length_le
    rw [List.length_append, List.length_cons, List.length_singleton]
    omega
  | unswept h =>
    have hprobes := h.length_le
    rw [List.length_append, List.length_cons, List.length_singleton]
    omega

/-- A run does only so much. -/
theorem Course.length_le (h : Course plan deeds phase) :
    deeds.length ≤ 255 * plan.ports.length + 6 := by
  cases h with
  | idle => exact Nat.zero_le _
  | refused => exact Nat.le_add_left 1 (_ + 5)
  | unbegun => exact Nat.le_add_left 1 (_ + 5)
  | claimed => exact Nat.le_add_left 1 (_ + 5)
  | inquiring h =>
    have hinner := h.length_le
    rw [List.length_append]
    show 2 + _ ≤ _
    omega
  | cleared h =>
    have hinner := h.length_le
    rw [List.length_append, List.length_append]
    show 2 + _ + 1 ≤ _
    omega
  | finished h =>
    have hinner := h.length_le
    rw [List.length_append, List.length_append]
    show 2 + _ + 2 ≤ _
    omega

/-- The result of a run that has its address and is not given up is
announced. -/
theorem Course.resolved {result : Option (List NetIdentity)} (h : Course plan deeds (.ended result))
    (hown : Deed.located (some own) ∈ deeds) (hgoes : Deed.abandoned ∉ deeds) :
    ∃ found, result = some found ∧ Deed.announced (.scannerResolved found) ∈ deeds := by
  obtain ⟨probes, w, hswept⟩ := h.swept hown
  have hclaimed : Deed.claimed ∈ deeds := by
    cases h with
    | refused => simp at hown
    | unbegun => simp at hown
    | inquiring h => cases h
    | finished h => exact List.mem_cons_self
  obtain ⟨middle, hverdict, hevents⟩ := h.of_ended hclaimed
  cases hverdict with
  | abandoned habandoned => exact absurd habandoned hgoes
  | nowhere _ hnone => cases hswept.located none hnone
  | resolved found _ _ =>
    refine ⟨found, rfl, ?_⟩
    have hmem : Event.scannerResolved found ∈ deeds.filterMap Deed.event? := by simp [hevents]
    obtain ⟨deed, hdeed, hevent⟩ := List.mem_filterMap.mp hmem
    cases deed with
    | announced e => exact Option.some.inj hevent ▸ hdeed
    | _ => cases hevent

end

-- ====================================================== a run by itself

/-- A deed as the surroundings have it, of a run that is not given up. -/
def Deed.Fits (lan : Lan) : Deed → Prop
  | located own => lan.address = some own
  | probed host port reachable => reachable = lan.reach host port
  | abandoned => False
  | claimed | refused | announced _ | cleared => True

theorem Phase.deeds_fit (lan : Lan) (s : Scanner) (phase : Phase) :
    ∀ deed ∈ phase.deeds lan s, deed.Fits lan := by
  cases phase with
  | idle => cases hrunning : s.running <;> simp [deeds, hrunning, Deed.Fits]
  | claimed => simp [deeds, Deed.Fits]
  | locating =>
    obtain ⟨address, reach⟩ := lan
    rcases address with _ | _ | own <;> simp [deeds, Deed.Fits]
  | sweeping w =>
    simp only [deeds]
    split <;> simp [Deed.Fits]
  | concluding result => simp [deeds, Deed.Fits]
  | cleared result => simp [deeds, Deed.Fits]
  | ended result => simp [deeds]

/-- In surroundings that are known, only a run that has ended has no next
step. -/
theorem Phase.step_eq_none {plan : Plan} {lan : Lan} {phase : Phase} {s : Scanner}
    (hlan : lan.address ≠ none) (h : phase.step plan lan s = none) :
    ∃ result, phase = .ended result := by
  cases phase with
  | ended result => exact ⟨result, rfl⟩
  | locating =>
    obtain ⟨address, reach⟩ := lan
    rcases address with _ | _ | own
    · exact absurd rfl hlan
    · cases h
    · cases h
  | sweeping w =>
    simp only [step] at h
    split at h <;> cases h
  | idle => cases h
  | claimed => cases h
  | concluding result => cases h
  | cleared result => cases h

/-- A step is a deed. -/
theorem Stride.length_pos {plan : Plan} {phase phase' : Phase} {s s' : Scanner} {more : List Deed}
    (hs : Stride plan s phase more phase' s') : 1 ≤ more.length := by
  cases hs <;> simp

/-- With as many steps as there can be deeds, a run gets to its end. -/
theorem Course.advance {plan : Plan} {lan : Lan} {deeds : List Deed} {phase : Phase}
    (h : Course plan deeds phase) (hlan : lan.address ≠ none) (s : Scanner) {fuel : Nat}
    (hfuel : 255 * plan.ports.length + 6 < deeds.length + fuel) :
    ∃ result more, (Phase.advanceWithin plan lan fuel phase s).1 = .ended result
      ∧ Course plan (deeds ++ more) (.ended result) ∧ ∀ deed ∈ more, deed.Fits lan := by
  induction fuel generalizing deeds phase s with
  | zero => exact absurd h.length_le (Nat.not_le_of_lt hfuel)
  | succ fuel ih =>
    rw [Phase.advanceWithin]
    cases hstep : phase.step plan lan s with
    | none =>
      obtain ⟨result, rfl⟩ := Phase.step_eq_none hlan hstep
      exact ⟨result, [], rfl, (List.append_nil deeds).symm ▸ h, nofun⟩
    | some next =>
      obtain ⟨phase', s'⟩ := next
      have hstride := Stride.of_step hstep
      have hpos := hstride.length_pos
      obtain ⟨result, more, hend, hcourse, hfits⟩ := ih (h.stride hstride) s' (by
        rw [List.length_append]
        omega)
      rw [List.append_assoc] at hcourse
      exact ⟨result, _, hend, hcourse,
        List.forall_mem_append.mpr ⟨phase.deeds_fit lan s, hfits⟩⟩

-- ============================================================= the result

/-- A run finds the devices, whatever the order of the answers was. -/
theorem Course.found_eq {plan : Plan} {reach : Reach} {own : Address} {deeds : List Deed}
    {phase : Phase} (h : Course plan deeds phase) (hown : Deed.located (some own) ∈ deeds)
    (hreach : Faithful reach deeds) (hlimit : 1 ≤ plan.limit) {found : List NetIdentity}
    (hfound : Deed.announced (.scannerResolved found) ∈ deeds) :
    found = devices reach plan.ports own
      ∧ ∀ host, Neighbours own host → asked deeds host = tried reach plan.ports host := by
  obtain ⟨probes, w, hswept⟩ := h.swept hown
  obtain ⟨hdone, rfl⟩ := hswept.resolved found hfound
  rw [hswept.asked_eq]
  exact hswept.sweeps.found_eq (fun _ _ _ hmem => hreach _ _ _ (hswept.subset _ hmem)) hlimit hdone

/-- A run that nobody hinders returns the devices. -/
theorem Station.run_eq {plan : Plan} (own : Address) (reach : Reach) (hlimit : 1 ≤ plan.limit)
    {t : Station} (hfree : t.scanner.running = false) :
    (t.run plan ⟨some (some own), reach⟩).1 = some (devices reach plan.ports own) := by
  let lan : Lan := ⟨some (some own), reach⟩
  have hclaim : Phase.idle.advance plan lan t.scanner
      = Phase.advanceWithin plan lan (255 * plan.ports.length + 6) .claimed
        { t.scanner with running := true } := by
    rw [Phase.advance, Phase.mostSteps, Phase.advanceWithin, Phase.step, hfree,
      if_neg Bool.false_ne_true]
  have hcourse : Course plan [.claimed] .claimed := .claimed
  have hlan : lan.address ≠ none := Option.some_ne_none _
  obtain ⟨result, more, hend, hcourse, hfits⟩ := hcourse.advance hlan
    { t.scanner with running := true } (Nat.lt_add_of_pos_left Nat.one_pos)
  have hmore : ∀ {deed}, deed ∈ [Deed.claimed] ++ more → deed ≠ .claimed → deed.Fits lan :=
    fun hmem hne => hfits _ ((List.mem_cons.mp hmem).resolve_left hne)
  have hgoes : Deed.abandoned ∉ [Deed.claimed] ++ more := fun hmem => hmore hmem (by simp)
  -- the only address it can have learned is its own
  have hown : Deed.located (some own) ∈ [Deed.claimed] ++ more := by
    obtain ⟨middle, hverdict, -⟩ := hcourse.of_ended List.mem_cons_self
    cases hverdict with
    | abandoned habandoned => exact absurd habandoned hgoes
    | nowhere _ hnone => cases hmore hnone (by simp)
    | resolved found _ hother =>
      cases hmore hother (by simp)
      exact hother
  obtain ⟨found, rfl, hfound⟩ := hcourse.resolved hown hgoes
  have hreach : Faithful reach ([Deed.claimed] ++ more) := fun host port reachable hmem =>
    hmore hmem (by simp)
  rw [← (hcourse.found_eq hown hreach hlimit hfound).1]
  rw [← hclaim] at hend
  cases hadvance : Phase.idle.advance plan lan t.scanner with
  | mk phase scanner =>
    rw [hadvance] at hend
    cases hend
    rw [Station.run, hadvance]

/-- A run that has learned its address, with its steps and the answers to its
probes in any order, and other runs beside it.

It finds what there is to find: the other hosts of its network on which some
of the ports answers, in ascending order and each at most once, with the first
such port. That is what it announces, whatever the order was, and what it
gives its caller when it ends, unless it is given up. On every host it tries
the ports in order, no further than to the first one that answers, and on its
own address none; when it announces what it has found it has tried them so
far. It never has more probes under way than the settings allow, or one if
they allow none, and no other run has any then; each goes on where its host
has been tried so far.

It does get to its end: there is a bound to what it can do, and it can always
go on. One that nobody hinders ends at once. -/
theorem sweep_is_exact (settings : Settings) (reach : Reach) (own : Address) (moves : List Move)
    (s : Station) (h : Station.fresh.follow? (.ofSettings settings) moves = some s) (i : Nat)
    (phase : Phase) (hphase : s.background[i]? = some phase)
    (hown : Deed.located (some own) ∈ (Station.fresh.account (.ofSettings settings) moves).of i)
    (hreach : Faithful reach ((Station.fresh.account (.ofSettings settings) moves).of i)) :
    let ports := settings.scanPorts
    let deeds := (Station.fresh.account (.ofSettings settings) moves).of i
    Finds reach ports own (devices reach ports own)
      ∧ ((devices reach ports own).map (·.host)).Nodup
      ∧ (∀ found, Deed.announced (.scannerResolved found) ∈ deeds →
          found = devices reach ports own
            ∧ ∀ host, Neighbours own host → Exhausts reach ports host (asked deeds host))
      ∧ (∀ result, phase = .ended result → Deed.abandoned ∉ deeds →
          result = some (devices reach ports own)
            ∧ Deed.announced (.scannerResolved (devices reach ports own)) ∈ deeds)
      ∧ (∀ host, (asked deeds host ≠ [] → Neighbours own host)
          ∧ (Tries reach ports host (asked deeds host)
            ∨ Exhausts reach ports host (asked deeds host)))
      ∧ (∀ w, phase = .sweeping w → w.outstanding ≤ max settings.scanConcurrency 1
          ∧ (∀ (j : Nat) w', s.background[j]? = some (.sweeping w') → j = i)
          ∧ ∀ slot host port, w.probe? slot = some (host, port) → Neighbours own host
            ∧ Tries reach ports host (asked deeds host) ∧ (asked deeds host ++ [port]) <+: ports)
      ∧ deeds.length ≤ 255 * ports.length + 6
      ∧ (∀ lan, lan.address ≠ none → (∀ result, phase ≠ .ended result) →
          ∃ next, phase.step (.ofSettings settings) lan s.scanner = some next)
      ∧ ∀ t : Station, t.scanner.running = false →
          (t.run (.ofSettings settings) ⟨some (some own), reach⟩).1
            = some (devices reach ports own) := by
  intro ports deeds
  have hlimit : 1 ≤ (Plan.ofSettings settings).limit := Nat.le_max_right _ _
  have hcourse := (accounted h).course i phase hphase
  obtain ⟨probes, w, hswept⟩ := hcourse.swept hown
  have hprobes : Faithful reach probes := fun _ _ _ hmem =>
    hreach _ _ _ (hswept.subset _ hmem)
  have hfinds := devices_finds reach ports own
  have hfound : ∀ found, Deed.announced (.scannerResolved found) ∈ deeds →
      found = devices reach ports own
        ∧ ∀ host, Neighbours own host → Exhausts reach ports host (asked deeds host) := by
    intro found hmem
    obtain ⟨hfound, htried⟩ := hcourse.found_eq hown hreach hlimit hmem
    refine ⟨hfound, fun host hhost => ?_⟩
    rw [htried host hhost]
    exact tried_exhausts reach ports host
  refine ⟨hfinds, hfinds.nodup, hfound, ?_, ?_, ?_, hcourse.length_le, ?_,
    fun t hfree => Station.run_eq own reach hlimit hfree⟩
  · rintro result rfl hgoes
    obtain ⟨found, rfl, hmem⟩ := hcourse.resolved hown hgoes
    obtain ⟨rfl, -⟩ := hfound found hmem
    exact ⟨rfl, hmem⟩
  · intro host
    show (asked deeds host ≠ [] → _) ∧ (Tries _ _ _ (asked deeds host) ∨ _)
    rw [hswept.asked_eq]
    exact hswept.sweeps.asked_cases hprobes host
  · rintro w' rfl
    cases hswept.sweeping w' rfl
    refine ⟨hswept.sweeps.tight.outstanding_le, fun j w' hother => ?_,
      fun slot host port hprobe => ?_⟩
    · exact (guarded h).unique hother rfl hphase rfl
    obtain ⟨gone, inside, hsplit⟩ := hswept.sweeps.split hprobes
    obtain ⟨hinside, hasked, later, hports⟩ := hsplit.probe hprobe
    rw [← hswept.asked_eq] at hasked hports
    refine ⟨mem_hosts.mp ?_, ⟨port :: later, hports, hasked⟩, later, ?_⟩
    · rw [hsplit.parts]
      exact List.mem_append_left _ (List.mem_append_right _ hinside)
    · rw [List.append_assoc]
      exact hports.symm
  · intro lan hlan hopen
    cases hstep : phase.step (.ofSettings settings) lan s.scanner with
    | none =>
      obtain ⟨result, rfl⟩ := Phase.step_eq_none hlan hstep
      exact absurd rfl (hopen result)
    | some next => exact ⟨next, rfl⟩

/-- A run that looks at two hosts at a time. The second host answers before
the first one does, which has no port that answers. -/
theorem sweep_in_disorder :
    let settings : Settings :=
      { Settings.default with scanPorts := [9100, 80], scanConcurrency := 2 }
    let plan := Plan.ofSettings settings
    let own : Address := ⟨10, 0, 0, 0⟩
    let reach : Reach := fun host port => host.host == 2 && port == 9100
    let lan : Lan := ⟨some (some own), reach⟩
    let moves : List Move :=
      [.run, .step 0 lan, .step 0 lan, .step 0 lan, .answer 0 1 true, .answer 0 0 false,
        .answer 0 0 false]
    ∃ (s : Station) (w : Window), Station.fresh.follow? plan moves = some s
      ∧ s.background[0]? = some (Phase.sweeping w)
      ∧ w.outstanding ≤ 2 ∧ w.probe? 1 = some (⟨10, 0, 0, 4⟩, 9100)
      ∧ Neighbours own ⟨10, 0, 0, 4⟩
      ∧ (Station.fresh.run plan lan).1 = some [⟨"10.0.0.2", 9100⟩] := by
  intro settings plan own reach lan moves
  have hfollow : ∃ (s : Station) (w : Window), Station.fresh.follow? plan moves = some s
      ∧ s.background[0]? = some (Phase.sweeping w) ∧ w.probe? 1 = some (⟨10, 0, 0, 4⟩, 9100) :=
    ⟨_, _, rfl, rfl, rfl⟩
  obtain ⟨s, w, hs, hphase, hprobe⟩ := hfollow
  have hdeeds : (Station.fresh.account plan moves).of 0
      = [.claimed, .announced (.scannerRunning true), .located (some own),
        .probed ⟨10, 0, 0, 2⟩ 9100 true, .probed ⟨10, 0, 0, 1⟩ 9100 false,
        .probed ⟨10, 0, 0, 1⟩ 80 false] := by decide +kernel
  have hreach : Faithful reach ((Station.fresh.account plan moves).of 0) := by
    intro host port reachable hmem
    simp only [hdeeds, List.mem_cons, Deed.probed.injEq, reduceCtorEq, false_or, List.not_mem_nil,
      or_false] at hmem
    rcases hmem with ⟨rfl, rfl, rfl⟩ | ⟨rfl, rfl, rfl⟩ | ⟨rfl, rfl, rfl⟩ <;> rfl
  obtain ⟨-, -, -, -, -, hsweeping, -, -, hrun⟩ := sweep_is_exact settings reach own moves s hs 0
    (.sweeping w) hphase (by decide) hreach
  obtain ⟨houtstanding, -, hprobes⟩ := hsweeping w rfl
  have hneighbours := (hprobes 1 _ _ hprobe).1
  have hreturned := hrun Station.fresh rfl
  refine ⟨s, w, hs, hphase, houtstanding, hprobe, hneighbours, ?_⟩
  rw [hreturned]
  decide

end ReceiptPrinter.Scan
