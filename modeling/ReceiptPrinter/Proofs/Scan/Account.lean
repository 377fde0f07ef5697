/-
The strides of a schedule.

A move either starts a run, or does nothing, or is a stride of one run:
`Stride` lists what a run can do at once, what it looks like before and
after, and what becomes of the scanner. `account_keep` hands a whole
schedule over as strides, so that what holds of a fresh station and is kept
by every stride holds of every schedule and its account.
-/
import ReceiptPrinter.Scan.Account
import Mathlib.Data.List.Induction

namespace ReceiptPrinter.Scan

open Net (Address)

-- ============================================================== accounts

namespace Account

variable (account more : Account) (index : Nat)

theorem of_append : Account.of (account ++ more) index = account.of index ++ more.of index :=
  List.filterMap_append

theorem events_append : Account.events (account ++ more) = account.events ++ more.events :=
  List.filterMap_append

theorem probes_append : Account.probes (account ++ more) = account.probes ++ more.probes :=
  List.filterMap_append

/-- All that one run does is its own. -/
theorem of_same (deeds : List Deed) :
    Account.of (deeds.map (index, ·)) index = deeds := by
  rw [Account.of, List.filterMap_map]
  simp only [Function.comp_def, ↓reduceIte, List.filterMap_some]

/-- What one run does is not done by another. -/
theorem of_other {other : Nat} (h : other ≠ index) (deeds : List Deed) :
    Account.of (deeds.map (index, ·)) other = [] := by
  simp [Account.of, Ne.symm h]

theorem events_same (deeds : List Deed) :
    Account.events (deeds.map (index, ·)) = deeds.filterMap Deed.event? :=
  List.filterMap_map

theorem probes_same (deeds : List Deed) :
    Account.probes (deeds.map (index, ·)) = deeds.filterMap Deed.probe? :=
  List.filterMap_map

end Account

-- =============================================================== strides

/-- What a run does at once, from how far it had come to how far it comes,
and the scanner before and after. -/
inductive Stride (plan : Plan) (s : Scanner) : Phase → List Deed → Phase → Scanner → Prop where
  | claimed (h : s.running = false) :
    Stride plan s .idle [.claimed] .claimed { s with running := true }
  | refused (h : s.running = true) : Stride plan s .idle [.refused] (.ended none) s
  | started :
    Stride plan s .claimed [.announced (.scannerRunning true)] .locating
      (s.announce (.scannerRunning true))
  | nowhere :
    Stride plan s .locating [.located none, .announced (.registerError noAddress)]
      (.concluding none) (s.announce (.registerError noAddress))
  | located (own : Address) :
    Stride plan s .locating [.located (some own)] (.sweeping (.start plan own)) s
  | probed {w : Window} {slot : Nat} {host : Address} {port : UInt16} (reachable : Bool)
    (h : w.probe? slot = some (host, port)) :
    Stride plan s (.sweeping w) [.probed host port reachable]
      (.sweeping (w.answer plan slot reachable)) { s with probes := s.probes ++ [(host, port)] }
  | resolved {w : Window} (h : w.oldest? = none) :
    Stride plan s (.sweeping w) [.announced (.scannerResolved w.found)]
      (.concluding (some w.found)) (s.announce (.scannerResolved w.found))
  | cleared (result : Option (List NetIdentity)) :
    Stride plan s (.concluding result) [.cleared] (.cleared result) { s with running := false }
  | finished (result : Option (List NetIdentity)) :
    Stride plan s (.cleared result) [.announced (.scannerRunning false)] (.ended result)
      (s.announce (.scannerRunning false))
  | unbegun : Stride plan s .idle [.abandoned] (.ended none) s
  | abandoned {phase : Phase} (h : phase = .locating ∨ ∃ w, phase = .sweeping w) :
    Stride plan s phase [.abandoned] (.concluding none) s

/-- The probe that has been under way longest is under way. -/
theorem Window.probe?_of_oldest? {w : Window} {slot : Nat} {host : Address} {port : UInt16}
    (h : w.oldest? = some (slot, host, port)) : w.probe? slot = some (host, port) := by
  unfold oldest? at h
  obtain ⟨⟨entry, index⟩, hmem, hentry⟩ := List.exists_of_findSome?_eq_some h
  have hslot := List.mem_zipIdx_iff_getElem?.mp hmem
  cases entry with
  | settled device => cases hentry
  | probing host' port' later =>
    cases hentry
    unfold probe?
    rw [hslot]

/-- A step of a run is a stride. -/
theorem Stride.of_step {plan : Plan} {lan : Lan} {phase phase' : Phase} {s s' : Scanner}
    (h : phase.step plan lan s = some (phase', s')) :
    Stride plan s phase (phase.deeds lan s) phase' s' := by
  cases phase with
  | idle =>
    simp only [Phase.step, Option.some.injEq] at h
    cases hrunning : s.running with
    | true =>
      rw [hrunning, if_pos rfl] at h
      cases h
      simpa [Phase.deeds, hrunning] using Stride.refused hrunning
    | false =>
      rw [hrunning, if_neg Bool.false_ne_true] at h
      cases h
      simpa [Phase.deeds, hrunning] using Stride.claimed hrunning
  | claimed =>
    cases h
    exact .started
  | locating =>
    obtain ⟨address, reach⟩ := lan
    rcases address with _ | _ | own
    · cases h
    · cases h
      exact .nowhere
    · cases h
      exact .located own
  | sweeping w =>
    simp only [Phase.step, Phase.deeds] at h ⊢
    cases holdest : w.oldest? with
    | none =>
      rw [holdest] at h
      cases h
      exact .resolved holdest
    | some probe =>
      obtain ⟨slot, host, port⟩ := probe
      rw [holdest] at h
      cases h
      exact .probed _ (Window.probe?_of_oldest? holdest)
  | concluding result =>
    cases h
    exact .cleared result
  | cleared result =>
    cases h
    exact .finished result
  | ended result => cases h

/-- So is to give a run up. -/
theorem Stride.of_abandoned {plan : Plan} {phase phase' : Phase} (s : Scanner)
    (h : phase.abandoned = some phase') : Stride plan s phase [.abandoned] phase' s := by
  cases phase with
  | idle =>
    cases h
    exact .unbegun
  | locating =>
    cases h
    exact .abandoned (.inl rfl)
  | sweeping w =>
    cases h
    exact .abandoned (.inr ⟨w, rfl⟩)
  | claimed => cases h
  | concluding result => cases h
  | cleared result => cases h
  | ended result => cases h

-- ================================================================= moves

namespace Station

variable {plan : Plan} {s s' : Station} {move : Move}

/-- A station with a run that has not begun. -/
def started (s : Station) : Station := { s with background := s.background ++ [.idle] }

/-- Everything that a move can be. -/
theorem move?_cases (h : s.move? plan move = some s') :
    s.deeds move = [] ∧ (s' = s.started ∨ s' = s)
      ∨ ∃ index phase deeds phase' scanner, s.background[index]? = some phase
        ∧ s.deeds move = deeds.map (index, ·) ∧ Stride plan s.scanner phase deeds phase' scanner
        ∧ s' = s.setRun index phase' scanner := by
  cases move with
  | run =>
    cases h
    exact .inl ⟨rfl, .inl rfl⟩
  | trigger =>
    cases h
    refine .inl ⟨rfl, ?_⟩
    unfold trigger
    by_cases hrunning : s.scanner.running = true
    · exact .inr (by rw [if_pos hrunning])
    · exact .inl (by rw [if_neg hrunning]; rfl)
  | step index lan =>
    simp only [move?, Option.bind_eq_bind, Option.bind_eq_some_iff] at h
    obtain ⟨phase, hphase, ⟨phase', scanner⟩, hstep, hs'⟩ := h
    cases hs'
    refine .inr ⟨index, phase, _, phase', scanner, hphase, ?_, Stride.of_step hstep, rfl⟩
    simp only [deeds, hphase]
  | answer index slot reachable =>
    simp only [move?] at h
    split at h
    · next w hphase =>
      simp only [Option.bind_eq_bind, Option.bind_eq_some_iff] at h
      obtain ⟨⟨host, port⟩, hprobe, hs'⟩ := h
      cases hs'
      refine .inr ⟨index, _, [.probed host port reachable], _, _, hphase, ?_,
        .probed reachable hprobe, rfl⟩
      simp only [deeds, hphase, hprobe, List.map_cons, List.map_nil]
    · cases h
  | abandon index =>
    simp only [move?, Option.bind_eq_bind, Option.bind_eq_some_iff] at h
    obtain ⟨phase, hphase, phase', habandoned, hs'⟩ := h
    cases hs'
    exact .inr ⟨index, phase, _, phase', s.scanner, hphase, rfl,
      Stride.of_abandoned s.scanner habandoned, rfl⟩

-- ============================================================= schedules

theorem follow?_append (s : Station) (moves more : List Move) :
    s.follow? plan (moves ++ more) = (s.follow? plan moves).bind (·.follow? plan more) := by
  induction moves generalizing s with
  | nil => rfl
  | cons move rest ih =>
    simp only [List.cons_append, follow?]
    cases s.move? plan move with
    | none => rfl
    | some s' => exact ih s'

theorem account_append (s : Station) (moves more : List Move) :
    s.account plan (moves ++ more)
      = s.account plan moves
        ++ ((s.follow? plan moves).elim [] fun s' => s'.account plan more) := by
  induction moves generalizing s with
  | nil => rfl
  | cons move rest ih =>
    simp only [List.cons_append, account, follow?]
    cases s.move? plan move with
    | none => rfl
    | some s' =>
      show _ ++ s'.account plan (rest ++ more) = _
      rw [ih s', ← List.append_assoc]
      rfl

/-- What holds of a fresh station, is kept when a run is started, and is
kept by every stride, holds after every schedule. -/
theorem account_keep {P : Account → Station → Prop} (hfresh : P [] fresh)
    (hstarted : ∀ {account s}, P account s → P account s.started)
    (hstride : ∀ {account} {s : Station} {index phase deeds phase' scanner}, P account s →
      s.background[index]? = some phase → Stride plan s.scanner phase deeds phase' scanner →
      P (account ++ deeds.map (index, ·)) (s.setRun index phase' scanner))
    {moves : List Move} (h : fresh.follow? plan moves = some s) :
    P (fresh.account plan moves) s := by
  -- one move after another
  induction moves using List.reverseRecOn generalizing s with
  | nil =>
    cases h
    exact hfresh
  | append_singleton moves move ih =>
    rw [follow?_append] at h
    obtain ⟨s₁, h₁, hmove⟩ := Option.bind_eq_some_iff.mp h
    obtain ⟨s₂, hmove, hs₂⟩ := Option.bind_eq_some_iff.mp hmove
    cases hs₂
    have haccount : fresh.account plan (moves ++ [move])
        = fresh.account plan moves ++ s₁.deeds move := by
      rw [account_append, h₁]
      simp only [Option.elim_some, account, hmove, List.append_nil]
    rw [haccount]
    rcases move?_cases hmove with ⟨hdeeds, rfl | rfl⟩ | ⟨_, _, _, _, _, hphase, hdeeds, hs, rfl⟩
    · rw [hdeeds, List.append_nil]
      exact hstarted (ih h₁)
    · rw [hdeeds, List.append_nil]
      exact ih h₁
    · rw [hdeeds]
      exact hstride (ih h₁) hphase hs

end Station

end ReceiptPrinter.Scan
