/-
What a window knows of its sweep.

At every moment the hosts of a sweep are in three parts: those that have left
the window, those inside and those to come (`Window.Split`). A host that has
left has been tried as far as it had to be, and its device is among those
found; a slot inside knows how far its host has been tried; on a host to come
nothing has been tried. Letting hosts out and in keeps this, and so does every
answer, whichever slot it comes to.

Besides, the window never has more slots than it may, stands still only when
the sweep is done (`Window.Tight`), and has less to do after every answer
(`Window.work`).
-/
import ReceiptPrinter.Proofs.Scan.Sweep
import ReceiptPrinter.Scan.Schedule
import Mathlib.Data.List.Forall2

namespace ReceiptPrinter.Scan

open Net (Address)

-- ========================================================= a single slot

namespace Slot

/-- What a slot tells about its host, on which the given ports have been
tried. -/
inductive Tracks (reach : Reach) (ports : List UInt16) (host : Address) (asked : List UInt16) :
    Slot → Prop where
  | probing {port : UInt16} {later : List UInt16} (h : ports = asked ++ port :: later)
    (hasked : ∀ earlier ∈ asked, reach host earlier = false) :
    Tracks reach ports host asked (.probing host port later)
  | settled (h : asked = tried reach ports host) :
    Tracks reach ports host asked (.settled (device? reach ports host))

variable {reach : Reach} {ports asked later : List UInt16} {host : Address} {port : UInt16}

/-- A host on which no port has answered yet goes on with those that are
left. -/
theorem start_tracks (h : ports = asked ++ later)
    (hasked : ∀ earlier ∈ asked, reach host earlier = false) :
    Tracks reach ports host asked (start host later) := by
  cases later with
  | nil =>
    rw [List.append_nil] at h
    subst h
    rw [start, ← device?_of_silent hasked]
    exact .settled (tried_of_silent hasked).symm
  | cons port later => exact .probing h hasked

/-- After an answer the port counts as tried. -/
theorem answered_tracks (h : ports = asked ++ port :: later)
    (hasked : ∀ earlier ∈ asked, reach host earlier = false) :
    Tracks reach ports host (asked ++ [port])
      (answered (reach host port) (.probing host port later)) := by
  cases hport : reach host port with
  | true =>
    have hfirst : FirstOpen reach ports host port := ⟨asked, later, h, hport, hasked⟩
    rw [answered, if_pos rfl, ← device?_of_first hfirst]
    exact .settled (h ▸ (tried_of_first hport hasked).symm)
  | false =>
    rw [answered, if_neg Bool.false_ne_true]
    refine start_tracks (by simpa using h) fun earlier hearlier => ?_
    rcases List.mem_append.mp hearlier with hearlier | hearlier
    · exact hasked earlier hearlier
    · exact List.mem_singleton.mp hearlier ▸ hport

end Slot

-- ================================================= the parts of a sweep

namespace Window

theorem deliver_settled (device : Option NetIdentity) (rest : List Slot) :
    deliver (.settled device :: rest)
      = (device.toList ++ (deliver rest).1, (deliver rest).2) := rfl

theorem refill_nil (plan : Plan) (slots : List Slot) (found : List NetIdentity) :
    refill plan [] slots found = ⟨[], (deliver slots).2, found ++ (deliver slots).1⟩ := rfl

theorem refill_cons (plan : Plan) (host : Address) (waiting : List Address) (slots : List Slot)
    (found : List NetIdentity) :
    refill plan (host :: waiting) slots found
      = if (deliver slots).2.length < plan.limit then
          refill plan waiting ((deliver slots).2 ++ [.start host plan.ports])
            (found ++ (deliver slots).1)
        else ⟨host :: waiting, (deliver slots).2, found ++ (deliver slots).1⟩ := rfl

/-- A sweep in three parts, given what has been tried on which host: the
hosts that have left the window, those inside, and those to come. -/
structure Split (plan : Plan) (reach : Reach) (own : Address) (asked : Address → List UInt16)
    (gone inside : List Address) (w : Window) : Prop where
  parts : hosts own = gone ++ inside ++ w.waiting
  exhausted : ∀ host ∈ gone, asked host = tried reach plan.ports host
  found : w.found = gone.filterMap (device? reach plan.ports)
  tracked : List.Forall₂ (fun host => Slot.Tracks reach plan.ports host (asked host)) inside w.slots
  untried : ∀ host ∈ w.waiting, asked host = []
  strangers : ∀ host ∉ hosts own, asked host = []

variable {plan : Plan} {reach : Reach} {own : Address} {asked : Address → List UInt16}
  {gone inside waiting : List Address} {slots : List Slot} {found : List NetIdentity}

/-- The slots that are let out are those of the first hosts. -/
theorem deliver_split {ports : List UInt16}
    (h : List.Forall₂ (fun host => Slot.Tracks reach ports host (asked host)) inside slots) :
    ∃ first rest, inside = first ++ rest
      ∧ (∀ host ∈ first, asked host = tried reach ports host)
      ∧ (deliver slots).1 = first.filterMap (device? reach ports)
      ∧ List.Forall₂ (fun host => Slot.Tracks reach ports host (asked host)) rest
          (deliver slots).2 := by
  induction h with
  | nil => exact ⟨[], [], rfl, nofun, rfl, .nil⟩
  | @cons host slot hosts slots htracks h ih =>
    cases htracks with
    | probing hports hasked =>
      exact ⟨[], host :: hosts, rfl, nofun, rfl, .cons (.probing hports hasked) h⟩
    | settled hasked =>
      obtain ⟨first, rest, rfl, hfirst, hdevices, hrest⟩ := ih
      refine ⟨host :: first, rest, rfl, List.forall_mem_cons.mpr ⟨hasked, hfirst⟩, ?_, hrest⟩
      rw [deliver_settled, hdevices]
      cases hdevice : device? reach ports host with
      | none => rw [List.filterMap_cons_none hdevice]; rfl
      | some device => rw [List.filterMap_cons_some hdevice]; rfl

namespace Split

/-- Hosts that have been dealt with are let out. -/
theorem deliver (h : Split plan reach own asked gone inside ⟨waiting, slots, found⟩) :
    ∃ gone inside, Split plan reach own asked gone inside
      ⟨waiting, (Window.deliver slots).2, found ++ (Window.deliver slots).1⟩ := by
  obtain ⟨first, rest, rfl, hfirst, hdevices, hrest⟩ := deliver_split h.tracked
  refine ⟨gone ++ first, rest, ?_, ?_, ?_, hrest, h.untried, h.strangers⟩
  · rw [h.parts, List.append_assoc gone first rest]
  · exact List.forall_mem_append.mpr ⟨h.exhausted, hfirst⟩
  · rw [show found = _ from h.found, hdevices, List.filterMap_append]

/-- The next host is let in. -/
theorem enter {host : Address}
    (h : Split plan reach own asked gone inside ⟨host :: waiting, slots, found⟩) :
    Split plan reach own asked gone (inside ++ [host])
      ⟨waiting, slots ++ [.start host plan.ports], found⟩ := by
  obtain ⟨hhost, hwaiting⟩ := List.forall_mem_cons.mp h.untried
  have hstart : Slot.Tracks reach plan.ports host (asked host) (.start host plan.ports) := by
    rw [hhost]
    exact Slot.start_tracks rfl nofun
  refine ⟨?_, h.exhausted, h.found, List.rel_append h.tracked (.cons hstart .nil), hwaiting,
    h.strangers⟩
  rw [h.parts]
  simp

theorem refill (h : Split plan reach own asked gone inside ⟨waiting, slots, found⟩) :
    ∃ gone inside, Split plan reach own asked gone inside
      (refill plan waiting slots found) := by
  induction waiting generalizing gone inside slots found with
  | nil => exact h.deliver
  | cons host waiting ih =>
    obtain ⟨gone, inside, h⟩ := h.deliver
    rw [refill_cons]
    split
    · exact ih h.enter
    · exact ⟨gone, inside, h⟩

/-- Before anything has been tried, all hosts are to come. -/
theorem start (plan : Plan) (reach : Reach) (own : Address) :
    ∃ gone inside, Split plan reach own (fun _ => []) gone inside (.start plan own) := by
  have h : Split plan reach own (fun _ => []) [] [] ⟨hosts own, [], []⟩ :=
    ⟨rfl, nofun, rfl, .nil, fun _ _ => rfl, fun _ _ => rfl⟩
  exact h.refill

end Split

/-- Every slot is about a host. -/
theorem exists_of_forall₂ {α β : Type} {R : α → β → Prop} {xs : List α} {ys : List β}
    (h : List.Forall₂ R xs ys) {i : Nat} {y : β} (hy : ys[i]? = some y) : ∃ x ∈ xs, R x y := by
  induction h generalizing i with
  | nil => cases hy
  | @cons x y₀ xs ys hxy h ih =>
    cases i with
    | zero =>
      cases hy
      exact ⟨x, List.mem_cons_self, hxy⟩
    | succ i =>
      obtain ⟨x', hx', hxy'⟩ := ih hy
      exact ⟨x', List.mem_cons_of_mem _ hx', hxy'⟩

/-- Slots are kept one for each host if the one that changes is still about
its host. -/
theorem forall₂_modify {α β : Type} {R S : α → β → Prop} {xs : List α} {ys : List β}
    (h : List.Forall₂ R xs ys) (hdistinct : xs.Nodup) {i : Nat} {y : β} (hy : ys[i]? = some y)
    (f : β → β) :
    ∃ x ∈ xs, R x y ∧ (S x (f y) → (∀ x' ∈ xs, x' ≠ x → ∀ y', R x' y' → S x' y') →
      List.Forall₂ S xs (ys.modify i f)) := by
  induction h generalizing i with
  | nil => cases hy
  | @cons x y₀ xs ys hxy h ih =>
    obtain ⟨hx, hdistinct⟩ := List.nodup_cons.mp hdistinct
    cases i with
    | zero =>
      cases hy
      refine ⟨x, List.mem_cons_self, hxy, fun hnew hkeep => ?_⟩
      have hrest : ∀ x' ∈ xs, ∀ y', R x' y' → S x' y' := fun x' hx' =>
        hkeep x' (List.mem_cons_of_mem _ hx') fun heq => hx (heq ▸ hx')
      exact .cons hnew ((List.forall₂_and_left _ _ |>.mpr ⟨hrest, h⟩).imp
        fun x' y' ⟨hkeep, hxy⟩ => hkeep y' hxy)
    | succ i =>
      obtain ⟨x', hx', hxy', hmodify⟩ := ih hdistinct hy
      refine ⟨x', List.mem_cons_of_mem _ hx', hxy', fun hnew hkeep => ?_⟩
      refine .cons (hkeep x List.mem_cons_self (fun heq => hx (heq ▸ hx')) y₀ hxy) ?_
      exact hmodify hnew fun x'' hx'' => hkeep x'' (List.mem_cons_of_mem _ hx'')

theorem slot_of_probe? {w : Window} {slot : Nat} {host : Address} {port : UInt16}
    (h : w.probe? slot = some (host, port)) :
    ∃ later, w.slots[slot]? = some (.probing host port later) := by
  unfold probe? at h
  split at h
  · next hslot =>
    cases h
    exact ⟨_, hslot⟩
  · cases h

namespace Split

variable {w : Window} {slot : Nat} {host : Address} {port : UInt16}

/-- A probe under way goes on with its host where the host has been tried so
far. -/
theorem probe (h : Split plan reach own asked gone inside w)
    (hprobe : w.probe? slot = some (host, port)) :
    host ∈ inside ∧ (∀ earlier ∈ asked host, reach host earlier = false)
      ∧ ∃ later, plan.ports = asked host ++ port :: later := by
  obtain ⟨later, hslot⟩ := slot_of_probe? hprobe
  obtain ⟨x, hx, htracks⟩ := exists_of_forall₂ h.tracked hslot
  cases htracks with
  | probing hports hasked => exact ⟨hx, hasked, later, hports⟩

/-- Every host in the window has its slot. -/
theorem exists_tracks (h : Split plan reach own asked gone inside w) (hhost : host ∈ inside) :
    ∃ slot, Slot.Tracks reach plan.ports host (asked host) slot := by
  obtain ⟨i, hi⟩ := List.getElem?_of_mem hhost
  obtain ⟨slot, -, htracks⟩ := exists_of_forall₂ h.tracked.flip hi
  exact ⟨slot, htracks⟩

/-- An answer, to whichever slot, is added to what has been tried. -/
theorem answer (h : Split plan reach own asked gone inside w)
    (hprobe : w.probe? slot = some (host, port)) :
    ∃ gone inside, Split plan reach own
      (fun other => if other = host then asked other ++ [port] else asked other) gone inside
      (w.answer plan slot (reach host port)) := by
  obtain ⟨later, hslot⟩ := slot_of_probe? hprobe
  obtain ⟨hdistinct, -, hcome⟩ := List.nodup_append.mp (h.parts ▸ nodup_hosts own)
  obtain ⟨-, hinside, hleft⟩ := List.nodup_append.mp hdistinct
  obtain ⟨x, hx, htracks, hmodify⟩ := forall₂_modify (S := fun other => Slot.Tracks reach plan.ports
    other (if other = host then asked other ++ [port] else asked other)) h.tracked hinside hslot
    (Slot.answered (reach host port))
  cases htracks with
  | probing hports hasked =>
    have hkept : Split plan reach own
        (fun other => if other = host then asked other ++ [port] else asked other) gone inside
        ⟨w.waiting, w.slots.modify slot (Slot.answered (reach host port)), w.found⟩ := by
      refine ⟨h.parts, fun other hother => ?_, h.found, ?_, fun other hother => ?_,
        fun other hother => ?_⟩
      · rw [if_neg (hleft other hother host hx)]
        exact h.exhausted other hother
      · refine hmodify ?_ fun other hother hne y hy => ?_
        · rw [if_pos rfl]
          exact Slot.answered_tracks hports hasked
        · rwa [if_neg hne]
      · rw [if_neg (hcome host (List.mem_append_right _ hx) other hother).symm]
        exact h.untried other hother
      · have hne : other ≠ host := by
          rintro rfl
          exact hother (h.parts ▸ List.mem_append_left _ (List.mem_append_right _ hx))
        rw [if_neg hne]
        exact h.strangers other hother
    exact hkept.refill

end Split

-- ================================================================== room

/-- A window has no more slots than it may, and none to spare while hosts are
to come; its first slot is under way. -/
structure Tight (plan : Plan) (w : Window) : Prop where
  room : w.slots.length ≤ plan.limit
  full : w.waiting = [] ∨ plan.limit ≤ w.slots.length
  first : ∀ slot ∈ w.slots.head?, slot.isProbing = true

theorem length_deliver (slots : List Slot) : (deliver slots).2.length ≤ slots.length := by
  induction slots with
  | nil => exact Nat.le_refl 0
  | cons slot slots ih =>
    cases slot with
    | probing host port later => exact Nat.le_refl _
    | settled device => exact Nat.le_trans ih (Nat.le_succ _)

theorem head_deliver (slots : List Slot) :
    ∀ slot ∈ (deliver slots).2.head?, slot.isProbing = true := by
  induction slots with
  | nil => exact nofun
  | cons slot slots ih =>
    cases slot with
    | probing host port later =>
      intro slot hslot
      cases hslot
      rfl
    | settled device => exact ih

theorem refill_tight (hroom : slots.length ≤ plan.limit) :
    Tight plan (refill plan waiting slots found) := by
  have hdelivered := Nat.le_trans (length_deliver slots) hroom
  induction waiting generalizing slots found with
  | nil => exact ⟨hdelivered, .inl rfl, head_deliver slots⟩
  | cons host waiting ih =>
    rw [refill_cons]
    split
    · next hlt =>
      have hentered : ((deliver slots).2 ++ [Slot.start host plan.ports]).length ≤ plan.limit := by
        rw [List.length_append]
        exact hlt
      exact ih hentered (Nat.le_trans (length_deliver _) hentered)
    · next hge => exact ⟨hdelivered, .inr (Nat.le_of_not_lt hge), head_deliver slots⟩

theorem start_tight (plan : Plan) (own : Address) : Tight plan (.start plan own) :=
  refill_tight (Nat.zero_le _)

theorem Tight.answer {w : Window} (h : Tight plan w) (slot : Nat) (reachable : Bool) :
    Tight plan (w.answer plan slot reachable) :=
  refill_tight (Nat.le_trans (Nat.le_of_eq (List.length_modify ..)) h.room)

theorem Tight.outstanding_le {w : Window} (h : Tight plan w) : w.outstanding ≤ plan.limit :=
  Nat.le_trans (List.length_filter_le _ _) h.room

/-- As long as a sweep has hosts to deal with, a probe is under way. -/
theorem Tight.done {w : Window} (h : Tight plan w) (hlimit : 1 ≤ plan.limit)
    (hnone : w.oldest? = none) : w.slots = [] ∧ w.waiting = [] := by
  have hslots : w.slots = [] := by
    cases hslots : w.slots with
    | nil => rfl
    | cons slot slots =>
      have hprobing := h.first slot (by rw [hslots]; rfl)
      rw [Window.oldest?, hslots, List.zipIdx_cons] at hnone
      cases slot with
      | settled device => cases hprobing
      | probing host port later => cases hnone
  refine ⟨hslots, h.full.resolve_right fun hle => ?_⟩
  rw [hslots, List.length_nil] at hle
  omega

end Window

-- ================================================================== work

/-- How many probes a slot may still need. -/
def Slot.work : Slot → Nat
  | probing _ _ later => later.length + 1
  | settled _ => 0

/-- How many probes slots may still need. -/
def Slot.works : List Slot → Nat
  | [] => 0
  | slot :: slots => slot.work + works slots

theorem Slot.work_start (host : Address) (ports : List UInt16) :
    (Slot.start host ports).work = ports.length := by
  cases ports <;> rfl

theorem Slot.works_concat (slots : List Slot) (slot : Slot) :
    works (slots ++ [slot]) = works slots + slot.work := by
  induction slots with
  | nil => exact Nat.add_comm _ _
  | cons first slots ih => rw [List.cons_append, works, works, ih, Nat.add_assoc]

theorem Slot.works_modify {slots : List Slot} {slot : Slot} {index : Nat}
    (h : slots[index]? = some slot) (f : Slot → Slot) :
    works (slots.modify index f) + slot.work = works slots + (f slot).work := by
  induction slots generalizing index with
  | nil => cases h
  | cons first slots ih =>
    cases index with
    | zero =>
      cases h
      rw [List.modify_zero_cons, works, works]
      omega
    | succ index =>
      have hrest := ih h
      rw [List.modify_succ_cons, works, works]
      omega

namespace Window

/-- How many probes a sweep may still need. -/
def work (plan : Plan) (w : Window) : Nat :=
  w.waiting.length * plan.ports.length + Slot.works w.slots

theorem works_deliver (slots : List Slot) : Slot.works (deliver slots).2 = Slot.works slots := by
  induction slots with
  | nil => rfl
  | cons slot slots ih =>
    cases slot with
    | probing host port later => rfl
    | settled device => rw [deliver_settled, ih, Slot.works, Slot.work, Nat.zero_add]

variable {plan : Plan} {waiting : List Address} {slots : List Slot} {found : List NetIdentity}

/-- Letting hosts out and in is no work. -/
theorem work_refill : (refill plan waiting slots found).work plan
    = waiting.length * plan.ports.length + Slot.works slots := by
  induction waiting generalizing slots found with
  | nil => rw [refill_nil, work, works_deliver]
  | cons host waiting ih =>
    rw [refill_cons]
    split
    · rw [ih, Slot.works_concat, works_deliver, Slot.work_start, List.length_cons, Nat.succ_mul]
      omega
    · rw [work, works_deliver]

theorem work_start (plan : Plan) (own : Address) :
    (Window.start plan own).work plan = 255 * plan.ports.length := by
  rw [start, work_refill, length_hosts]
  rfl

/-- After every answer there is less to do. -/
theorem work_answer {w : Window} {slot : Nat} {host : Address} {port : UInt16}
    (h : w.probe? slot = some (host, port)) (reachable : Bool) :
    (w.answer plan slot reachable).work plan + 1 ≤ w.work plan := by
  obtain ⟨later, hslot⟩ := slot_of_probe? h
  have hmodify := Slot.works_modify hslot (Slot.answered reachable)
  have hanswered : (Slot.answered reachable (.probing host port later)).work ≤ later.length := by
    cases reachable with
    | true => exact Nat.zero_le _
    | false => exact Nat.le_of_eq (Slot.work_start host later)
  rw [Slot.work] at hmodify
  rw [answer, work_refill, work]
  omega

end Window

end ReceiptPrinter.Scan
