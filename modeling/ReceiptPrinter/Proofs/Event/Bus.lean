/-
What a subscriber of an event bus gets.

A bus keeps as many events as its capacity, the least power of two that is
large enough. What it still has for a subscriber (`visible`) are the events
which were published since the subscriber's last turn, or as many of the
latest ones as the bus has kept. What is received next is the first of them,
after the number of those that were lost, if any were.
-/
import ReceiptPrinter.Event.Bus
import Mathlib.Algebra.Group.Nat.Defs

namespace ReceiptPrinter.EventBus

-- ============================================================= capacity

/-- The search ends at the least power of two that is large enough, if it
has as much fuel as is missing. -/
theorem powerFrom_spec (fuel exponent : Nat) {n : Nat} (h : n ≤ 2 ^ exponent + fuel) :
    ∃ k, powerFrom fuel (2 ^ exponent) n = 2 ^ k ∧ n ≤ 2 ^ k
      ∧ ∀ other, exponent ≤ other → n ≤ 2 ^ other → k ≤ other := by
  induction fuel generalizing exponent with
  | zero => exact ⟨exponent, rfl, h, fun other hother _ => hother⟩
  | succ fuel ih =>
    unfold powerFrom
    split
    · next hlarge => exact ⟨exponent, rfl, hlarge, fun other hother _ => hother⟩
    · next hsmall =>
      have hdouble : 2 * 2 ^ exponent = 2 ^ (exponent + 1) := (Nat.pow_succ' ..).symm
      have hpositive : 0 < 2 ^ exponent := Nat.two_pow_pos exponent
      rw [hdouble]
      obtain ⟨k, hk, hlarge, hleast⟩ := ih (exponent + 1) (by omega)
      refine ⟨k, hk, hlarge, fun other hother hn => ?_⟩
      -- the exponent itself is too small
      refine hleast other (Nat.lt_of_le_of_ne hother fun heq => ?_) hn
      exact hsmall (heq ▸ hn)

/-- A capacity is rounded up to the least power of two that is not less. -/
theorem roundUp_spec (n : Nat) :
    ∃ k, roundUp n = 2 ^ k ∧ n ≤ 2 ^ k ∧ ∀ other, n ≤ 2 ^ other → k ≤ other := by
  obtain ⟨k, hk, hlarge, hleast⟩ := powerFrom_spec n 0 (Nat.le_add_left n 1)
  exact ⟨k, hk, hlarge, fun other => hleast other (Nat.zero_le other)⟩

-- ============================================================= publishing

theorem publishAll_eq (bus : EventBus) (events : List Event) :
    bus.publishAll events = ⟨bus.capacity, bus.log ++ events⟩ := by
  induction events generalizing bus with
  | nil => rw [List.append_nil]; rfl
  | cons e rest ih =>
    show (bus.publish e).publishAll rest = _
    rw [ih]
    show (⟨bus.capacity, bus.log ++ [e] ++ rest⟩ : EventBus) = _
    rw [List.append_assoc]
    rfl

theorem capacity_publishAll (bus : EventBus) (events : List Event) :
    (bus.publishAll events).capacity = bus.capacity := by
  rw [publishAll_eq]

-- ============================================================== receiving

/-- The events that a bus still has for a subscriber. -/
def visible (bus : EventBus) (s : Subscriber) : List Event :=
  (bus.log.drop s.position).drop (bus.log.length - s.position - bus.capacity)

variable {bus : EventBus} {s : Subscriber}

theorem receive_lagged (h : bus.capacity < bus.log.length - s.position) :
    bus.receive s = (.lagged (bus.log.length - s.position - bus.capacity),
      ⟨bus.log.length - bus.capacity⟩) := by
  unfold receive
  exact if_pos h

theorem receive_event (h : bus.log.length - s.position ≤ bus.capacity)
    (hlt : s.position < bus.log.length) :
    bus.receive s = (.event bus.log[s.position], ⟨s.position + 1⟩) := by
  unfold receive
  dsimp only
  rw [if_neg (Nat.not_lt.mpr h), List.getElem?_eq_getElem hlt]

theorem receive_empty (h : s.position = bus.log.length) : bus.receive s = (.empty, s) := by
  unfold receive
  dsimp only
  rw [if_neg (by omega), List.getElem?_eq_none (Nat.le_of_eq h.symm)]

/-- A subscriber that has lost events sees what one sees that stands at the
oldest event kept. -/
theorem visible_lagged (h : bus.capacity < bus.log.length - s.position) :
    bus.visible ⟨bus.log.length - bus.capacity⟩ = bus.visible s := by
  unfold visible
  rw [List.drop_drop, List.drop_drop]
  congr 1
  dsimp only
  omega

theorem visible_event (h : bus.log.length - s.position ≤ bus.capacity)
    (hlt : s.position < bus.log.length) :
    bus.visible s = bus.log[s.position] :: bus.visible ⟨s.position + 1⟩ := by
  unfold visible
  dsimp only
  rw [Nat.sub_eq_zero_of_le h, Nat.sub_eq_zero_of_le (by omega), List.drop_zero, List.drop_zero,
    List.drop_eq_getElem_cons hlt]

theorem visible_empty (h : s.position = bus.log.length) : bus.visible s = [] := by
  unfold visible
  rw [h, List.drop_length, List.drop_nil]

end ReceiptPrinter.EventBus
