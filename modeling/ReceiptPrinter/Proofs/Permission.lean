/-
The one answer of a permission request.

The slot hands an answer out once, and the request keeps it. What one knows of
the other at any time is the first answer that was given, if any: `Agrees` says
so of a prompt and the row of moves that led to it. It is kept by every move,
whichever end it is made at, so both views of the answer, the one of who asks
again and the one of who waits, are the same in every course of a prompt.
-/
import ReceiptPrinter.Permission

namespace ReceiptPrinter.Permission

variable {x : Exchange} {moves : List Move} {move : Move} {granted : Bool}

-- ============================================================ the answer

theorem answer?_concat (moves : List Move) (move : Move) :
    answer? (moves ++ [move]) = (answer? moves).or move.answer? := by
  unfold answer?
  rw [List.findSome?_append, List.findSome?_singleton]

theorem answer?_eq_none_iff : answer? moves = none ↔ ∀ move ∈ moves, move.answer? = none :=
  List.findSome?_eq_none_iff

/-- The answer is that of the move that decides. -/
theorem answer?_eq_some_iff :
    answer? moves = some granted ↔ ∃ move, Decides move moves ∧ move.answer? = some granted := by
  unfold answer? Decides
  rw [List.findSome?_eq_some_iff]
  constructor
  · intro h
    obtain ⟨earlier, move, later, rfl, hanswer, hearlier⟩ := h
    exact ⟨move, ⟨earlier, ⟨later, by simp⟩, hearlier⟩, hanswer⟩
  · intro h
    obtain ⟨move, ⟨earlier, ⟨later, rfl⟩, hearlier⟩, hanswer⟩ := h
    exact ⟨earlier, move, later, by simp, hanswer, hearlier⟩

theorem answer?_of_decides (h : Decides move moves) (hanswer : move.answer? = some granted) :
    answer? moves = some granted :=
  answer?_eq_some_iff.mpr ⟨move, h, hanswer⟩

/-- A request lasts through one more move unless this move drops it or gets the
answer. -/
theorem lasts_concat : Lasts (moves ++ [move])
    ↔ Lasts moves ∧ move ≠ .dropRequest ∧ (move = .look → answer? moves = none) := by
  unfold Lasts
  simp only [List.mem_append, List.mem_singleton, not_or, List.prefix_concat_iff]
  constructor
  · intro h
    obtain ⟨⟨hkept, hmove⟩, hlooks⟩ := h
    refine ⟨⟨hkept, fun earlier hearlier => hlooks earlier (.inr hearlier)⟩, Ne.symm hmove, ?_⟩
    intro hlook
    exact hlooks moves (.inl (by rw [hlook]))
  · intro h
    obtain ⟨⟨hkept, hlooks⟩, hmove, hlook⟩ := h
    refine ⟨⟨hkept, Ne.symm hmove⟩, fun earlier hearlier => ?_⟩
    rcases hearlier with hlast | hbefore
    · obtain ⟨rfl, hsame⟩ := List.append_inj' hlast rfl
      exact hlook (List.singleton_inj.mp hsame).symm
    · exact hlooks earlier hbefore

-- ============================================================== the slot

/-- To look again gives the same answer. -/
theorem settle_settle (settled : Option Bool) (slot : Slot) :
    (settle (settle settled slot).1 (settle settled slot).2).1 = (settle settled slot).1 := by
  cases settled with
  | some granted => rfl
  | none => cases slot <;> rfl

/-- Nothing is remembered where there is no answer. -/
theorem eq_none_of_settle {settled : Option Bool} {slot : Slot}
    (h : (settle settled slot).1 = none) : settled = none := by
  cases settled with
  | none => rfl
  | some granted => cases h

-- ============================================================== the moves

namespace Exchange

theorem poll_of_some {settled : Option Bool} (h : x.request = some settled) :
    x.poll = (some (stateOf (settle settled x.slot).1),
      { x with slot := (settle settled x.slot).2, request := some (settle settled x.slot).1 }) := by
  unfold poll
  rw [h]

theorem wait_of_some {settled : Option Bool} (h : x.request = some settled) :
    x.wait = ((settle settled x.slot).1,
      { x with slot := (settle settled x.slot).2, request := none }) := by
  unfold wait
  rw [h]

theorem look_of_none (h : x.wait.1 = none) : x.look = (none, x) := by
  unfold look
  split
  · next hwait =>
    rw [hwait] at h
    cases h
  · rfl

theorem look_of_some (h : x.wait.1 = some granted) : x.look = x.wait := by
  unfold look
  split
  · next hwait => exact hwait.symm
  · next hwait =>
    rw [hwait] at h
    cases h

/-- Who looks gets what waiting gives, if there is anything. -/
theorem look_fst (x : Exchange) : x.look.1 = x.wait.1 := by
  cases hanswer : x.wait.1 with
  | none => rw [look_of_none hanswer]
  | some granted => rw [look_of_some hanswer, hanswer]

end Exchange

-- ========================================================== the agreement

/-- A prompt stands as the row of moves that led to it says. -/
structure Agrees (moves : List Move) (x : Exchange) : Prop where
  /-- The grant is held as long as there is no answer. -/
  held : x.grantHeld = true ↔ answer? moves = none
  present : x.request.isSome = true ↔ Lasts moves
  /-- What the request remembers, or else what it finds, is the answer. -/
  known : ∀ settled, x.request = some settled → (settle settled x.slot).1 = answer? moves

namespace Agrees

theorem fresh : Agrees [] .fresh where
  held := by decide
  present := by
    refine ⟨fun _ => ⟨List.not_mem_nil, fun earlier h => ?_⟩, fun _ => rfl⟩
    exact absurd (List.prefix_nil.mp h) (by simp)
  known settled h := by
    cases h
    rfl

/-- A move that gives no answer keeps the agreement if it leaves the grant where
it is, and changes the request as it may. -/
theorem keep {x' : Exchange} (h : Agrees moves x) (hmove : move.answer? = none)
    (hheld : x'.grantHeld = x.grantHeld)
    (hpresent : x'.request.isSome = true ↔ x.request.isSome = true ∧ move ≠ .dropRequest
      ∧ (move = .look → answer? moves = none))
    (hknown : ∀ settled, x'.request = some settled → (settle settled x'.slot).1 = answer? moves) :
    Agrees (moves ++ [move]) x' := by
  have hanswer : answer? (moves ++ [move]) = answer? moves := by
    rw [answer?_concat, hmove, Option.or_none]
  refine ⟨?_, ?_, ?_⟩
  · rw [hheld, hanswer]
    exact h.held
  · rw [hpresent, lasts_concat, h.present]
  · rw [hanswer]
    exact hknown

/-- The first answer closes the slot or goes into it, and none after that does
anything. -/
theorem answered (h : Agrees moves x) (hmove : move.answer? = some granted) {slot : Slot}
    (hslot : (settle none slot).1 = some granted) :
    Agrees (moves ++ [move])
      (if x.grantHeld then { x with slot := slot, grantHeld := false } else x) := by
  have hlasts : Lasts (moves ++ [move]) ↔ Lasts moves := by
    have hkept : move ≠ .dropRequest := by
      intro hdrop
      rw [hdrop] at hmove
      cases hmove
    have hlooked : move = .look → answer? moves = none := by
      intro hlook
      rw [hlook] at hmove
      cases hmove
    rw [lasts_concat, and_iff_left ⟨hkept, hlooked⟩]
  cases hanswer : answer? moves with
  | none =>
    have hsame : answer? (moves ++ [move]) = some granted := by
      rw [answer?_concat, hanswer, hmove, Option.none_or]
    rw [if_pos (h.held.mpr hanswer)]
    refine ⟨by simp [hsame], h.present.trans hlasts.symm, fun settled hsettled => ?_⟩
    have hknown := h.known settled hsettled
    rw [hanswer] at hknown
    rw [eq_none_of_settle hknown, hsame]
    exact hslot
  | some first =>
    have hsame : answer? (moves ++ [move]) = answer? moves := by
      rw [answer?_concat, hanswer, Option.some_or]
    have hgone : ¬x.grantHeld = true := by
      rw [h.held, hanswer]
      exact nofun
    rw [if_neg hgone]
    refine ⟨?_, h.present.trans hlasts.symm, ?_⟩
    · rw [hsame]
      exact h.held
    · rw [hsame]
      exact h.known

theorem poll (h : Agrees moves x) : Agrees (moves ++ [.poll]) x.poll.2 := by
  cases hrequest : x.request with
  | none =>
    have hpoll : x.poll = (none, x) := by
      unfold Exchange.poll
      rw [hrequest]
    rw [hpoll]
    exact h.keep rfl rfl (by simp) h.known
  | some settled =>
    rw [Exchange.poll_of_some hrequest]
    refine h.keep rfl rfl (by simp [hrequest]) fun settled' hsettled => ?_
    cases hsettled
    exact (settle_settle settled x.slot).trans (h.known settled hrequest)

theorem look (h : Agrees moves x) : Agrees (moves ++ [.look]) x.look.2 := by
  cases hrequest : x.request with
  | none =>
    have hwait : x.wait = (none, x) := by
      unfold Exchange.wait
      rw [hrequest]
    rw [Exchange.look_of_none (by rw [hwait])]
    exact h.keep rfl rfl (by simp [hrequest]) h.known
  | some settled =>
    have hwait := Exchange.wait_of_some hrequest
    have hknown := h.known settled hrequest
    cases hanswer : answer? moves with
    | none =>
      rw [Exchange.look_of_none (by rw [hwait, hknown, hanswer])]
      exact h.keep rfl rfl (by simp [hanswer]) h.known
    | some granted =>
      rw [Exchange.look_of_some (by rw [hwait, hknown, hanswer]), hwait]
      exact h.keep rfl rfl (by simp [hanswer]) nofun

theorem step (h : Agrees moves x) (move : Move) : Agrees (moves ++ [move]) (x.move move) := by
  cases move with
  | poll => exact h.poll
  | look => exact h.look
  | resolve granted =>
    have hresolve : (x.resolve granted).2
        = if x.grantHeld then { x with slot := .answered granted, grantHeld := false } else x := by
      unfold Exchange.resolve
      split <;> rfl
    show Agrees _ (x.resolve granted).2
    rw [hresolve]
    exact h.answered rfl rfl
  | dropGrant =>
    have hdrop : x.dropGrant.2
        = if x.grantHeld then { x with slot := .closed, grantHeld := false } else x := by
      unfold Exchange.dropGrant
      split <;> rfl
    show Agrees _ x.dropGrant.2
    rw [hdrop]
    exact h.answered rfl rfl
  | dropRequest =>
    show Agrees _ { x with request := none }
    exact h.keep rfl rfl (by simp) nofun

/-- A whole row of moves keeps the agreement. -/
theorem foldl (h : Agrees moves x) (more : List Move) :
    Agrees (moves ++ more) (more.foldl Exchange.move x) := by
  induction more generalizing moves x with
  | nil =>
    rw [List.append_nil]
    exact h
  | cons move rest ih =>
    have hrest := ih (h.step move)
    rwa [List.append_assoc] at hrest

theorem after (moves : List Move) : Agrees moves (Exchange.after moves) := fresh.foldl moves

end Agrees

-- ============================================================ the request

/-- A permission request has one answer.

Let the two ends of a prompt be used in any order: the request is polled, and
somebody who waits looks for the answer, any number of times; the grant is
resolved or dropped, which only counts the first time. Then the request is there
until it is dropped or somebody who waits has got the answer; and as long as it
is there, it is pending, and who waits goes on waiting, until the grant is
resolved or dropped, and from then on it stands as the grant was resolved, or is
denied if the grant was dropped, and waiting gives the same. So who waits is
granted access exactly if the grant was resolved so. -/
theorem request_has_one_answer (moves : List Move) :
    let x := Exchange.after moves
    (x.request.isSome = true ↔ Lasts moves)
      ∧ (Lasts moves →
        ((∀ move ∈ moves, move.answer? = none) →
            x.poll.1 = some .pending ∧ x.look = (none, x))
          ∧ (∀ granted, Decides (.resolve granted) moves →
            x.poll.1 = some (if granted then .granted else .denied)
              ∧ x.look.1 = some granted ∧ x.wait.1 = some granted)
          ∧ (Decides .dropGrant moves →
            x.poll.1 = some .denied ∧ x.look.1 = some false ∧ x.wait.1 = some false)
          ∧ (x.look.1 = some true ↔ Decides (.resolve true) moves)) := by
  intro x
  have hagrees : Agrees moves x := .after moves
  refine ⟨hagrees.present, fun hlasts => ?_⟩
  obtain ⟨settled, hrequest⟩ := Option.isSome_iff_exists.mp (hagrees.present.mpr hlasts)
  have hknown := hagrees.known settled hrequest
  have hpoll : x.poll.1 = some (stateOf (answer? moves)) := by
    rw [Exchange.poll_of_some hrequest, hknown]
  have hwait : x.wait.1 = answer? moves := by
    rw [Exchange.wait_of_some hrequest, hknown]
  have hlook : x.look.1 = answer? moves := x.look_fst.trans hwait
  refine ⟨fun hnone => ?_, fun granted hdecides => ?_, fun hdecides => ?_, ?_⟩
  · have hanswer := answer?_eq_none_iff.mpr hnone
    rw [hpoll, hanswer, Exchange.look_of_none (hwait.trans hanswer)]
    exact ⟨rfl, rfl⟩
  · rw [hpoll, hlook, hwait, answer?_of_decides hdecides rfl]
    exact ⟨rfl, rfl, rfl⟩
  · rw [hpoll, hlook, hwait, answer?_of_decides hdecides rfl]
    exact ⟨rfl, rfl, rfl⟩
  · rw [hlook, answer?_eq_some_iff]
    constructor
    · intro h
      obtain ⟨move, hdecides, hanswer⟩ := h
      cases move with
      | resolve granted =>
        cases hanswer
        exact hdecides
      | poll | look | dropGrant | dropRequest => cases hanswer
    · intro hdecides
      exact ⟨.resolve true, hdecides, rfl⟩

/-- Access that is granted while somebody waits is granted to him, and to who asks
again and again. -/
theorem granted_to_both :
    let moves := [.poll, .look, .resolve true, .poll, .dropGrant, .poll]
    let x := Exchange.after moves
    Lasts moves ∧ Decides (.resolve true) moves
      ∧ x.poll.1 = some .granted ∧ x.look.1 = some true ∧ x.wait.1 = some true := by
  intro moves x
  have hanswer := request_has_one_answer moves
  have hlasts : Lasts moves := hanswer.1.mp (by decide)
  have hdecides : Decides (.resolve true) moves := ⟨[.poll, .look], ⟨_, rfl⟩, by decide⟩
  exact ⟨hlasts, hdecides, (hanswer.2 hlasts).2.1 true hdecides⟩

end ReceiptPrinter.Permission
