/-
What a step adds to a record.

`Adds` compares a step that keeps a record with the same step without one:
the answer is the same, the world goes on in the same way, and a condition
relates the answer to the entries that were added. The conditions are
composed along the sequencing of steps (`Adds.bind`), so that each function
is looked at once and its parts are never opened again.
-/
import ReceiptPrinter.Proofs.Session.Simulation
import ReceiptPrinter.Record

namespace ReceiptPrinter

variable {W A B C ι κ ρ α β : Type}

-- ======================================================= parts of a row

theorem mem_of_split {α : Type} {row before after : List α} {a : α}
    (h : row = before ++ a :: after) : a ∈ row :=
  h ▸ List.mem_append_right _ List.mem_cons_self

/-- What stands in a row of two parts stands in one of them. -/
theorem split_append {α : Type} {first second before after : List α} {a : α}
    (h : first ++ second = before ++ a :: after) :
    (∃ rest, first = before ++ a :: rest ∧ after = rest ++ second)
      ∨ ∃ rest, before = first ++ rest ∧ second = rest ++ a :: after := by
  rcases List.append_eq_append_iff.mp h with ⟨rest, hbefore, hsecond⟩ | ⟨rest, hfirst, hafter⟩
  · exact .inr ⟨rest, hbefore, hsecond⟩
  · cases rest with
    | nil => exact .inr ⟨[], by simpa using hfirst.symm, by simpa using hafter.symm⟩
    | cons _ rest =>
      obtain ⟨rfl, rfl⟩ := List.cons.inj hafter
      exact .inl ⟨rest, hfirst, rfl⟩

/-- What stands in a row, but not behind its head, is the head. -/
theorem split_head {α : Type} {first a : α} {others before after : List α}
    (h : first :: others = before ++ a :: after) (hothers : a ∉ others) :
    before = [] ∧ first = a ∧ others = after := by
  cases before with
  | nil => exact ⟨rfl, List.cons.inj h⟩
  | cons _ before =>
    obtain ⟨-, rfl⟩ := List.cons.inj h
    exact absurd (by simp) hothers

-- ===================================================== what is added

/-- The step `x` does what the step `y` does, and adds entries to the record
which satisfy `R` together with its answer. -/
def Adds (entry : B → A) (x : StateM (W × List A) α) (y : StateM W α)
    (R : List B → α → Prop) : Prop :=
  ∀ w record, ∃ added,
    x (w, record) = ((y w).1, ((y w).2, record ++ added.map entry)) ∧ R added (y w).1

section

variable {entry : B → A}

-- ========================================================== sequencing

theorem Adds.mono {x : StateM (W × List A) α} {y : StateM W α} {R S : List B → α → Prop}
    (h : Adds entry x y R) (hRS : ∀ added a, R added a → S added a) : Adds entry x y S := by
  intro w record
  obtain ⟨added, hx, hR⟩ := h w record
  exact ⟨added, hx, hRS added _ hR⟩

theorem Adds.pure {R : List B → α → Prop} {a : α} (h : R [] a) :
    Adds (W := W) entry (Pure.pure a) (Pure.pure a) R := by
  intro w record
  refine ⟨[], ?_, h⟩
  rw [List.map_nil, List.append_nil]
  rfl

/-- What a row of steps adds is what its first step adds, and then the
others. -/
theorem Adds.bind {x : StateM (W × List A) α} {y : StateM W α} {R : List B → α → Prop}
    {k : α → StateM (W × List A) β} {l : α → StateM W β} {S : List B → β → Prop}
    (h : Adds entry x y R)
    (hk : ∀ added a, R added a → Adds entry (k a) (l a) fun more => S (added ++ more)) :
    Adds entry (x >>= k) (y >>= l) S := by
  intro w record
  obtain ⟨added, hx, hR⟩ := h w record
  obtain ⟨more, hmore, hS⟩ := hk added _ hR (y w).2 (record ++ added.map entry)
  refine ⟨added ++ more, ?_, hS⟩
  show k (x (w, record)).1 (x (w, record)).2 = _
  rw [hx, hmore, List.map_append, List.append_assoc]
  rfl

/-- A step that can fail ends the row if it does. -/
theorem Adds.attempt {ε : Type} {x : ExceptT ε (StateM (W × List A)) α}
    {y : ExceptT ε (StateM W) α} {R : List B → Except ε α → Prop}
    {k : α → ExceptT ε (StateM (W × List A)) β} {l : α → ExceptT ε (StateM W) β}
    {S : List B → Except ε β → Prop} (h : Adds entry x.run y.run R)
    (hk : ∀ added a, R added (.ok a) → Adds entry (k a).run (l a).run fun more => S (added ++ more))
    (hfail : ∀ added e, R added (.error e) → S added (.error e)) :
    Adds entry (x >>= k).run (y >>= l).run S := by
  refine Adds.bind (k := ExceptT.bindCont k) (l := ExceptT.bindCont l) h
    fun added outcome hR => ?_
  cases outcome with
  | ok a => exact hk added a hR
  | error e =>
    refine Adds.pure ?_
    rw [List.append_nil]
    exact hfail added e hR

/-- Only the answer of a step is thrown away, not what it adds. -/
theorem Adds.discard {x : StateM (W × List A) α} {y : StateM W α} {R : List B → Prop}
    (h : Adds entry x y fun added _ => R added) :
    Adds entry (discard x) (discard y) fun added _ => R added := by
  intro w record
  obtain ⟨added, hx, hR⟩ := h w record
  refine ⟨added, ?_, hR⟩
  show ((⟨⟩ : PUnit), (x (w, record)).2) = _
  rw [hx]
  rfl

-- ======================================================= the primitives

theorem adds_aside (entry : B → A) (y : StateM W α) :
    Adds entry (Record.aside y) y fun added _ => added = [] := by
  intro w record
  refine ⟨[], ?_, rfl⟩
  rw [List.map_nil, List.append_nil]
  rfl

theorem adds_noting (entry : B → A) (y : StateM W α) (note : α → B) :
    Adds entry (Record.noting y fun a => entry (note a)) y fun added a => added = [note a] :=
  fun w _ => ⟨[note (y w).1], rfl, rfl⟩

/-- The entries themselves are what is added. -/
theorem Adds.entries {x : StateM (W × List A) α} {y : StateM W α} {R : List B → α → Prop}
    (h : Adds entry x y R) :
    Adds id x y fun added a => ∃ told, added = told.map entry ∧ R told a := by
  intro w record
  obtain ⟨added, hx, hR⟩ := h w record
  refine ⟨added.map entry, ?_, added, rfl, hR⟩
  rw [List.map_id]
  exact hx

/-- What is recorded as a whole is one entry. -/
theorem Adds.gathering {x : StateM (W × List A) α} {y : StateM W α} {R : List A → α → Prop}
    (h : Adds id x y R) (note : α → List A → C) :
    Adds id (Record.gathering x note) y fun added a =>
      ∃ gathered, added = [note a gathered] ∧ R gathered a := by
  intro w record
  obtain ⟨gathered, hx, hR⟩ := h w []
  refine ⟨[note (y w).1 gathered], ?_, gathered, rfl, hR⟩
  rw [List.nil_append, List.map_id] at hx
  unfold Record.gathering
  dsimp only
  rw [hx]
  rfl

/-- What a step has added, once it is done. -/
theorem Adds.added {x : StateM (W × List A) α} {y : StateM W α} {R : List A → α → Prop}
    (h : Adds id x y R) {w w' : W × List A} {a : α} (hx : x w = (a, w')) :
    ∃ added, w'.2 = w.2 ++ added ∧ R added a := by
  obtain ⟨added, heq, hR⟩ := h w.1 w.2
  rw [List.map_id] at heq
  have hanswer := hx.symm.trans heq
  refine ⟨added, congrArg (fun r => r.2.2) hanswer, ?_⟩
  rw [show a = (y w.1).1 from congrArg Prod.fst hanswer]
  exact hR

/-- A step that begins with an empty record leaves there what it adds. -/
theorem Adds.anew {x : StateM (W × List A) α} {y : StateM W α} {R : List A → α → Prop}
    (h : Adds id x y R) (w : W) :
    y w = ((x (w, [])).1, (x (w, [])).2.1) ∧ R (x (w, [])).2.2 (x (w, [])).1 := by
  obtain ⟨added, hx, hR⟩ := h w []
  rw [hx, List.map_id]
  exact ⟨rfl, hR⟩

/-- The entry for steps that were recorded as a whole. -/
theorem Adds.gathered {x : StateM (W × List A) α} {y : StateM W α} {R : List A → α → Prop}
    (h : Adds id x y R) (note : α → List A → C) {w w' : W × List C} {a : α}
    (hx : Record.gathering x note w = (a, w')) :
    ∃ gathered, w'.2 = w.2 ++ [note a gathered] ∧ R gathered a := by
  obtain ⟨added, hadded, gathered, rfl, hR⟩ := (h.gathering note).added hx
  exact ⟨gathered, hadded, hR⟩

-- ==================================================== without the record

/-- Without the record, nothing is different. -/
theorem Adds.shows {x : StateM (W × List A) α} {y : StateM W α} {R : List B → α → Prop}
    (h : Adds entry x y R) : Shows Prod.fst id x y := by
  rintro ⟨w, record⟩
  obtain ⟨added, hx, -⟩ := h w record
  rw [hx]
  rfl

end

/-- A situation whose channels carry no marks looks like its world. -/
theorem Situation.seen_id {W' : Type} (world : W' → W) (s : Situation W' ι κ ρ) :
    s.seen world id = (s.1, world s.2) := by
  obtain ⟨⟨initialized, c⟩, w⟩ := s
  cases c <;> rfl

/-- An attempt to open a device looks the same if its channels carry no
marks. -/
theorem Shows.linked {W' : Type} {world : W' → W}
    {x : StateM W' (Outcome (DeviceRecord × Link κ ρ))}
    {y : StateM W (Outcome (DeviceRecord × Link κ ρ))} (h : Shows world id x y) :
    Shows world (Except.map (Prod.map (fun record => record) (Link.mapChannel id))) x y := by
  intro w
  rw [h w]
  rcases x w with ⟨outcome, w'⟩
  cases outcome with
  | error e => rfl
  | ok opened =>
    obtain ⟨record, link⟩ := opened
    cases link <;> rfl

end ReceiptPrinter
