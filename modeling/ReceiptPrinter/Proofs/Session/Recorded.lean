/-
Steps that keep a record.

`Proceeds` is what `Adds` says of an effect, said of a step that may fail
and that has a state of its own: with a record kept it goes on as it does
without, and a condition relates the entries added, what is answered and
the state that is left. The rules follow the way in which steps are put
together. From what a transport adds for each thing asked of it they give
what selecting a device, printing and closing add.
-/
import ReceiptPrinter.Proofs.Record
import ReceiptPrinter.Session.Operation

namespace ReceiptPrinter

variable {W A S ι κ ρ α β : Type}

/-- From the state `s`, the step `x` proceeds as the step `y` does, and adds
entries to the record that satisfy `R` together with what comes of it. -/
def Proceeds (x : ExceptT PrinterError (StateT S (StateM (W × List A))) α)
    (y : ExceptT PrinterError (StateT S (StateM W)) α) (s : S)
    (R : List A → Outcome α → S → Prop) : Prop :=
  Adds id (x.run.run s) (y.run.run s) fun added result => R added result.1 result.2

/-- The step `x` proceeds as the step `y` does, and never fails. -/
abbrev Succeeds (x : ExceptT PrinterError (StateT S (StateM (W × List A))) α)
    (y : ExceptT PrinterError (StateT S (StateM W)) α) (s : S) (R : List A → α → S → Prop) : Prop :=
  Proceeds x y s fun added outcome s' => ∃ a, outcome = .ok a ∧ R added a s'

-- ========================================================== sequencing

section

variable {s : S}

theorem Proceeds.mono {x : ExceptT PrinterError (StateT S (StateM (W × List A))) α}
    {y : ExceptT PrinterError (StateT S (StateM W)) α} {R R' : List A → Outcome α → S → Prop}
    (h : Proceeds x y s R) (hR : ∀ added outcome s', R added outcome s' → R' added outcome s') :
    Proceeds x y s R' :=
  Adds.mono h fun added result => hR added result.1 result.2

theorem Proceeds.pure {R : List A → Outcome α → S → Prop} {a : α} (h : R [] (.ok a) s) :
    Proceeds (W := W) (Pure.pure a) (Pure.pure a) s R :=
  Adds.pure h

theorem Proceeds.throw {R : List A → Outcome α → S → Prop} {e : PrinterError}
    (h : R [] (.error e) s) : Proceeds (W := W) (throw e) (throw e) s R :=
  Adds.pure h

/-- A step after another one adds its entries after those of the other. -/
theorem Proceeds.bind {x : ExceptT PrinterError (StateT S (StateM (W × List A))) α}
    {y : ExceptT PrinterError (StateT S (StateM W)) α} {R : List A → Outcome α → S → Prop}
    {k : α → ExceptT PrinterError (StateT S (StateM (W × List A))) β}
    {l : α → ExceptT PrinterError (StateT S (StateM W)) β} {T : List A → Outcome β → S → Prop}
    (h : Proceeds x y s R)
    (hk : ∀ added a s', R added (.ok a) s' →
      Proceeds (k a) (l a) s' fun more => T (added ++ more))
    (hfail : ∀ added e s', R added (.error e) s' → T added (.error e) s') :
    Proceeds (x >>= k) (y >>= l) s T := by
  refine Adds.bind (k := fun result => (ExceptT.bindCont k result.1).run result.2)
    (l := fun result => (ExceptT.bindCont l result.1).run result.2) h fun added result hR => ?_
  obtain ⟨outcome, s'⟩ := result
  cases outcome with
  | ok a => exact hk added a s' hR
  | error e =>
    refine Adds.pure ?_
    rw [List.append_nil]
    exact hfail added e s' hR

theorem run_discard (x : ExceptT PrinterError (StateT S (StateM W)) α) (w : W) :
    (discard x).run.run s w
      = (((x.run.run s w).1.1.map fun _ => (), (x.run.run s w).1.2), (x.run.run s w).2) := by
  simp only [discard, Functor.discard, Functor.mapConst, Function.comp, Function.const, ExceptT.map,
    ExceptT.mk, ExceptT.run, bind, StateT.bind, StateT.run]
  rcases x s w with ⟨⟨outcome, s'⟩, w'⟩
  cases outcome <;> rfl

theorem Proceeds.discard {x : ExceptT PrinterError (StateT S (StateM (W × List A))) α}
    {y : ExceptT PrinterError (StateT S (StateM W)) α} {R : List A → Outcome α → S → Prop}
    (h : Proceeds x y s R) :
    Proceeds (discard x) (discard y) s fun added outcome s' =>
      ∃ answer, R added answer s' ∧ outcome = answer.map fun _ => () := by
  intro w record
  obtain ⟨added, hx, hR⟩ := h w record
  refine ⟨added, ?_, (y.run.run s w).1.1, ?_, ?_⟩
  · rw [run_discard, run_discard, hx]
  · rw [run_discard]
    exact hR
  · rw [run_discard]

/-- Only the answer is put in another form. -/
theorem Proceeds.returning {x : ExceptT PrinterError (StateT S (StateM (W × List A))) α}
    {y : ExceptT PrinterError (StateT S (StateM W)) α} {R : List A → Outcome α → S → Prop}
    (h : Proceeds x y s R) (f : α → β) :
    Proceeds (do return f (← x)) (do return f (← y)) s fun added outcome s' =>
      ∃ answer, R added answer s' ∧ outcome = answer.map f := by
  refine Proceeds.bind h ?_ ?_
  · rintro added a s' hR
    exact Proceeds.pure ⟨_, by simpa using hR, rfl⟩
  · rintro added e s' hR
    exact ⟨_, hR, rfl⟩

/-- A step that never fails is always followed by the next one. -/
theorem Succeeds.bind {x : ExceptT PrinterError (StateT S (StateM (W × List A))) α}
    {y : ExceptT PrinterError (StateT S (StateM W)) α} {R : List A → α → S → Prop}
    {k : α → ExceptT PrinterError (StateT S (StateM (W × List A))) β}
    {l : α → ExceptT PrinterError (StateT S (StateM W)) β} {T : List A → Outcome β → S → Prop}
    (h : Succeeds x y s R)
    (hk : ∀ added a s', R added a s' → Proceeds (k a) (l a) s' fun more => T (added ++ more)) :
    Proceeds (x >>= k) (y >>= l) s T := by
  refine Proceeds.bind h ?_ ?_
  · rintro added a s' ⟨_, ha, hR⟩
    cases ha
    exact hk added a s' hR
  · rintro added e s' ⟨_, hfail, -⟩
    cases hfail

theorem Succeeds.discard {x : ExceptT PrinterError (StateT S (StateM (W × List A))) α}
    {y : ExceptT PrinterError (StateT S (StateM W)) α} {R : List A → α → S → Prop}
    (h : Succeeds x y s R) :
    Succeeds (discard x) (discard y) s fun added _ s' => ∃ a, R added a s' := by
  refine (Proceeds.discard h).mono ?_
  rintro added outcome s' ⟨_, ⟨a, rfl, hR⟩, rfl⟩
  exact ⟨(), rfl, a, hR⟩

theorem Succeeds.returning {x : ExceptT PrinterError (StateT S (StateM (W × List A))) α}
    {y : ExceptT PrinterError (StateT S (StateM W)) α} {R : List A → α → S → Prop}
    (h : Succeeds x y s R) (f : α → β) :
    Succeeds (do return f (← x)) (do return f (← y)) s fun added b s' =>
      ∃ a, b = f a ∧ R added a s' := by
  refine (Proceeds.returning h f).mono ?_
  rintro added outcome s' ⟨_, ⟨a, rfl, hR⟩, rfl⟩
  exact ⟨f a, rfl, a, rfl, hR⟩

/-- An answer that is looked at, be it an error, does not end the row. -/
theorem Proceeds.lift {x : StateT S (StateM (W × List A)) (Outcome α)}
    {y : StateT S (StateM W) (Outcome α)} {R : List A → Outcome α → S → Prop}
    (h : Proceeds (ExceptT.mk x) (ExceptT.mk y) s R) :
    Succeeds (ExceptT.lift x) (ExceptT.lift y) s R := by
  intro w record
  obtain ⟨added, hx, hR⟩ := h w record
  refine ⟨added, ?_, _, rfl, hR⟩
  show ((Except.ok (x s (w, record)).1.1, (x s (w, record)).1.2), (x s (w, record)).2) = _
  rw [show x s (w, record) = _ from hx]
  rfl

/-- An effect leaves the state as it is. -/
theorem Proceeds.attempt {x : StateM (W × List A) (Outcome α)} {y : StateM W (Outcome α)}
    {R : List A → Outcome α → Prop} (h : Adds id x y R) :
    Proceeds (ExceptT.mk (StateT.lift x)) (ExceptT.mk (StateT.lift y)) s fun added outcome s' =>
      R added outcome ∧ s' = s := by
  refine Adds.bind h fun added outcome hR => Adds.pure ?_
  rw [List.append_nil]
  exact ⟨hR, rfl⟩

/-- An effect that cannot fail. -/
theorem succeeds_effect {x : StateM (W × List A) α} {y : StateM W α} {R : List A → α → Prop}
    (h : Adds id x y R) :
    Succeeds (ExceptT.lift (StateT.lift x)) (ExceptT.lift (StateT.lift y)) s fun added a s' =>
      R added a ∧ s' = s := by
  intro w record
  obtain ⟨added, hx, hR⟩ := h w record
  refine ⟨added, ?_, _, rfl, hR, rfl⟩
  show ((Except.ok (x (w, record)).1, s), (x (w, record)).2) = _
  rw [hx]
  rfl

end

/-- What a printer that keeps a record adds to it for each thing that it asks
of its transport. Entries of most requests are `calm`; those of an attempt
to open a device that `fails`, or that `opens` a channel, and those of one
that `closes`, are told apart. -/
structure Printer.Notes (calm : A → Prop) (fails : List A → Prop) (opens closes : κ → List A → Prop)
    (p' : Printer (StateM (W × List A)) ι κ Empty) (p : Printer (StateM W) ι κ Empty) : Prop where
  settings : p'.settings = p.settings
  prepare : Adds id p'.backend.prepare p.backend.prepare fun added _ => ∀ a ∈ added, calm a
  devices : Adds id p'.backend.devices p.backend.devices fun added _ => ∀ a ∈ added, calm a
  connect : ∀ device, Adds id (p'.backend.connect device) (p.backend.connect device)
    fun added outcome => match outcome with
      | .ok (_, .channel channel) => opens channel added
      | .ok (_, .request request) => request.elim
      | .error _ => fails added
  write : ∀ channel chunk, Adds id (p'.backend.write channel chunk) (p.backend.write channel chunk)
    fun added _ => ∀ a ∈ added, calm a
  flush : ∀ channel, Adds id (p'.backend.flush channel) (p.backend.flush channel)
    fun added _ => ∀ a ∈ added, calm a
  close : ∀ channel, Adds id (p'.backend.close channel) (p.backend.close channel)
    fun added _ => closes channel added
  fetch : ∀ locator, Adds id (p'.fetch locator) (p.fetch locator) fun added _ => ∀ a ∈ added, calm a

namespace Printer

variable {calm : A → Prop} {fails : List A → Prop} {opens closes : κ → List A → Prop}
  {p' : Printer (StateM (W × List A)) ι κ Empty} {p : Printer (StateM W) ι κ Empty}

-- ======================================================= the primitives

theorem succeeds_connection (s : Session ι κ Empty) :
    Succeeds (W := W) (A := A) connection connection s fun added c s' =>
      added = [] ∧ c = s.connection ∧ s' = s :=
  Adds.pure ⟨_, rfl, rfl, rfl, rfl⟩

theorem succeeds_setConnection (c : Connection ι κ Empty) (s : Session ι κ Empty) :
    Succeeds (W := W) (A := A) (setConnection c) (setConnection c) s fun added _ s' =>
      added = [] ∧ s' = { s with connection := c } :=
  Adds.pure ⟨_, rfl, rfl, rfl⟩

-- ================================================= opening and closing

theorem proceeds_init (h : Notes calm fails opens closes p' p) (s : Session ι κ Empty) :
    Proceeds p'.init p.init s fun added _ s' =>
      (∀ a ∈ added, calm a) ∧ s'.connection = s.connection := by
  refine Proceeds.bind (Proceeds.attempt h.prepare) ?_ ?_
  · rintro added u s' ⟨hadded, rfl⟩
    exact Adds.pure ⟨by simpa using hadded, rfl⟩
  · rintro added e s' ⟨hadded, rfl⟩
    exact ⟨hadded, rfl⟩

theorem proceeds_ensureInit (h : Notes calm fails opens closes p' p) (s : Session ι κ Empty) :
    Proceeds p'.ensureInit p.ensureInit s fun added _ s' =>
      (∀ a ∈ added, calm a) ∧ s'.connection = s.connection := by
  have hget : Succeeds (W := W) (A := A) get get s fun added session s' =>
      added = [] ∧ session = s ∧ s' = s := Adds.pure ⟨_, rfl, rfl, rfl, rfl⟩
  refine hget.bind ?_
  rintro added session s' ⟨rfl, rfl, rfl⟩
  split
  · exact Proceeds.pure ⟨List.forall_mem_nil _, rfl⟩
  · exact proceeds_init h _

/-- Closing adds what the channel adds that is closed, if there is one. -/
theorem succeeds_close (h : Notes calm fails opens closes p' p) (s : Session ι κ Empty) :
    Succeeds p'.close p.close s fun added _ s' =>
      s' = { s with connection := .ready }
        ∧ match s.connection with
          | .connected _ _ channel => closes channel added
          | _ => added = [] := by
  obtain ⟨initialized, c⟩ := s
  refine (succeeds_connection _).bind ?_
  rintro added c s' ⟨rfl, rfl, rfl⟩
  cases c with
  | ready => exact Proceeds.pure ⟨_, rfl, rfl, rfl⟩
  | awaiting id record request => exact request.elim
  | connected id record channel =>
    refine (succeeds_setConnection .ready _).bind ?_
    rintro added u s' ⟨rfl, rfl⟩
    refine (succeeds_effect (h.close channel)).mono ?_
    rintro added outcome s' ⟨u, rfl, hcloses, rfl⟩
    exact ⟨u, rfl, rfl, hcloses⟩

theorem proceeds_openDevice (h : Notes calm fails opens closes p' p) (device : ι)
    (s : Session ι κ Empty) :
    Proceeds (p'.openDevice device) (p.openDevice device) s fun added outcome s' =>
      match outcome with
      | .ok _ => ∃ channel, s'.connection.channel? = some channel ∧ opens channel added
      | .error _ => fails added := by
  refine Proceeds.bind (Proceeds.attempt (h.connect device)) ?_ ?_
  · rintro added ⟨record, link⟩ s' ⟨hadded, rfl⟩
    cases link with
    | request request => exact request.elim
    | channel channel => exact Adds.pure ⟨channel, rfl, by simpa using hadded⟩
  · rintro added e s' ⟨hadded, -⟩
    exact hadded

/-- Where nothing is bound, binding a device comes down to opening it. -/
theorem proceeds_bindDevice [DecidableEq ι] (h : Notes calm fails opens closes p' p) (device : ι)
    {s : Session ι κ Empty} (hready : s.connection = .ready) :
    Proceeds (p'.bindDevice device) (p.bindDevice device) s fun added outcome s' =>
      match outcome with
      | .ok _ => ∃ channel, s'.connection.channel? = some channel ∧ opens channel added
      | .error _ => fails added := by
  have hreusable : Succeeds (p'.reusable? device) (p.reusable? device) s fun added reusable s' =>
      added = [] ∧ reusable = none ∧ s' = s := by
    refine (succeeds_connection _).bind ?_
    rintro added c s' ⟨rfl, rfl, rfl⟩
    rw [hready]
    exact Proceeds.pure ⟨_, rfl, rfl, rfl, rfl⟩
  refine hreusable.bind ?_
  rintro added reusable s' ⟨rfl, rfl, rfl⟩
  refine (succeeds_close h _).bind ?_
  rintro closing u s' ⟨rfl, hclosing⟩
  rw [hready] at hclosing
  subst hclosing
  refine Proceeds.bind (proceeds_openDevice h device _) ?_ ?_
  · rintro opening opened s' ⟨channel, hopen, hopens⟩
    exact Proceeds.pure ⟨channel, hopen, by simpa using hopens⟩
  · rintro failing e s' hfails
    exact hfails

/-- What is added by selecting a device from the start. -/
theorem proceeds_select [DecidableEq ι] (h : Notes calm fails opens closes p' p) (device : ι) :
    Proceeds (p'.select device) (p.select device) .fresh fun added outcome s' =>
      ∃ before rest, added = before ++ rest ∧ (∀ a ∈ before, calm a)
        ∧ match outcome with
          | .ok _ => ∃ channel, s'.connection.channel? = some channel ∧ opens channel rest
          | .error _ => rest = [] ∨ fails rest := by
  refine Proceeds.bind (proceeds_ensureInit h .fresh) ?_ ?_
  · rintro before u s' ⟨hcalm, hready⟩
    refine (proceeds_bindDevice h device hready).mono fun rest outcome s' hrest => ?_
    refine ⟨before, rest, rfl, hcalm, ?_⟩
    cases outcome with
    | ok record => exact hrest
    | error e => exact .inr hrest
  · rintro added e s' ⟨hcalm, -⟩
    exact ⟨added, [], by simp, hcalm, .inl rfl⟩

/-- To list the devices opens nothing. -/
theorem proceeds_list (h : Notes calm fails opens closes p' p) (s : Session ι κ Empty) :
    Proceeds p'.list p.list s fun added _ _ => ∀ a ∈ added, calm a := by
  refine Proceeds.bind (proceeds_ensureInit h s) ?_ ?_
  · rintro added u s' ⟨hcalm, -⟩
    refine (Proceeds.attempt h.devices).mono ?_
    rintro more outcome s'' ⟨hmore, -⟩
    exact List.forall_mem_append.mpr ⟨hcalm, hmore⟩
  · rintro added e s' ⟨hcalm, -⟩
    exact hcalm

-- ============================================================ printing

/-- An open channel is found without asking the transport. -/
theorem succeeds_channel {s : Session ι κ Empty} {channel : κ}
    (hopen : s.connection.channel? = some channel) :
    Succeeds p'.channel p.channel s fun added found s' =>
      added = [] ∧ found = channel ∧ s' = s := by
  obtain ⟨initialized, id, record, rfl⟩ := Session.eq_of_channel? hopen
  refine (succeeds_connection _).bind ?_
  rintro added c s' ⟨rfl, rfl, rfl⟩
  exact Proceeds.pure ⟨_, rfl, rfl, rfl, rfl⟩

theorem adds_stream (h : Notes calm fails opens closes p' p) (job : Job) :
    Adds id (p'.stream job) (p.stream job) fun added _ => ∀ a ∈ added, calm a := by
  cases job with
  | image locator max =>
    refine (h.fetch locator).bind fun added outcome hcalm => ?_
    rw [h.settings]
    cases outcome with
    | ok picture => exact .pure (by simpa using hcalm)
    | error e => exact .pure (by simpa using hcalm)
  | qr text size =>
    show Adds id (return qrStream text (p'.settings.qrSide size)) _ _
    rw [h.settings]
    exact .pure (List.forall_mem_nil _)
  | _ => exact .pure (List.forall_mem_nil _)

theorem adds_writeChunks (h : Notes calm fails opens closes p' p) (channel : κ)
    (chunks : List Bytes) :
    Adds id (writeChunks (p'.backend.write channel) chunks)
      (writeChunks (p.backend.write channel) chunks) fun added _ => ∀ a ∈ added, calm a := by
  induction chunks with
  | nil => exact .pure (List.forall_mem_nil _)
  | cons chunk rest ih =>
    refine (h.write channel chunk).bind fun added result hcalm => ?_
    cases result with
    | ok _ => exact ih.mono fun more _ hmore => List.forall_mem_append.mpr ⟨hcalm, hmore⟩
    | error e => exact .pure (by simpa using hcalm)

theorem adds_send (h : Notes calm fails opens closes p' p) (channel : κ) (job : Stream) :
    Adds id (p'.backend.send channel job) (p.backend.send channel job) fun added _ =>
      ∀ a ∈ added, calm a := by
  refine (adds_writeChunks h channel job.chunks).bind fun added result hcalm => ?_
  cases result with
  | ok _ =>
    exact (h.flush channel).mono fun more _ hmore => List.forall_mem_append.mpr ⟨hcalm, hmore⟩
  | error e => exact .pure (by simpa using hcalm)

/-- A job that has a channel leaves it as it is, or closes it. -/
def Leaves (calm : A → Prop) (closes : κ → List A → Prop) (channel : κ) (s : Session ι κ Empty)
    (added : List A) (s' : Session ι κ Empty) : Prop :=
  (s' = s ∧ ∀ a ∈ added, calm a)
    ∨ s'.connection = .ready ∧ ∃ before closing, added = before ++ closing
        ∧ (∀ a ∈ before, calm a) ∧ closes channel closing

theorem proceeds_write (h : Notes calm fails opens closes p' p) (job : Stream)
    {s : Session ι κ Empty} {channel : κ} (hopen : s.connection.channel? = some channel) :
    Proceeds (p'.write job) (p.write job) s fun added _ s' =>
      Leaves calm closes channel s added s' := by
  refine (succeeds_channel hopen).bind ?_
  rintro added found s' ⟨rfl, rfl, rfl⟩
  refine (succeeds_effect (adds_send h found job)).bind ?_
  rintro sent result s' ⟨hcalm, rfl⟩
  cases result with
  | ok _ => exact Proceeds.pure (.inl ⟨rfl, by simpa using hcalm⟩)
  | error e =>
    refine (succeeds_close h _).bind ?_
    rintro closing u s' ⟨rfl, hcloses⟩
    obtain ⟨initialized, id, record, rfl⟩ := Session.eq_of_channel? hopen
    exact Proceeds.throw (.inr ⟨rfl, sent, closing, by simp, hcalm, hcloses⟩)

theorem proceeds_print (h : Notes calm fails opens closes p' p) (job : Job)
    {s : Session ι κ Empty} {channel : κ} (hopen : s.connection.channel? = some channel) :
    Proceeds (p'.print job) (p.print job) s fun added _ s' =>
      Leaves calm closes channel s added s' := by
  have hprepared : Proceeds (do p'.write (← attempt (p'.stream job)))
      (do p.write (← attempt (p.stream job))) s fun added _ s' =>
        Leaves calm closes channel s added s' := by
    refine Proceeds.bind (Proceeds.attempt (adds_stream h job)) ?_ ?_
    · rintro added stream s' ⟨hcalm, rfl⟩
      refine (proceeds_write h stream hopen).mono fun more outcome s' hmore => ?_
      rcases hmore with ⟨rfl, hmore⟩ | ⟨hready, before, closing, rfl, hbefore, hcloses⟩
      · exact .inl ⟨rfl, List.forall_mem_append.mpr ⟨hcalm, hmore⟩⟩
      · refine .inr ⟨hready, added ++ before, closing, by simp, ?_, hcloses⟩
        exact List.forall_mem_append.mpr ⟨hcalm, hbefore⟩
    · rintro added e s' ⟨hcalm, rfl⟩
      exact .inl ⟨rfl, hcalm⟩
  unfold print
  split
  · refine (succeeds_channel hopen).discard.bind ?_
    rintro added u s' ⟨_, rfl, -, rfl⟩
    exact hprepared
  · exact hprepared

end Printer

end ReceiptPrinter
