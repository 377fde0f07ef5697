/-
What a printer can do, one thing at a time.

Every operation comes down to a row of acts: the transport is checked, a
request is looked at, a connection is opened or given up, a picture is
fetched. `Act` lists them with the guard under which each is done, and the
theorems below say once, for every step, that it is such a row. What holds
in all situations is then shown act by act, and nothing about the
operations themselves has to be looked at again.

Writing and flushing stand apart as `Transfer`: only print jobs do that.
-/
import ReceiptPrinter.Proofs.Session.Eval
import Mathlib.Logic.Relation

namespace ReceiptPrinter

variable {W ι κ ρ α β E : Type}

/-- The connection that an attempt to open a device leaves. -/
def Connection.ofAttempt (id : ι) : Outcome (DeviceRecord × Link κ ρ) → Connection ι κ ρ
  | .ok (record, link) => .ofLink id record link
  | .error _ => .ready

/-- Something that a printer does, other than writing. -/
inductive Act (p : Printer (StateM W) ι κ ρ) : Situation W ι κ ρ → Situation W ι κ ρ → Prop where
  | prepared {session : Session ι κ ρ} {w w' : W} (h : p.backend.prepare w = (.ok (), w')) :
    Act p (session, w) ({ session with initialized := true }, w')
  | unprepared {session : Session ι κ ρ} {w w' : W} {e : PrinterError}
    (h : p.backend.prepare w = (.error e, w')) : Act p (session, w) (session, w')
  | listed {session : Session ι κ ρ} {w w' : W} {outcome : Outcome (List DeviceRecord)}
    (h : p.backend.devices w = (outcome, w')) : Act p (session, w) (session, w')
  | fetched {session : Session ι κ ρ} {w w' : W} {locator : String}
    {outcome : Outcome PixelMatrix} (h : p.fetch locator w = (outcome, w')) :
    Act p (session, w) (session, w')
  | polled {initialized : Bool} {id : ι} {record : DeviceRecord} {request request' : ρ}
    {state : PermissionState} {w w' : W} (h : p.backend.poll request w = ((state, request'), w')) :
    Act p (⟨initialized, .awaiting id record request⟩, w)
      (⟨initialized, .awaiting id record request'⟩, w')
  | dropped {initialized : Bool} {id : ι} {record : DeviceRecord} {request : ρ} {w : W} :
    Act p (⟨initialized, .awaiting id record request⟩, w) (⟨initialized, .ready⟩, w)
  /-- A device is opened for a session that is bound to nothing. -/
  | opened {id : ι} {outcome : Outcome (DeviceRecord × Link κ ρ)} {w w' : W}
    (h : p.backend.connect id w = (outcome, w')) :
    Act p (⟨true, .ready⟩, w) (⟨true, .ofAttempt id outcome⟩, w')
  /-- A device is opened once more because the user has granted access. -/
  | reopened {initialized : Bool} {id : ι} {record : DeviceRecord} {request request' : ρ}
    {outcome : Outcome (DeviceRecord × Link κ ρ)} {w w₁ w₂ : W}
    (hpoll : p.backend.poll request w = ((.granted, request'), w₁))
    (h : p.backend.connect id w₁ = (outcome, w₂)) :
    Act p (⟨initialized, .awaiting id record request⟩, w)
      (⟨initialized, .ofAttempt id outcome⟩, w₂)
  | closed {initialized : Bool} {id : ι} {record : DeviceRecord} {channel : κ} {w w' : W}
    (h : p.backend.close channel w = ((), w')) :
    Act p (⟨initialized, .connected id record channel⟩, w) (⟨initialized, .ready⟩, w')

/-- Something asked of the open channel. -/
inductive Transfer (p : Printer (StateM W) ι κ ρ) :
    Situation W ι κ ρ → Situation W ι κ ρ → Prop where
  | wrote {initialized : Bool} {id : ι} {record : DeviceRecord} {channel : κ} {chunk : Bytes}
    {result : Outcome Unit} {w w' : W} (h : p.backend.write channel chunk w = (result, w')) :
    Transfer p (⟨initialized, .connected id record channel⟩, w)
      (⟨initialized, .connected id record channel⟩, w')
  | flushed {initialized : Bool} {id : ι} {record : DeviceRecord} {channel : κ}
    {result : Outcome Unit} {w w' : W} (h : p.backend.flush channel w = (result, w')) :
    Transfer p (⟨initialized, .connected id record channel⟩, w)
      (⟨initialized, .connected id record channel⟩, w')

/-- A row of acts. -/
abbrev Acts (p : Printer (StateM W) ι κ ρ) : Situation W ι κ ρ → Situation W ι κ ρ → Prop :=
  Relation.ReflTransGen (Act p)

/-- A row of acts and transfers. -/
abbrev Doings (p : Printer (StateM W) ι κ ρ) : Situation W ι κ ρ → Situation W ι κ ρ → Prop :=
  Relation.ReflTransGen fun s s' => Act p s s' ∨ Transfer p s s'

section

variable {p : Printer (StateM W) ι κ ρ}

-- ====================================================== the open channel

theorem Transfer.ofWrite {session : Session ι κ ρ} {channel : κ} {chunk : Bytes}
    {result : Outcome Unit} {w w' : W} (hopen : session.connection.channel? = some channel)
    (h : p.backend.write channel chunk w = (result, w')) : Transfer p (session, w) (session, w') := by
  obtain ⟨initialized, id, record, rfl⟩ := Session.eq_of_channel? hopen
  exact .wrote h

theorem Transfer.ofFlush {session : Session ι κ ρ} {channel : κ} {result : Outcome Unit} {w w' : W}
    (hopen : session.connection.channel? = some channel)
    (h : p.backend.flush channel w = (result, w')) : Transfer p (session, w) (session, w') := by
  obtain ⟨initialized, id, record, rfl⟩ := Session.eq_of_channel? hopen
  exact .flushed h

/-- To give up an open channel is to close it. -/
theorem Act.ofHangUp {session : Session ι κ ρ} {channel : κ}
    (hopen : session.connection.channel? = some channel) (w : W) :
    Act p (session, w) ({ session with connection := .ready }, p.hangUp session.connection w) := by
  obtain ⟨initialized, id, record, rfl⟩ := Session.eq_of_channel? hopen
  exact .closed rfl

-- ========================================================= rows of acts

theorem Acts.doings {s s' : Situation W ι κ ρ} (h : Acts p s s') : Doings p s s' :=
  Relation.ReflTransGen.mono (fun _ _ => Or.inl) _ _ h

/-- What holds before a row of doings and is kept by each holds afterwards. -/
theorem Doings.keep {P : Situation W ι κ ρ → Prop}
    (hact : ∀ {s s'}, Act p s s' → P s → P s')
    (htransfer : ∀ {s s'}, Transfer p s s' → P s → P s')
    {s s' : Situation W ι κ ρ} (h : Doings p s s') (hs : P s) : P s' := by
  induction h with
  | refl => exact hs
  | tail _ hlast ih =>
    rcases hlast with hlast | hlast
    · exact hact hlast ih
    · exact htransfer hlast ih

/-- What was found usable stays so. -/
theorem Act.initialized {s s' : Situation W ι κ ρ} (h : Act p s s')
    (hs : s.1.initialized = true) : s'.1.initialized = true := by
  cases h <;> first | exact hs | rfl

theorem Acts.initialized {s s' : Situation W ι κ ρ} (h : Acts p s s')
    (hs : s.1.initialized = true) : s'.1.initialized = true := by
  induction h with
  | refl => exact hs
  | tail _ hlast ih => exact Act.initialized hlast ih

end

namespace Printer

open Step Relation

variable {p : Printer (StateM W) ι κ ρ}

/-- A step after another one goes on where the first one has left off. -/
theorem reach_bind {R : Situation W ι κ ρ → Situation W ι κ ρ → Prop}
    {x : Step (StateM W) ι κ ρ α} {f : α → Step (StateM W) ι κ ρ β} {s : Situation W ι κ ρ}
    (hx : ReflTransGen R s (eval x s).2)
    (hf : ∀ a s', eval x s = (.ok a, s') → ReflTransGen R s' (eval (f a) s').2) :
    ReflTransGen R s (eval (x >>= f) s).2 := by
  rw [eval_bind]
  rcases h : eval x s with ⟨outcome, s'⟩
  rw [h] at hx
  cases outcome with
  | ok a => exact hx.trans (hf a s' h)
  | error e => exact hx

-- ================================================= opening and closing

theorem acts_init (s : Situation W ι κ ρ) : Acts p s (eval p.init s).2 := by
  rw [eval_init]
  rcases h : p.backend.prepare s.2 with ⟨outcome, w⟩
  cases outcome with
  | ok _ => exact .single (.prepared h)
  | error e => exact .single (.unprepared h)

theorem acts_ensureInit (s : Situation W ι κ ρ) : Acts p s (eval p.ensureInit s).2 := by
  rw [eval_ensureInit]
  split
  · exact .refl
  · exact acts_init s

/-- A transport that passes the check is known to be usable afterwards. -/
theorem initialized_of_ensureInit {s s' : Situation W ι κ ρ} {u : Unit}
    (h : eval p.ensureInit s = (.ok u, s')) : s'.1.initialized = true := by
  rw [eval_ensureInit] at h
  split at h
  · next hs =>
    injection h with _ h
    exact h ▸ hs
  · rw [eval_init] at h
    split at h
    · injection h with _ h
      rw [← h]
    · injection h with h _
      cases h

theorem acts_close (s : Situation W ι κ ρ) : Acts p s (eval p.close s).2 := by
  rw [eval_close]
  obtain ⟨⟨initialized, c⟩, w⟩ := s
  cases c with
  | ready => exact .refl
  | awaiting id record request => exact .single .dropped
  | connected id record channel => exact .single (.closed rfl)

/-- Opening is done for sessions that are bound to nothing, on transports
that are known to be usable. -/
theorem acts_openDevice (id : ι) {s : Situation W ι κ ρ} (hinit : s.1.initialized = true)
    (hready : s.1.connection = .ready) : Acts p s (eval (p.openDevice id) s).2 := by
  obtain ⟨⟨initialized, c⟩, w⟩ := s
  cases hinit
  cases hready
  rw [eval_openDevice]
  rcases h : p.backend.connect id w with ⟨outcome, w'⟩
  cases outcome with
  | ok opened => exact .single (.opened h)
  | error e => exact .single (.opened h)

-- ============================================================= devices

theorem acts_list (s : Situation W ι κ ρ) : Acts p s (eval p.list s).2 := by
  refine reach_bind (acts_ensureInit s) fun _ s' _ => ?_
  exact .single (.listed rfl)

section

variable [DecidableEq ι]

theorem acts_reusable? (id : ι) (s : Situation W ι κ ρ) :
    Acts p s (eval (p.reusable? id) s).2 := by
  obtain ⟨⟨initialized, c⟩, w⟩ := s
  refine reach_bind .refl fun _ s' h => ?_
  cases h
  cases c with
  | ready => exact .refl
  | connected current record channel =>
    dsimp only
    split <;> exact .refl
  | awaiting current record request =>
    dsimp only
    split
    · refine reach_bind (.single (.polled rfl)) fun state s' _ => ?_
      cases state <;> exact .refl
    · exact .refl

theorem acts_bindDevice (id : ι) {s : Situation W ι κ ρ} (hinit : s.1.initialized = true) :
    Acts p s (eval (p.bindDevice id) s).2 := by
  have hreuse := acts_reusable? (p := p) id s
  refine reach_bind hreuse fun reusable s₁ h₁ => ?_
  rw [h₁] at hreuse
  cases reusable with
  | some record => exact .refl
  | none =>
    have hclose := acts_close (p := p) s₁
    refine reach_bind hclose fun _ s₂ h₂ => ?_
    rw [h₂] at hclose
    -- the device is opened while the transport is usable and nothing is bound
    have hinit₂ := Acts.initialized (hreuse.trans hclose) hinit
    have hready : s₂.1.connection = .ready := by
      rw [eval_close] at h₂
      injection h₂ with _ h₂
      rw [← h₂]
    exact reach_bind (acts_openDevice id hinit₂ hready) fun _ _ _ => .refl

theorem acts_select (id : ι) (s : Situation W ι κ ρ) : Acts p s (eval (p.select id) s).2 :=
  reach_bind (acts_ensureInit s) fun _ _ h => acts_bindDevice id (initialized_of_ensureInit h)

theorem acts_closeIf (id : ι) (s : Situation W ι κ ρ) : Acts p s (eval (p.closeIf id) s).2 := by
  refine reach_bind .refl fun _ s' h => ?_
  cases h
  split
  · exact reach_bind (acts_close s) fun _ _ _ => .refl
  · exact .refl

end

-- ============================================================ printing

theorem acts_channel (s : Situation W ι κ ρ) : Acts p s (eval p.channel s).2 := by
  obtain ⟨⟨initialized, c⟩, w⟩ := s
  rw [eval_channel]
  cases c with
  | ready => exact .refl
  | connected id record channel => exact .refl
  | awaiting id record request =>
    rcases hpoll : p.backend.poll request w with ⟨⟨state, request'⟩, w₁⟩
    simp only [hpoll]
    cases state with
    | pending => exact .single (.polled hpoll)
    | denied => exact .head (.polled hpoll) (.single .dropped)
    | granted =>
      rcases h : p.backend.connect id w₁ with ⟨outcome, w₂⟩
      simp only [h]
      cases outcome with
      | error e => exact .single (.reopened hpoll h)
      | ok opened =>
        obtain ⟨record', link⟩ := opened
        cases link with
        | channel channel => exact .single (.reopened hpoll h)
        | request request => exact .single (.reopened hpoll h)

/-- The channel that is found is the one that the session then holds. -/
theorem connected_of_channel {s s' : Situation W ι κ ρ} {channel : κ}
    (h : eval p.channel s = (.ok channel, s')) :
    ∃ id record, s'.1.connection = .connected id record channel := by
  rw [eval_channel] at h
  split at h
  · cases h
  · next id record channel' hc =>
    cases h
    exact ⟨id, record, hc⟩
  · split at h
    · cases h
    · cases h
    · split at h
      · cases h
        exact ⟨_, _, rfl⟩
      · cases h
      · cases h

theorem acts_preflight (s : Situation W ι κ ρ) : Acts p s (eval p.preflight s).2 := by
  rw [eval_preflight]
  exact acts_channel s

/-- Preparing a job fetches a picture at most; the session has no part in
it. -/
theorem acts_stream (job : Job) (session : Session ι κ ρ) (w : W) :
    Acts p (session, w) (session, (p.stream job w).2) := by
  cases job with
  | bytes content => exact .refl
  | raw payload => exact .refl
  | markup text trailer => exact .refl
  | qr text size => exact .refl
  | image locator max =>
    rcases h : p.fetch locator w with ⟨outcome, w'⟩
    have hworld : (p.stream (.image locator max) w).2 = w' := by
      show (p.imageStream locator max w).2 = w'
      simp only [imageStream, bind, StateT.bind]
      rw [h]
      cases outcome <;> rfl
    rw [hworld]
    exact .single (.fetched h)

-- ============================================================= writing

/-- A session that holds a channel still holds it while a job is sent. -/
theorem doings_send (job : Stream) {session : Session ι κ ρ} {id : ι} {record : DeviceRecord}
    {channel : κ} (hc : session.connection = .connected id record channel) (w : W) :
    Doings p (session, w) (session, (p.backend.send channel job w).2) := by
  obtain ⟨initialized, c⟩ := session
  cases hc
  -- a chunk that fails is the last one, but it is a transfer, too
  have hchunks : ∀ (chunks : List Bytes) (w : W),
      Doings p (⟨initialized, .connected id record channel⟩, w)
        (⟨initialized, .connected id record channel⟩,
          (writeChunks (p.backend.write channel) chunks w).2) := by
    intro chunks
    induction chunks with
    | nil => intro w; exact .refl
    | cons chunk rest ih =>
      intro w
      rw [writeChunks_cons]
      rcases h : p.backend.write channel chunk w with ⟨result, w'⟩
      cases result with
      | ok _ => exact .head (.inr (.wrote h)) (ih w')
      | error e => exact .single (.inr (.wrote h))
  unfold Backend.send
  rw [writeStream_eq]
  have hwritten := hchunks job.chunks w
  rcases h : writeChunks (p.backend.write channel) job.chunks w with ⟨result, w'⟩
  rw [h] at hwritten
  cases result with
  | ok _ => exact hwritten.tail (.inr (.flushed rfl))
  | error e => exact hwritten

theorem doings_write (job : Stream) (s : Situation W ι κ ρ) :
    Doings p s (eval (p.write job) s).2 := by
  refine reach_bind (Acts.doings (acts_channel s)) fun channel s₁ h => ?_
  obtain ⟨id, record, hc⟩ := connected_of_channel h
  refine reach_bind (doings_send job hc s₁.2) fun result s₂ _ => ?_
  cases result with
  | ok _ => exact .refl
  | error e => exact reach_bind (Acts.doings (acts_close s₂)) fun _ _ _ => .refl

theorem doings_print (job : Job) (s : Situation W ι κ ρ) :
    Doings p s (eval (p.print job) s).2 := by
  have hprepared : ∀ s : Situation W ι κ ρ,
      Doings p s (eval (do p.write (← attempt (p.stream job))) s).2 := fun s =>
    reach_bind (Acts.doings (acts_stream job s.1 s.2)) fun stream s' _ => doings_write stream s'
  unfold print
  split
  · exact reach_bind (Acts.doings (acts_preflight s)) fun _ s' _ => hprepared s'
  · exact hprepared s

-- ========================================================== operations

/-- An operation other than printing writes nothing. -/
theorem acts_perform [DecidableEq ι] {operation : Operation ι}
    (hprint : ∀ job, operation ≠ .print job) (s : Situation W ι κ ρ) :
    Acts p s (eval (p.perform operation) s).2 := by
  cases operation with
  | init => exact reach_bind (acts_init s) fun _ _ _ => .refl
  | list => exact reach_bind (acts_list s) fun _ _ _ => .refl
  | select id => exact reach_bind (acts_select id s) fun _ _ _ => .refl
  | close => exact reach_bind (acts_close s) fun _ _ _ => .refl
  | closeIf id => exact reach_bind (acts_closeIf id s) fun _ _ _ => .refl
  | print job => exact absurd rfl (hprint job)
  | status => exact .refl

/-- Every operation is a row of acts and transfers. -/
theorem doings_perform [DecidableEq ι] (operation : Operation ι) (s : Situation W ι κ ρ) :
    Doings p s (eval (p.perform operation) s).2 := by
  by_cases hprint : ∃ job, operation = .print job
  · obtain ⟨job, rfl⟩ := hprint
    exact reach_bind (doings_print job s) fun _ _ _ => .refl
  · refine Acts.doings (acts_perform (fun job h => hprint ⟨job, h⟩) s)

theorem live_concat [DecidableEq ι] (nature : E → W → W) (s : Situation W ι κ ρ)
    (life : List (Happening ι E)) (happening : Happening ι E) :
    p.live nature s (life ++ [happening]) = p.undergo nature (p.live nature s life) happening := by
  unfold live
  rw [List.foldl_append]
  rfl

/-- What each act, each transfer and each change from outside keeps, a
whole life keeps. -/
theorem live_keep [DecidableEq ι] {P : Situation W ι κ ρ → Prop} {nature : E → W → W}
    (hact : ∀ {s s'}, Act p s s' → P s → P s')
    (htransfer : ∀ {s s'}, Transfer p s s' → P s → P s')
    (houtside : ∀ {session w} change, P (session, w) → P (session, nature change w))
    (life : List (Happening ι E)) {s : Situation W ι κ ρ} (hs : P s) :
    P (p.live nature s life) := by
  induction life generalizing s with
  | nil => exact hs
  | cons happening rest ih =>
    refine ih (s := p.undergo nature s happening) ?_
    cases happening with
    | operation operation => exact Doings.keep hact htransfer (doings_perform operation s) hs
    | outside change => exact houtside change hs

end Printer

end ReceiptPrinter
