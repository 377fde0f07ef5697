/-
Printers that do the same.

A world may hold more than the transport knows of, such as a record of all
that it was asked; and channels may carry marks. One printer imitates
another if each thing that it asks of its transport is answered alike, up
to how its world and its channels look in the other. `Mirrors` is the
simulation, one step at a time; it is closed under sequencing, so each
function of the printer follows from its parts, and a whole life from its
operations.
-/
import ReceiptPrinter.Proofs.Session.Eval
import ReceiptPrinter.Session.Journaled

namespace ReceiptPrinter

open Step

variable {W W' ι κ κ' ρ α β α' β' E : Type}

/-- How a situation looks, by how its world and its channels look. -/
def Situation.seen (world : W' → W) (channel : κ' → κ) (s : Situation W' ι κ' ρ) :
    Situation W ι κ ρ :=
  (s.1.mapChannel channel, world s.2)

/-- An effect in one world is the other effect in the world that is seen;
`f` is how its answer looks. -/
def Shows (world : W' → W) (f : α → β) (x : StateM W' α) (y : StateM W β) : Prop :=
  ∀ w, y (world w) = (f (x w).1, world (x w).2)

/-- Whatever the one printer asks of its world, it is answered as the other
one is. -/
structure Printer.Imitates (world : W' → W) (channel : κ' → κ) (p' : Printer (StateM W') ι κ' ρ)
    (p : Printer (StateM W) ι κ ρ) : Prop where
  settings : p.settings = p'.settings
  prepare : Shows world id p'.backend.prepare p.backend.prepare
  devices : Shows world id p'.backend.devices p.backend.devices
  connect : ∀ id,
    Shows world (Except.map (Prod.map (fun record => record) (Link.mapChannel channel)))
      (p'.backend.connect id) (p.backend.connect id)
  poll : ∀ request, Shows world id (p'.backend.poll request) (p.backend.poll request)
  write : ∀ c chunk, Shows world id (p'.backend.write c chunk) (p.backend.write (channel c) chunk)
  flush : ∀ c, Shows world id (p'.backend.flush c) (p.backend.flush (channel c))
  close : ∀ c, Shows world id (p'.backend.close c) (p.backend.close (channel c))
  fetch : ∀ locator, Shows world id (p'.fetch locator) (p.fetch locator)

/-- A step does what another step does; `f` is how its answer looks. -/
def Mirrors (world : W' → W) (channel : κ' → κ) (f : α → β) (x : Step (StateM W') ι κ' ρ α)
    (y : Step (StateM W) ι κ ρ β) : Prop :=
  ∀ s : Situation W' ι κ' ρ,
    eval y (s.seen world channel) = ((eval x s).1.map f, (eval x s).2.seen world channel)

section

variable {world : W' → W} {channel : κ' → κ}

-- ========================================================== sequencing

theorem mirrors_pure (f : α → β) (a : α) :
    Mirrors (ι := ι) (ρ := ρ) world channel f (pure a) (pure (f a)) :=
  fun _ => rfl

theorem mirrors_throw (f : α → β) (e : PrinterError) :
    Mirrors (ι := ι) (ρ := ρ) world channel f (throw e) (throw e) :=
  fun _ => rfl

/-- The simulation goes through one step after another. -/
theorem mirrors_bind {f : α → β} {g : α' → β'} {x : Step (StateM W') ι κ' ρ α}
    {y : Step (StateM W) ι κ ρ β} {k : α → Step (StateM W') ι κ' ρ α'}
    {l : β → Step (StateM W) ι κ ρ β'} (h : Mirrors world channel f x y)
    (hk : ∀ a, Mirrors world channel g (k a) (l (f a))) :
    Mirrors world channel g (x >>= k) (y >>= l) := by
  intro s
  rw [eval_bind, eval_bind, h s]
  rcases eval x s with ⟨outcome, s'⟩
  cases outcome with
  | ok a => exact hk a s'
  | error e => rfl

theorem mirrors_discard {f : α → β} {x : Step (StateM W') ι κ' ρ α} {y : Step (StateM W) ι κ ρ β}
    (h : Mirrors world channel f x y) : Mirrors world channel id (discard x) (discard y) := by
  intro s
  rw [eval_discard, eval_discard, h s]
  rcases eval x s with ⟨outcome, s'⟩
  cases outcome <;> rfl

-- ======================================================= the primitives

theorem mirrors_connection :
    Mirrors (ι := ι) (ρ := ρ) world channel (Connection.mapChannel channel) Printer.connection
      Printer.connection :=
  fun _ => rfl

theorem mirrors_setConnection (c : Connection ι κ' ρ) :
    Mirrors world channel id (Printer.setConnection c)
      (Printer.setConnection (c.mapChannel channel)) :=
  fun _ => rfl

theorem mirrors_attempt {f : α → β} {x : StateM W' (Outcome α)} {y : StateM W (Outcome β)}
    (h : Shows world (Except.map f) x y) :
    Mirrors (ι := ι) (ρ := ρ) world channel f (Printer.attempt x) (Printer.attempt y) := by
  intro s
  simp only [eval_attempt, Situation.seen, h s.2]

theorem mirrors_effect {f : α → β} {x : StateM W' α} {y : StateM W β} (h : Shows world f x y) :
    Mirrors (ι := ι) (ρ := ρ) world channel f (Printer.effect x) (Printer.effect y) := by
  intro s
  simp only [eval_effect, Situation.seen, h s.2]
  rfl

/-- An attempt whose answer looks the same in both worlds. -/
theorem Shows.mapped {x : StateM W' (Outcome α)} {y : StateM W (Outcome α)}
    (h : Shows world id x y) : Shows world (Except.map id) x y := by
  intro w
  rw [Except.map_id]
  exact h w

end

namespace Printer

variable {world : W' → W} {channel : κ' → κ} {p' : Printer (StateM W') ι κ' ρ}
  {p : Printer (StateM W) ι κ ρ}

-- ================================================= opening and closing

theorem mirrors_init (h : p'.Imitates world channel p) : Mirrors world channel id p'.init p.init :=
  mirrors_bind (mirrors_attempt h.prepare.mapped) fun _ _ => rfl

theorem mirrors_ensureInit (h : p'.Imitates world channel p) :
    Mirrors world channel id p'.ensureInit p.ensureInit := by
  intro s
  rw [eval_ensureInit, eval_ensureInit]
  show (if s.1.initialized = true then _ else _) = _
  split
  · rfl
  · exact mirrors_init h s

theorem mirrors_close (h : p'.Imitates world channel p) :
    Mirrors world channel id p'.close p.close := by
  refine mirrors_bind mirrors_connection fun c => ?_
  cases c with
  | ready => exact mirrors_pure id ()
  | awaiting id record request => exact mirrors_setConnection .ready
  | connected id record c =>
    exact mirrors_bind (mirrors_setConnection .ready) fun _ => mirrors_effect (h.close c)

theorem mirrors_openDevice (h : p'.Imitates world channel p) (id : ι) :
    Mirrors world channel (Prod.map (fun record => record) (Link.mapChannel channel))
      (p'.openDevice id) (p.openDevice id) := by
  refine mirrors_bind (mirrors_attempt (h.connect id)) fun opened => ?_
  obtain ⟨record, link⟩ := opened
  cases link with
  | channel c => exact mirrors_bind (mirrors_setConnection _) fun _ => mirrors_pure _ _
  | request r => exact mirrors_bind (mirrors_setConnection _) fun _ => mirrors_pure _ _

theorem mirrors_pollRequest (h : p'.Imitates world channel p) (id : ι) (record : DeviceRecord)
    (request : ρ) :
    Mirrors world channel (fun state => state) (p'.pollRequest id record request)
      (p.pollRequest id record request) := by
  intro s
  rw [eval_pollRequest, eval_pollRequest, show (s.seen world channel).2 = world s.2 from rfl,
    h.poll request s.2]
  rfl

-- ============================================================= devices

theorem mirrors_list (h : p'.Imitates world channel p) :
    Mirrors world channel id p'.list p.list :=
  mirrors_bind (mirrors_ensureInit h) fun _ => mirrors_attempt h.devices.mapped

section

variable [DecidableEq ι]

theorem mirrors_reusable? (h : p'.Imitates world channel p) (id : ι) :
    Mirrors world channel (fun record => record) (p'.reusable? id) (p.reusable? id) := by
  refine mirrors_bind mirrors_connection fun c => ?_
  cases c with
  | ready => exact mirrors_pure _ none
  | connected current record c =>
    exact mirrors_pure _ (if current = id then some record else none)
  | awaiting current record request =>
    dsimp only [Connection.mapChannel]
    split
    · refine mirrors_bind (mirrors_pollRequest h current record request) fun state => ?_
      cases state <;> exact mirrors_pure _ _
    · exact mirrors_pure _ none

theorem mirrors_bindDevice (h : p'.Imitates world channel p) (id : ι) :
    Mirrors world channel (fun record => record) (p'.bindDevice id) (p.bindDevice id) := by
  refine mirrors_bind (mirrors_reusable? h id) fun reusable => ?_
  cases reusable with
  | some record => exact mirrors_pure _ record
  | none =>
    refine mirrors_bind (mirrors_close h) fun _ => ?_
    exact mirrors_bind (mirrors_openDevice h id) fun opened => mirrors_pure _ opened.1

theorem mirrors_select (h : p'.Imitates world channel p) (id : ι) :
    Mirrors world channel (fun record => record) (p'.select id) (p.select id) :=
  mirrors_bind (mirrors_ensureInit h) fun _ => mirrors_bindDevice h id

theorem mirrors_closeIf (h : p'.Imitates world channel p) (id : ι) :
    Mirrors world channel (fun wasBound => wasBound) (p'.closeIf id) (p.closeIf id) := by
  refine mirrors_bind mirrors_connection fun c => ?_
  have hbound : (c.mapChannel channel).bound? = c.bound? := by cases c <;> rfl
  rw [hbound]
  split
  · exact mirrors_bind (mirrors_close h) fun _ => mirrors_pure _ true
  · exact mirrors_pure _ false

end

-- ============================================================ printing

theorem mirrors_channel (h : p'.Imitates world channel p) :
    Mirrors world channel channel p'.channel p.channel := by
  refine mirrors_bind mirrors_connection fun c => ?_
  cases c with
  | ready => exact mirrors_throw _ _
  | connected id record c => exact mirrors_pure _ c
  | awaiting id record request =>
    refine mirrors_bind (mirrors_pollRequest h id record request) fun state => ?_
    cases state with
    | pending => exact mirrors_throw _ _
    | denied => exact mirrors_bind (mirrors_setConnection _) fun _ => mirrors_throw _ _
    | granted =>
      refine mirrors_bind (mirrors_setConnection _) fun _ => ?_
      refine mirrors_bind (mirrors_openDevice h id) fun opened => ?_
      obtain ⟨record, link⟩ := opened
      cases link with
      | channel c => exact mirrors_pure _ c
      | request r => exact mirrors_throw _ _

theorem mirrors_preflight (h : p'.Imitates world channel p) :
    Mirrors world channel id p'.preflight p.preflight :=
  mirrors_discard (mirrors_channel h)

theorem shows_writeChunks (h : p'.Imitates world channel p) (c : κ') (chunks : List Bytes) :
    Shows world id (writeChunks (p'.backend.write c) chunks)
      (writeChunks (p.backend.write (channel c)) chunks) := by
  induction chunks with
  | nil => exact fun _ => rfl
  | cons chunk rest ih =>
    intro w
    rw [writeChunks_cons, writeChunks_cons, h.write c chunk w]
    rcases p'.backend.write c chunk w with ⟨result, w'⟩
    cases result with
    | ok _ => exact ih w'
    | error e => rfl

theorem shows_send (h : p'.Imitates world channel p) (c : κ') (job : Stream) :
    Shows world id (p'.backend.send c job) (p.backend.send (channel c) job) := by
  intro w
  unfold Backend.send
  rw [writeStream_eq, writeStream_eq, shows_writeChunks h c job.chunks w]
  rcases writeChunks (p'.backend.write c) job.chunks w with ⟨result, w'⟩
  cases result with
  | ok _ => exact h.flush c w'
  | error e => rfl

theorem mirrors_write (h : p'.Imitates world channel p) (job : Stream) :
    Mirrors world channel id (p'.write job) (p.write job) := by
  refine mirrors_bind (mirrors_channel h) fun c => ?_
  refine mirrors_bind (mirrors_effect (shows_send h c job)) fun result => ?_
  cases result with
  | ok _ => exact mirrors_pure _ ()
  | error e => exact mirrors_bind (mirrors_close h) fun _ => mirrors_throw _ _

/-- What a job writes is the same in both worlds. -/
theorem shows_stream (h : p'.Imitates world channel p) (job : Job) :
    Shows world id (p'.stream job) (p.stream job) := by
  intro w
  cases job with
  | bytes content => rfl
  | raw payload => rfl
  | markup text trailer => rfl
  | qr text size =>
    show (qrStream text (p.settings.qrSide size), _) = _
    rw [h.settings]
    rfl
  | image locator max =>
    show p.imageStream locator max (world w) = _
    show _ = (id (p'.imageStream locator max w).1, world (p'.imageStream locator max w).2)
    simp only [imageStream, bind, StateT.bind]
    rw [h.fetch locator w, h.settings]
    rcases p'.fetch locator w with ⟨outcome, w'⟩
    cases outcome <;> rfl

theorem mirrors_print (h : p'.Imitates world channel p) (job : Job) :
    Mirrors world channel id (p'.print job) (p.print job) := by
  have hprepared : Mirrors world channel id (do p'.write (← attempt (p'.stream job)))
      (do p.write (← attempt (p.stream job))) :=
    mirrors_bind (mirrors_attempt (shows_stream h job).mapped) fun stream => mirrors_write h stream
  unfold print
  split
  · exact mirrors_bind (mirrors_preflight h) fun _ => hprepared
  · exact hprepared

-- ========================================================== operations

theorem mirrors_status :
    Mirrors world channel id (status : Step (StateM W') ι κ' ρ SessionStatus) status := by
  refine mirrors_bind mirrors_connection fun c => ?_
  cases c <;> exact mirrors_pure _ _

variable [DecidableEq ι]

theorem mirrors_perform (h : p'.Imitates world channel p) (operation : Operation ι) :
    Mirrors world channel id (p'.perform operation) (p.perform operation) := by
  cases operation with
  | init => exact mirrors_bind (mirrors_init h) fun _ => mirrors_pure _ _
  | list => exact mirrors_bind (mirrors_list h) fun _ => mirrors_pure _ _
  | select id => exact mirrors_bind (mirrors_select h id) fun _ => mirrors_pure _ _
  | close => exact mirrors_bind (mirrors_close h) fun _ => mirrors_pure _ _
  | closeIf id => exact mirrors_bind (mirrors_closeIf h id) fun _ => mirrors_pure _ _
  | print job => exact mirrors_bind (mirrors_print h job) fun _ => mirrors_pure _ _
  | status => exact mirrors_bind mirrors_status fun _ => mirrors_pure _ _

/-- Operations are answered by both printers alike. -/
theorem respond_seen (h : p'.Imitates world channel p) (operation : Operation ι)
    (s : Situation W' ι κ' ρ) :
    p.respond operation (s.seen world channel)
      = ((p'.respond operation s).1, (p'.respond operation s).2.seen world channel) := by
  rw [respond_eq_eval, respond_eq_eval, mirrors_perform h operation s, Except.map_id]
  rfl

/-- A life is the same for both printers, provided that what happens from
outside looks the same. -/
theorem live_seen (h : p'.Imitates world channel p) {nature : E → W → W} {nature' : E → W' → W'}
    (hnature : ∀ change w, nature change (world w) = world (nature' change w))
    (life : List (Happening ι E)) (s : Situation W' ι κ' ρ) :
    p.live nature (s.seen world channel) life = (p'.live nature' s life).seen world channel := by
  induction life generalizing s with
  | nil => rfl
  | cons happening rest ih =>
    have hstep : p.undergo nature (s.seen world channel) happening
        = (p'.undergo nature' s happening).seen world channel := by
      cases happening with
      | operation operation => exact congrArg Prod.snd (respond_seen h operation s)
      | outside change => exact Prod.ext rfl (hnature change s.2)
    simp only [live, List.foldl_cons] at ih ⊢
    rw [hstep]
    exact ih _

end Printer

end ReceiptPrinter
