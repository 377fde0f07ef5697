/-
The gate of the transport in memory.

The user's last answer holds until there is another one: nothing that a
printer does touches it, and without a grant nothing is opened. A prompt
that waits for an answer was shown for a session that was bound to nothing,
so either the session still waits for this very prompt, or it has given up
and is ready. And a session that waits, waits for the latest prompt or for
one whose answer is there (`Asked`).
-/
import ReceiptPrinter.Proofs.Transport.Memory

namespace ReceiptPrinter.Memory

variable {F : Type} {w w' : World} {c c' : Connection DeviceIdentity Nat Request}

-- ============================================================== prompts

namespace World

/-- Whether access is granted; nothing where no permission is needed. -/
def granted? (w : World) : Option Bool := w.gate.map Gate.granted

/-- A request has no answer: it remembers none, and none is there for it. -/
def Unanswered (w : World) (request : Request) : Prop :=
  request.settled = none ∧ ∀ granted, w.slot request.prompt ≠ .answered granted

@[simp] theorem slot_setSlot_ne {prompt other : Nat} (h : other ≠ prompt) (slot : Permission.Slot) :
    (w.setSlot prompt slot).slot other = w.slot other := by
  unfold setSlot World.slot
  rw [List.getD_eq_getElem?_getD, List.getD_eq_getElem?_getD, List.getElem?_set_ne h.symm]

/-- The prompts shown so far have slots, and no others have. -/
theorem slot_setSlot {prompt : Nat} (h : w.slot prompt ≠ .closed) (slot : Permission.Slot) :
    (w.setSlot prompt slot).slot prompt = slot := by
  have hlt : prompt < w.slots.length := by
    by_contra hge
    refine h ?_
    unfold World.slot
    rw [List.getD_eq_getElem?_getD, List.getElem?_eq_none (Nat.le_of_not_lt hge)]
    rfl
  unfold setSlot World.slot
  rw [List.getD_eq_getElem?_getD, List.getElem?_set_self hlt]
  rfl

theorem length_abandon (w : World) (pending : Option Nat) :
    (w.abandon pending).slots.length = w.slots.length := by
  cases pending with
  | none => rfl
  | some prompt => exact List.length_set

theorem gate_showPrompt (w : World) (gate : Gate) :
    (w.showPrompt gate).2.gate = some ⟨gate.granted, some w.prompts⟩ := by
  show some (⟨gate.granted, some (w.abandon gate.pending).slots.length⟩ : Gate) = _
  rw [length_abandon]
  rfl

theorem slot_showPrompt (w : World) (gate : Gate) :
    (w.showPrompt gate).2.slot w.prompts = .waiting := by
  show ((w.abandon gate.pending).slots ++ [Permission.Slot.waiting]).getD w.slots.length .closed = _
  rw [List.getD_eq_getElem?_getD, ← length_abandon w gate.pending, List.getElem?_concat_length]
  rfl

theorem prompts_showPrompt (w : World) (gate : Gate) :
    (w.showPrompt gate).2.prompts = w.prompts + 1 := by
  show ((w.abandon gate.pending).slots ++ [Permission.Slot.waiting]).length = _
  rw [List.length_append, length_abandon]
  rfl

/-- Showing a prompt does nothing but that. -/
theorem frame_showPrompt (w : World) (gate : Gate) :
    (w.showPrompt gate).2.devices = w.devices ∧ (w.showPrompt gate).2.chunks = w.chunks
      ∧ (w.showPrompt gate).2.opens = w.opens ∧ (w.showPrompt gate).2.closed = w.closed := by
  unfold showPrompt abandon
  cases gate.pending <;> exact ⟨rfl, rfl, rfl, rfl⟩

theorem chunks_answer (w : World) (granted : Bool) : (w.answer granted).chunks = w.chunks := by
  unfold answer
  split
  · rfl
  · dsimp only
    split <;> rfl

theorem write_frame (w : World) (channel : Nat) (chunk : Bytes) :
    (w.write channel chunk).2.devices = w.devices ∧ (w.write channel chunk).2.gate = w.gate
      ∧ (w.write channel chunk).2.slots = w.slots := by
  unfold write
  split
  · exact ⟨rfl, rfl, rfl⟩
  · split <;> exact ⟨rfl, rfl, rfl⟩

theorem close_frame (w : World) (channel : Nat) :
    (w.close channel).devices = w.devices ∧ (w.close channel).gate = w.gate
      ∧ (w.close channel).slots = w.slots ∧ (w.close channel).opens = w.opens := by
  unfold close
  split <;> exact ⟨rfl, rfl, rfl, rfl⟩

end World

-- ============================================================ the answers

/-- Nothing that a printer does is an answer of the user, and it opens a
device only if access is granted or needs no permission. -/
theorem Deal.granted (h : Deal w c w' c') :
    w'.granted? = w.granted? ∧ (w'.opens = w.opens ∨ w.granted? ≠ some false) := by
  unfold World.granted?
  cases h with
  | aside => exact ⟨rfl, .inl rfl⟩
  | polled => exact ⟨rfl, .inl rfl⟩
  | dropped => exact ⟨rfl, .inl rfl⟩
  | @closed _ _ channel =>
    obtain ⟨-, hgate, -, hopens⟩ := w.close_frame channel
    exact ⟨by rw [hgate], .inl hopens⟩
  | @wrote _ _ channel chunk =>
    obtain ⟨-, hgate, -⟩ := w.write_frame channel chunk
    exact ⟨by rw [hgate], .inl (w.sameChannels_write channel chunk).1⟩
  | attempted hattempt =>
    cases hattempt with
    | failed harmed => exact ⟨rfl, .inl rfl⟩
    | unknown harmed hfind => exact ⟨rfl, .inl rfl⟩
    | opened harmed hfind hgate =>
      refine ⟨rfl, .inr fun h => ?_⟩
      obtain ⟨gate, hsome, hgranted⟩ := Option.map_eq_some_iff.mp h
      rw [hgate gate hsome] at hgranted
      cases hgranted
    | @prompted record gate harmed hfind hgate hgranted =>
      rw [World.gate_showPrompt, hgate]
      exact ⟨rfl, .inl (w.frame_showPrompt gate).2.2.1⟩

variable {ι : Type}

/-- The answer of the user that a happening is, if it is one. -/
def answer? : Happening ι Provocation → Option Bool
  | .outside (.answer granted) => some granted
  | _ => none

/-- The last answer that the user has given. -/
def lastAnswer? (life : List (Happening ι Provocation)) : Option Bool :=
  (life.filterMap answer?).getLast?

theorem lastAnswer?_concat (life : List (Happening ι Provocation))
    (happening : Happening ι Provocation) :
    lastAnswer? (life ++ [happening]) = (answer? happening).or (lastAnswer? life) := by
  unfold lastAnswer?
  rw [List.filterMap_append, List.getLast?_append]
  cases h : answer? happening with
  | none => rw [List.filterMap_cons_none h]; rfl
  | some granted => rw [List.filterMap_cons_some h]; rfl

/-- A last answer is one of the answers given. -/
theorem mem_of_lastAnswer? {life : List (Happening ι Provocation)} {granted : Bool}
    (h : lastAnswer? life = some granted) : .outside (.answer granted) ∈ life := by
  obtain ⟨happening, hmem, hanswer⟩ := List.mem_filterMap.mp (List.mem_of_getLast? h)
  unfold answer? at hanswer
  split at hanswer
  · cases hanswer
    exact hmem
  · cases hanswer

theorem granted?_answer (h : w.granted? ≠ none) (granted : Bool) :
    (w.answer granted).granted? = some granted := by
  unfold World.answer
  cases hgate : w.gate with
  | none =>
    unfold World.granted? at h
    rw [hgate] at h
    exact absurd rfl h
  | some gate =>
    dsimp only
    cases gate.pending <;> rfl

/-- Nothing is written before the first channel is opened. -/
def Untouched (w : World) (c : Connection DeviceIdentity Nat Request) : Prop :=
  w.opens = 0 → w.chunks = [] ∧ c.channel? = none

theorem Untouched.deal (h : Untouched w c) (hdeal : Deal w c w' c') : Untouched w' c' := by
  intro hopens
  cases hdeal with
  | aside => exact h hopens
  | polled => exact ⟨(h hopens).1, rfl⟩
  | dropped => exact ⟨(h hopens).1, rfl⟩
  | @closed _ _ channel =>
    -- a channel that is open was opened
    rw [(w.close_frame channel).2.2.2] at hopens
    cases (h hopens).2
  | @wrote _ _ channel chunk =>
    rw [(w.sameChannels_write channel chunk).1] at hopens
    cases (h hopens).2
  | attempted hattempt =>
    cases hattempt with
    | failed harmed => exact ⟨(h hopens).1, rfl⟩
    | unknown harmed hfind => exact ⟨(h hopens).1, rfl⟩
    | opened harmed hfind hgate => cases hopens
    | @prompted record gate harmed hfind hgate hgranted =>
      obtain ⟨-, hchunks, hshown, -⟩ := w.frame_showPrompt gate
      rw [hshown] at hopens
      exact ⟨hchunks.trans (h hopens).1, rfl⟩

theorem Untouched.provocation (h : Untouched w c) (provocation : Provocation) :
    Untouched (provocation.apply w) c := by
  cases provocation with
  | answer granted =>
    intro hopens
    rw [Provocation.apply, (w.sameChannels_answer granted).1] at hopens
    exact ⟨(w.chunks_answer granted).trans (h hopens).1, (h hopens).2⟩
  | power on => exact h
  | failNextOpen reason => exact h
  | failWrites fail => exact h
  | clear => exact fun hopens => ⟨rfl, (h hopens).2⟩

-- ========================================================== the invariant

/-- How the prompts fit the connection. -/
structure Asked (devices : List DeviceRecord) (w : World)
    (c : Connection DeviceIdentity Nat Request) : Prop where
  listed : w.devices = devices
  gated : w.granted? ≠ none
  /-- A prompt can be answered only while access is not granted. Nothing but
  the session can wait for it. -/
  pending : ∀ granted prompt, w.gate = some ⟨granted, some prompt⟩ →
    granted = false ∧ w.slot prompt = .waiting
      ∧ (c = .ready ∨ ∃ id record, c = .awaiting id record ⟨prompt, none⟩)
  /-- What the session waits for can be answered, or the answer is there. -/
  awaited : ∀ id record prompt, c = .awaiting id record ⟨prompt, none⟩ →
    (∃ granted, w.gate = some ⟨granted, some prompt⟩) ∨ ∃ granted, w.slot prompt = .answered granted
  record : ∀ id record request, c = .awaiting id record request →
    devices.find? (·.identity == id) = some record

namespace Asked

variable {devices : List DeviceRecord}

theorem fresh (kind : TransportKind) (devices : List DeviceRecord) :
    Asked devices (.fresh kind devices true) .ready where
  listed := rfl
  gated := nofun
  pending := nofun
  awaited := nofun
  record := nofun

/-- What concerns neither gate nor prompts nor devices. -/
theorem same (h : Asked devices w c) (hdevices : w'.devices = w.devices)
    (hgate : w'.gate = w.gate) (hslots : w'.slots = w.slots) : Asked devices w' c where
  listed := hdevices.trans h.listed
  gated := by
    unfold World.granted?
    rw [hgate]
    exact h.gated
  pending := by
    unfold World.slot
    rw [hgate, hslots]
    exact h.pending
  awaited := by
    unfold World.slot
    rw [hgate, hslots]
    exact h.awaited
  record := h.record

/-- A session may always give up. -/
theorem ready (h : Asked devices w c) : Asked devices w .ready where
  listed := h.listed
  gated := h.gated
  pending granted prompt hgate := ⟨(h.pending granted prompt hgate).1,
    (h.pending granted prompt hgate).2.1, .inl rfl⟩
  awaited := nofun
  record := nofun

/-- Looking at the request that the session waits for. -/
theorem polled {id : DeviceIdentity} {record : DeviceRecord} {request : Request}
    (h : Asked devices w (.awaiting id record request)) :
    Asked devices (w.poll request).2 (.awaiting id record (w.poll request).1.2) := by
  obtain ⟨prompt, settled⟩ := request
  obtain ⟨state, settled', w', hlook⟩ := w.exists_look prompt settled
  rw [hlook.poll_eq]
  cases hlook with
  | known => exact h
  | waiting hslot => exact h
  | answered hslot =>
    refine ⟨h.listed, h.gated, fun granted latest hgate => ?_, nofun, ?_⟩
    · -- the session waited for the latest prompt, but that has no answer yet
      obtain ⟨-, hwaiting, hc | ⟨id, record, hc⟩⟩ := h.pending granted latest hgate
      · cases hc
      · cases hc
        rw [hslot] at hwaiting
        cases hwaiting
    · rintro id record request hc
      cases hc
      exact h.record _ _ _ rfl
  | closed hslot =>
    -- a slot that the session waits for is not closed
    rcases h.awaited _ _ _ rfl with ⟨granted, hgate⟩ | ⟨granted, hanswered⟩
    · obtain ⟨-, hwaiting, -⟩ := h.pending granted prompt hgate
      rw [hslot] at hwaiting
      cases hwaiting
    · rw [hslot] at hanswered
      cases hanswered

/-- An attempt to open a device for a session that is bound to nothing. -/
theorem attempted (h : Asked devices w .ready) {id : DeviceIdentity}
    {outcome : Outcome (DeviceRecord × Link Nat Request)} (hattempt : w.Attempt id outcome w') :
    Asked devices w' (.ofAttempt id outcome) := by
  cases hattempt with
  | failed harmed => exact h.same rfl rfl rfl
  | unknown harmed hfind => exact h
  | opened harmed hfind hgate =>
    refine ⟨h.listed, h.gated, fun granted prompt hpending => ?_, nofun, nofun⟩
    have hgranted := hgate _ hpending
    rw [(h.pending granted prompt hpending).1] at hgranted
    cases hgranted
  | @prompted record gate harmed hfind hgate hgranted =>
    have hshown := w.gate_showPrompt gate
    refine ⟨(w.frame_showPrompt gate).1.trans h.listed, ?_, ?_, ?_, ?_⟩
    · unfold World.granted?
      rw [hshown]
      nofun
    · intro granted prompt hpending
      rw [hshown] at hpending
      cases hpending
      exact ⟨hgranted, w.slot_showPrompt gate, .inr ⟨id, record, rfl⟩⟩
    · intro id record prompt hc
      cases hc
      exact .inl ⟨gate.granted, hshown⟩
    · intro id record request hc
      cases hc
      rw [← h.listed]
      exact hfind

/-- Whatever the session does with the transport. -/
theorem deal (h : Asked devices w c) (hdeal : Deal w c w' c') : Asked devices w' c' := by
  cases hdeal with
  | aside => exact h
  | polled => exact h.polled
  | dropped => exact h.ready
  | attempted hattempt => exact h.attempted hattempt
  | @closed _ _ channel =>
    obtain ⟨hdevices, hgate, hslots, -⟩ := w.close_frame channel
    exact h.ready.same hdevices hgate hslots
  | @wrote _ _ channel chunk =>
    obtain ⟨hdevices, hgate, hslots⟩ := w.write_frame channel chunk
    exact h.same hdevices hgate hslots

/-- An answer goes to the prompt that the session waits for, if it waits for
one that has no answer yet. -/
theorem answer (h : Asked devices w c) (granted : Bool) : Asked devices (w.answer granted) c := by
  have hstill := granted?_answer h.gated granted
  unfold World.answer at hstill ⊢
  cases hgate : w.gate with
  | none =>
    rw [hgate] at hstill
    exact h
  | some gate =>
    obtain ⟨before, latest⟩ := gate
    cases latest with
    | none =>
      -- nobody is asked, so the session has its answer already
      refine ⟨h.listed, nofun, nofun, fun id record prompt hc => ?_, h.record⟩
      rcases h.awaited id record prompt hc with ⟨granted, hpending⟩ | hanswered
      · rw [hgate] at hpending
        cases hpending
      · exact .inr hanswered
    | some latest =>
      obtain ⟨-, hwaiting, -⟩ := h.pending before latest hgate
      refine ⟨h.listed, nofun, nofun, fun id record prompt hc => .inr ?_, h.record⟩
      by_cases hprompt : prompt = latest
      · subst hprompt
        refine ⟨granted, World.slot_setSlot (w := { w with gate := some ⟨granted, none⟩ }) ?_ _⟩
        show w.slot prompt ≠ .closed
        rw [hwaiting]
        nofun
      · rcases h.awaited id record prompt hc with ⟨granted', hpending⟩ | ⟨granted', hanswered⟩
        · rw [hgate] at hpending
          cases hpending
          exact absurd rfl hprompt
        · refine ⟨granted', ?_⟩
          rw [← hanswered]
          exact World.slot_setSlot_ne (w := { w with gate := some ⟨granted, none⟩ }) hprompt _

theorem provocation (h : Asked devices w c) (provocation : Provocation) :
    Asked devices (provocation.apply w) c := by
  cases provocation with
  | answer granted => exact h.answer granted
  | power on => exact h.same rfl rfl rfl
  | failNextOpen reason => exact h.same rfl rfl rfl
  | failWrites fail => exact h.same rfl rfl rfl
  | clear => exact h.same rfl rfl rfl

end Asked

-- ======================================================= in all situations

section

variable {kind : TransportKind} {settings : Settings}
  {fetch : String → StateM F (Outcome PixelMatrix)} {devices : List DeviceRecord} {f : F}

/-- Wherever a printer can come to, the prompts fit its connection. -/
theorem asked_reaches {s : Situation (World × F) DeviceIdentity Nat Request}
    (h : (printer kind settings fetch).Reaches provoke (.fresh kind devices true, f) s) :
    Asked devices s.2.1 s.1.connection :=
  Deal.keep_reaches h Asked.deal (fun change hs => hs.provocation change) (.fresh kind devices)

/-- No operation is an answer of the user, and what an operation opens it
opens with access granted. -/
theorem granted?_respond (operation : Operation DeviceIdentity)
    (s : Situation (World × F) DeviceIdentity Nat Request) :
    let s' := ((printer kind settings fetch).respond operation s).2
    s'.2.1.granted? = s.2.1.granted?
      ∧ (s'.2.1.opens = s.2.1.opens ∨ s.2.1.granted? ≠ some false) := by
  have hdeal : ∀ {w c w' c'},
      (w.granted? = s.2.1.granted? ∧ (w.opens = s.2.1.opens ∨ s.2.1.granted? ≠ some false)) →
      Deal w c w' c' →
      w'.granted? = s.2.1.granted? ∧ (w'.opens = s.2.1.opens ∨ s.2.1.granted? ≠ some false) := by
    rintro w c w' c' ⟨hgranted, hopens⟩ h
    obtain ⟨hgranted', hopens'⟩ := h.granted
    refine ⟨hgranted'.trans hgranted, ?_⟩
    rw [hgranted] at hopens'
    rcases hopens' with hopens' | hopens'
    · rw [hopens']
      exact hopens
    · exact .inr hopens'
  exact Doings.keep
    (P := fun s' : Situation (World × F) DeviceIdentity Nat Request =>
      s'.2.1.granted? = s.2.1.granted? ∧ (s'.2.1.opens = s.2.1.opens ∨ s.2.1.granted? ≠ some false))
    (Deal.keep_act hdeal) (Deal.keep_transfer hdeal) (Printer.doings_perform operation s)
    ⟨rfl, .inl rfl⟩

/-- Access is granted exactly if the user's last answer says so. -/
theorem granted?_live (life : List (Happening DeviceIdentity Provocation)) :
    ((printer kind settings fetch).live provoke
        (.fresh (.fresh kind devices true, f)) life).2.1.granted?
      = some ((lastAnswer? life).getD false) := by
  induction life using List.reverseRecOn with
  | nil => rfl
  | append_singleton life happening ih =>
    rw [Printer.live_concat, lastAnswer?_concat]
    cases happening with
    | operation operation => exact (granted?_respond operation _).1.trans ih
    | outside change =>
      cases change with
      | answer granted =>
        refine granted?_answer ?_ granted
        rw [ih]
        nofun
      | power on => exact ih
      | failNextOpen reason => exact ih
      | failWrites fail => exact ih
      | clear => exact ih

variable (kind settings fetch devices f) in
/-- What a happening opens, it opens with the user's last answer being yes. -/
theorem opens_undergo (life : List (Happening DeviceIdentity Provocation))
    (happening : Happening DeviceIdentity Provocation) :
    let s := (printer kind settings fetch).live provoke (.fresh (.fresh kind devices true, f)) life
    ((printer kind settings fetch).undergo provoke s happening).2.1.opens ≠ s.2.1.opens →
      lastAnswer? life = some true := by
  intro s hopens
  cases happening with
  | outside change => exact absurd (World.sameChannels_provocation s.2.1 change).1 hopens
  | operation operation =>
    rcases (granted?_respond operation s).2 with hsame | hgranted
    · exact absurd hsame hopens
    · have hanswer : s.2.1.granted? = some ((lastAnswer? life).getD false) := granted?_live life
      rw [hanswer] at hgranted
      cases h : lastAnswer? life with
      | none =>
        rw [h] at hgranted
        exact absurd rfl hgranted
      | some granted =>
        rw [h] at hgranted
        cases granted with
        | true => rfl
        | false => exact absurd rfl hgranted

/-- Before the user has granted access nothing is opened and nothing is
written. -/
theorem untouched_live {life : List (Happening DeviceIdentity Provocation)}
    (hnever : .outside (.answer true) ∉ life) :
    let s := (printer kind settings fetch).live provoke (.fresh (.fresh kind devices true, f)) life
    s.2.1.opens = 0 ∧ s.2.1.chunks = [] := by
  intro s
  have hopens : s.2.1.opens = 0 := by
    induction life using List.reverseRecOn with
    | nil => rfl
    | append_singleton life happening ih =>
      have hbefore : .outside (.answer true) ∉ life := fun hmem =>
        hnever (List.mem_append_left _ hmem)
      refine Eq.trans ?_ (ih hbefore)
      by_contra hopens
      refine hbefore (mem_of_lastAnswer?
        (opens_undergo kind settings fetch devices f life happening ?_))
      rw [← Printer.live_concat]
      exact hopens
  have huntouched : Untouched s.2.1 s.1.connection :=
    Deal.keep_reaches (.inl ⟨life, rfl⟩) Untouched.deal
      (fun change hs => hs.provocation change) fun _ => ⟨rfl, rfl⟩
  exact ⟨hopens, (huntouched hopens).1⟩

end

-- ============================================================= one device

/-- A printer in memory that has no pictures to fetch. -/
def plain : Printer (StateM (World × Unit)) DeviceIdentity Nat Request :=
  printer .usb .default fun locator f => (.error (.invalidArgument locator), f)

/-- The only device. -/
def till : DeviceRecord := ⟨"till", .usb ⟨1, 2⟩⟩

/-- A transport on which access to it must be asked for. -/
def gated : World × Unit := (.fresh .usb [till] true, ())

/-- A transport on which it need not. -/
def free : World × Unit := (.fresh .usb [till] false, ())

end ReceiptPrinter.Memory
