/-
The transport in memory.

It describes the device that is asked for, and it lets a request alone until
there is an answer. `Attempt` and `Look` say all that can come of opening a
device and of looking at a request, and `Deal` all that an act or a transfer
of a printer comes to; what each of these dealings and each provocation
keeps, holds wherever a printer in memory can come to (`Deal.keep_reaches`).

Channels are numbered as they are opened, and every closed one is noted
once. So the number of channels opened so far exceeds the number of those
closed by one while the session is connected, and else by nothing
(`Tallied`).
-/
import ReceiptPrinter.Proofs.Session.Reach
import ReceiptPrinter.Session.Memory

namespace ReceiptPrinter.Memory

variable {F : Type}

-- ==================================================== what moves the count

namespace World

/-- Nothing was opened or closed between two worlds. -/
def SameChannels (w w' : World) : Prop := w'.opens = w.opens ∧ w'.closed = w.closed

theorem sameChannels_answer (w : World) (granted : Bool) : w.SameChannels (w.answer granted) := by
  unfold answer
  split
  · exact ⟨rfl, rfl⟩
  · dsimp only
    split <;> exact ⟨rfl, rfl⟩

theorem sameChannels_provocation (w : World) (provocation : Provocation) :
    w.SameChannels (provocation.apply w) := by
  cases provocation with
  | answer granted => exact sameChannels_answer w granted
  | power on => exact ⟨rfl, rfl⟩
  | failNextOpen reason => exact ⟨rfl, rfl⟩
  | failWrites fail => exact ⟨rfl, rfl⟩
  | clear => exact ⟨rfl, rfl⟩

theorem sameChannels_poll (w : World) (r : Request) : w.SameChannels (w.poll r).2 := ⟨rfl, rfl⟩

theorem sameChannels_write (w : World) (channel : Nat) (chunk : Bytes) :
    w.SameChannels (w.write channel chunk).2 := by
  unfold write
  split
  · exact ⟨rfl, rfl⟩
  · split <;> exact ⟨rfl, rfl⟩

theorem close_of_notMem {w : World} {channel : Nat} (h : channel ∉ w.closed) :
    w.close channel = { w with closed := w.closed ++ [channel] } := by
  unfold close
  rw [if_neg]
  simpa using h

theorem sameChannels_showPrompt (w : World) (gate : Gate) :
    w.SameChannels (w.showPrompt gate).2 := by
  unfold showPrompt abandon
  cases gate.pending <;> exact ⟨rfl, rfl⟩

/-- All that can come of an attempt to open a device. -/
inductive Attempt (w : World) (id : DeviceIdentity) :
    Outcome (DeviceRecord × Link Nat Request) → World → Prop where
  /-- The next open was made to fail. -/
  | failed {e : PrinterError} (harmed : w.armed = some e) :
    Attempt w id (.error e) { w with armed := none }
  | unknown (harmed : w.armed = none) (hfind : w.devices.find? (·.identity == id) = none) :
    Attempt w id (.error (.deviceNotFound id.text)) w
  | opened {record : DeviceRecord} (harmed : w.armed = none)
    (hfind : w.devices.find? (·.identity == id) = some record)
    (hgate : ∀ gate, w.gate = some gate → gate.granted = true) :
    Attempt w id (.ok (record, .channel w.opens)) { w with opens := w.opens + 1 }
  /-- Access has not been granted, so the user is asked. -/
  | prompted {record : DeviceRecord} {gate : Gate} (harmed : w.armed = none)
    (hfind : w.devices.find? (·.identity == id) = some record) (hgate : w.gate = some gate)
    (hgranted : gate.granted = false) :
    Attempt w id (.ok (record, .request ⟨w.prompts, none⟩)) (w.showPrompt gate).2

theorem prompt_showPrompt (w : World) (gate : Gate) :
    (w.showPrompt gate).1 = ⟨w.prompts, none⟩ := by
  unfold showPrompt abandon
  cases gate.pending with
  | none => rfl
  | some prompt =>
    show (⟨(w.slots.set prompt .closed).length, none⟩ : Request) = _
    rw [List.length_set]
    rfl

/-- Opening a device is such an attempt. -/
theorem attempt_connect (w : World) (id : DeviceIdentity) :
    w.Attempt id (w.connect id).1 (w.connect id).2 := by
  unfold connect
  cases harmed : w.armed with
  | some e => exact .failed harmed
  | none =>
    cases hfind : w.devices.find? (·.identity == id) with
    | none => exact .unknown harmed hfind
    | some record =>
      cases hgate : w.gate with
      | none =>
        refine .opened harmed hfind fun gate h => ?_
        rw [hgate] at h
        cases h
      | some gate =>
        dsimp only
        by_cases hgranted : gate.granted = true
        · rw [if_pos hgranted]
          refine .opened harmed hfind fun gate' h => ?_
          rw [hgate] at h
          cases h
          exact hgranted
        · rw [if_neg hgranted]
          have hprompt := prompt_showPrompt w gate
          rcases h : w.showPrompt gate with ⟨request, w'⟩
          rw [h] at hprompt
          cases hprompt
          have hattempt : w.Attempt id _ _ :=
            .prompted harmed hfind hgate (Bool.eq_false_iff.mpr hgranted)
          rw [h] at hattempt
          exact hattempt

/-- There is one way only in which an attempt can go. -/
theorem Attempt.connect_eq {w w' : World} {id : DeviceIdentity}
    {outcome : Outcome (DeviceRecord × Link Nat Request)} (h : w.Attempt id outcome w') :
    w.connect id = (outcome, w') := by
  cases h with
  | failed harmed =>
    unfold connect
    simp only [harmed]
  | unknown harmed hfind =>
    unfold connect
    simp only [harmed, hfind]
  | @opened record harmed hfind hgate =>
    have hopen : w.connect id = (.ok (record, .channel w.opens), w.openChannel.2) := by
      unfold connect
      cases h : w.gate with
      | none => simp only [harmed, hfind, openChannel]
      | some gate => simp only [harmed, hfind, hgate gate h, if_true, openChannel]
    exact hopen
  | @prompted record gate harmed hfind hgate hgranted =>
    unfold connect
    simp only [harmed, hfind, hgate, hgranted, Bool.false_eq_true, if_false]
    rw [← prompt_showPrompt w gate]

/-- What is opened is the device that was asked for. -/
theorem Attempt.identity {w w' : World} {id : DeviceIdentity} {record : DeviceRecord}
    {link : Link Nat Request} (h : w.Attempt id (.ok (record, link)) w') :
    record.identity = id := by
  cases h with
  | opened harmed hfind hgate => simpa using List.find?_some hfind
  | prompted harmed hfind hgate hgranted => simpa using List.find?_some hfind

theorem setSlot_slot (w : World) (prompt : Nat) : w.setSlot prompt (w.slot prompt) = w := by
  unfold setSlot slot
  rw [List.getD_eq_getElem?_getD]
  by_cases hlt : prompt < w.slots.length
  · rw [List.getElem?_eq_getElem hlt, Option.getD_some, List.set_getElem_self]
  · rw [List.set_eq_of_length_le (Nat.le_of_not_lt hlt)]

/-- All that can come of looking at a request: what it remembers before and
afterwards, and how it stands. -/
inductive Look (w : World) (prompt : Nat) :
    Option Bool → PermissionState → Option Bool → World → Prop where
  | known {granted : Bool} : Look w prompt (some granted) (.ofAnswer granted) (some granted) w
  | waiting (hslot : w.slot prompt = .waiting) : Look w prompt none .pending none w
  | answered {granted : Bool} (hslot : w.slot prompt = .answered granted) :
    Look w prompt none (.ofAnswer granted) (some granted) (w.setSlot prompt .closed)
  | closed (hslot : w.slot prompt = .closed) : Look w prompt none .denied (some false) w

theorem Look.poll_eq {w w' : World} {prompt : Nat} {settled settled' : Option Bool}
    {state : PermissionState} (h : w.Look prompt settled state settled' w') :
    w.poll ⟨prompt, settled⟩ = ((state, ⟨prompt, settled'⟩), w') := by
  unfold poll Permission.settle
  cases h with
  | known =>
    dsimp only
    rw [setSlot_slot]
    rfl
  | waiting hslot =>
    have hworld := w.setSlot_slot prompt
    rw [hslot] at hworld
    simp only [hslot, Permission.Slot.take, hworld]
    rfl
  | answered hslot =>
    simp only [hslot, Permission.Slot.take]
    rfl
  | closed hslot =>
    have hworld := w.setSlot_slot prompt
    rw [hslot] at hworld
    simp only [hslot, Permission.Slot.take, hworld]
    rfl

theorem exists_look (w : World) (prompt : Nat) (settled : Option Bool) :
    ∃ state settled' w', w.Look prompt settled state settled' w' := by
  cases settled with
  | some granted => exact ⟨_, _, _, .known⟩
  | none =>
    cases hslot : w.slot prompt with
    | waiting => exact ⟨_, _, _, .waiting hslot⟩
    | answered granted => exact ⟨_, _, _, .answered hslot⟩
    | closed => exact ⟨_, _, _, .closed hslot⟩

end World

/-- The transport in memory gives the record of the device that was asked
for. -/
theorem faithful_beside (kind : TransportKind) : ((backend kind).beside F).Faithful := by
  intro id w record link w' h
  have hattempt := w.1.attempt_connect id
  have hout : (w.1.connect id).1 = .ok (record, link) := congrArg Prod.fst h
  rw [hout] at hattempt
  exact congrArg some hattempt.identity

/-- The transport in memory lets a request alone until there is an answer. -/
theorem patient_beside (kind : TransportKind) : ((backend kind).beside F).Patient := by
  rintro ⟨prompt, settled⟩ ⟨w, f⟩ request' ⟨w', f'⟩ h
  change ((w.poll ⟨prompt, settled⟩).1, ((w.poll ⟨prompt, settled⟩).2, f)) = _ at h
  obtain ⟨state, settled', w₁, hlook⟩ := w.exists_look prompt settled
  rw [hlook.poll_eq] at h
  -- a settled request is not pending, nor is one whose answer is there
  cases hlook with
  | @known granted => cases granted <;> cases h
  | waiting hslot =>
    cases h
    exact ⟨rfl, rfl⟩
  | @answered granted hslot => cases granted <;> cases h
  | closed hslot => cases h

-- ======================================================= what is dealt with

/-- What an act or a transfer of a printer in memory comes to, for the
transport and for the connection. -/
inductive Deal : World → Connection DeviceIdentity Nat Request →
    World → Connection DeviceIdentity Nat Request → Prop where
  /-- The transport has no part in it. -/
  | aside {w : World} {c : Connection DeviceIdentity Nat Request} : Deal w c w c
  | polled {w : World} {id : DeviceIdentity} {record : DeviceRecord} {request : Request} :
    Deal w (.awaiting id record request)
      (w.poll request).2 (.awaiting id record (w.poll request).1.2)
  | dropped {w : World} {id : DeviceIdentity} {record : DeviceRecord} {request : Request} :
    Deal w (.awaiting id record request) w .ready
  | attempted {w w' : World} {id : DeviceIdentity}
    {outcome : Outcome (DeviceRecord × Link Nat Request)} (h : w.Attempt id outcome w') :
    Deal w .ready w' (.ofAttempt id outcome)
  | closed {w : World} {id : DeviceIdentity} {record : DeviceRecord} {channel : Nat} :
    Deal w (.connected id record channel) (w.close channel) .ready
  | wrote {w : World} {id : DeviceIdentity} {record : DeviceRecord} {channel : Nat}
    {chunk : Bytes} :
    Deal w (.connected id record channel) (w.write channel chunk).2 (.connected id record channel)

namespace Deal

variable {kind : TransportKind} {settings : Settings}
  {fetch : String → StateM F (Outcome PixelMatrix)}
  {s s' : Situation (World × F) DeviceIdentity Nat Request}
  {P : World → Connection DeviceIdentity Nat Request → Prop}

/-- An act comes to such dealings only. -/
theorem keep_act (hdeal : ∀ {w c w' c'}, P w c → Deal w c w' c' → P w' c')
    (h : Act (printer kind settings fetch) s s') (hs : P s.2.1 s.1.connection) :
    P s'.2.1 s'.1.connection := by
  cases h with
  | prepared h =>
    rw [← congrArg Prod.snd h]
    exact hs
  | unprepared h =>
    rw [← congrArg Prod.snd h]
    exact hs
  | listed h =>
    rw [← congrArg Prod.snd h]
    exact hs
  | fetched h =>
    rw [← congrArg Prod.snd h]
    exact hs
  | polled h =>
    cases h
    exact hdeal hs .polled
  | dropped => exact hdeal hs .dropped
  | @opened id _ w _ h =>
    cases h
    exact hdeal hs (.attempted (w.1.attempt_connect id))
  | @reopened _ id _ request _ _ w _ _ hpoll h =>
    -- the request is looked at, it is given up, and the device is opened
    have hdropped := hdeal (hdeal hs .polled) .dropped
    have hopened := hdeal hdropped (.attempted ((w.1.poll request).2.attempt_connect id))
    have hworld := congrArg Prod.snd hpoll
    subst hworld
    cases h
    exact hopened
  | closed h =>
    rw [← congrArg Prod.snd h]
    exact hdeal hs .closed

theorem keep_transfer (hdeal : ∀ {w c w' c'}, P w c → Deal w c w' c' → P w' c')
    (h : Transfer (printer kind settings fetch) s s') (hs : P s.2.1 s.1.connection) :
    P s'.2.1 s'.1.connection := by
  cases h with
  | wrote h =>
    rw [← congrArg Prod.snd h]
    exact hdeal hs .wrote
  | flushed h =>
    rw [← congrArg Prod.snd h]
    exact hs

/-- What such dealings and the provocations keep holds wherever the printer
can come to. -/
theorem keep_reaches {w : World} {f : F}
    (h : (printer kind settings fetch).Reaches provoke (w, f) s)
    (hdeal : ∀ {w c w' c'}, P w c → Deal w c w' c' → P w' c')
    (hprovoked : ∀ {w c} (provocation : Provocation), P w c → P (provocation.apply w) c)
    (hfresh : P w .ready) : P s.2.1 s.1.connection :=
  h.keep (P := fun s => P s.2.1 s.1.connection) (keep_act hdeal) (keep_transfer hdeal)
    (fun change hs => hprovoked change hs) hfresh

end Deal

-- ========================================================== the invariant

/-- The channels opened so far are those closed so far and the one that the
session holds. -/
structure Tallied (w : World) (c : Connection DeviceIdentity Nat Request) : Prop where
  opens : w.opens = w.closes + c.channel?.toList.length
  numbered : ∀ channel ∈ w.closed, channel < w.opens
  held : ∀ channel, c.channel? = some channel → channel < w.opens ∧ channel ∉ w.closed

namespace Tallied

variable {w w' : World} {c c' : Connection DeviceIdentity Nat Request}

theorem same (h : Tallied w c) (hw : w.SameChannels w') (hc : c'.channel? = c.channel?) :
    Tallied w' c' where
  opens := by rw [hc, hw.1, World.closes, hw.2, h.opens, World.closes]
  numbered := by
    rw [hw.1, hw.2]
    exact h.numbered
  held := by
    rw [hc, hw.1, hw.2]
    exact h.held

theorem attempted (h : Tallied w c) (hc : c.channel? = none) {id : DeviceIdentity}
    {outcome : Outcome (DeviceRecord × Link Nat Request)} (hattempt : w.Attempt id outcome w') :
    Tallied w' (.ofAttempt id outcome) := by
  cases hattempt with
  | failed harmed => exact h.same ⟨rfl, rfl⟩ hc.symm
  | unknown harmed hfind => exact h.same ⟨rfl, rfl⟩ hc.symm
  | prompted harmed hfind hgate hgranted => exact h.same (w.sameChannels_showPrompt _) hc.symm
  | opened harmed hfind hgate =>
    refine ⟨?_, ?_, ?_⟩
    · have hopens := h.opens
      rw [hc] at hopens
      exact congrArg (· + 1) hopens
    · intro channel hmem
      exact Nat.lt_succ_of_lt (h.numbered channel hmem)
    · intro channel hheld
      cases hheld
      exact ⟨Nat.lt_succ_self _, fun hmem => Nat.lt_irrefl _ (h.numbered _ hmem)⟩

theorem closed {id : DeviceIdentity} {record : DeviceRecord} {channel : Nat}
    (h : Tallied w (.connected id record channel)) : Tallied (w.close channel) .ready := by
  obtain ⟨hlt, hnew⟩ := h.held channel rfl
  rw [World.close_of_notMem hnew]
  refine ⟨?_, ?_, ?_⟩
  · show w.opens = (w.closed ++ [channel]).length + 0
    rw [List.length_append]
    exact h.opens
  · intro other hmem
    rcases List.mem_append.mp hmem with hmem | hmem
    · exact h.numbered other hmem
    · exact List.mem_singleton.mp hmem ▸ hlt
  · intro other hheld
    cases hheld

/-- Whatever the session does with the transport keeps the count. -/
theorem deal (h : Tallied w c) (hdeal : Deal w c w' c') : Tallied w' c' := by
  cases hdeal with
  | aside => exact h
  | polled => exact h.same (w.sameChannels_poll _) rfl
  | dropped => exact h.same ⟨rfl, rfl⟩ rfl
  | attempted hattempt => exact h.attempted rfl hattempt
  | closed => exact h.closed
  | wrote => exact h.same (w.sameChannels_write _ _) rfl

theorem provocation (h : Tallied w c) (provocation : Provocation) :
    Tallied (provocation.apply w) c :=
  h.same (w.sameChannels_provocation provocation) rfl

theorem fresh (kind : TransportKind) (devices : List DeviceRecord) (gated : Bool) :
    Tallied (.fresh kind devices gated) .ready where
  opens := rfl
  numbered := nofun
  held := nofun

end Tallied

section

variable {kind : TransportKind} {settings : Settings}
  {fetch : String → StateM F (Outcome PixelMatrix)}
  {s : Situation (World × F) DeviceIdentity Nat Request}

/-- Wherever a printer can come to, the count is right. -/
theorem tallied_reaches {devices : List DeviceRecord} {gated : Bool} {f : F}
    (h : (printer kind settings fetch).Reaches provoke (.fresh kind devices gated, f) s) :
    Tallied s.2.1 s.1.connection :=
  Deal.keep_reaches h Tallied.deal (fun change hs => hs.provocation change)
    (.fresh kind devices gated)

/-- After any life the count is right. -/
theorem tallied_live (devices : List DeviceRecord) (gated : Bool) (f : F)
    (life : List (Happening DeviceIdentity Provocation))
    (h : (printer kind settings fetch).live provoke
      (Situation.fresh (World.fresh kind devices gated, f)) life = s) :
    Tallied s.2.1 s.1.connection :=
  tallied_reaches (.inl ⟨life, h⟩)

end

end ReceiptPrinter.Memory
