/-
Permission to use a device, from the prompt to the open channel.

Nothing is opened but with the user's last answer being yes. A print job
attempts at most once to open a device, so that a grant which was taken back
in the meantime makes the user be asked once more, and nothing else comes of
it. While there is no answer, print jobs change nothing at all. And there is
no way for an answer to get lost: as long as a session waits for a prompt
without an answer, the next answer is an answer to this prompt.
-/
import ReceiptPrinter.Proofs.Session.Outcome
import ReceiptPrinter.Proofs.Transport.Gate

namespace ReceiptPrinter.Memory

open Printer

variable {F : Type} (kind : TransportKind) (settings : Settings)
  (fetch : String → StateM F (Outcome PixelMatrix)) {devices : List DeviceRecord}

-- ============================================================ the transport

theorem poll_eq_of_look {w w' : World} {prompt : Nat} {settled settled' : Option Bool}
    {state : PermissionState} (h : w.Look prompt settled state settled' w') (f : F) :
    (printer kind settings fetch).backend.poll ⟨prompt, settled⟩ (w, f)
      = ((state, ⟨prompt, settled'⟩), (w', f)) := by
  show ((w.poll ⟨prompt, settled⟩).1, ((w.poll ⟨prompt, settled⟩).2, f)) = _
  rw [h.poll_eq]

theorem connect_eq_of_attempt {w w' : World} {id : DeviceIdentity}
    {outcome : Outcome (DeviceRecord × Link Nat Request)} (h : w.Attempt id outcome w') (f : F) :
    (printer kind settings fetch).backend.connect id (w, f) = (outcome, (w', f)) := by
  show ((w.connect id).1, ((w.connect id).2, f)) = _
  rw [h.connect_eq]

/-- Looking at a granted request leaves the gate, the failures and the
devices as they are. -/
theorem exists_poll_granted {w : World} {request : Request}
    (h : (w.poll request).1.1 = .granted) :
    ∃ request' w', (∀ f : F, (printer kind settings fetch).backend.poll request (w, f)
        = ((.granted, request'), (w', f)))
      ∧ w'.prompts = w.prompts ∧ ∃ slots, w' = { w with slots := slots } := by
  refine ⟨(w.poll request).1.2, (w.poll request).2, fun f => ?_, List.length_set, _, rfl⟩
  rw [← h]
  rfl

-- ===================================================== while nobody answers

/-- While a prompt waits for an answer, print jobs find no channel and change
nothing. -/
theorem seeks_unanswered {t : Situation ((World × F) × Journal DeviceIdentity) DeviceIdentity
      (Numbered Nat) Request}
    (hasked : Asked devices t.forget.2.1 t.forget.1.connection) {granted : Bool} {prompt : Nat}
    (hgate : t.forget.2.1.gate = some ⟨granted, some prompt⟩) :
    (t.forget.1.connection = .ready
        ∧ (printer kind settings fetch).backend.Seeks t (.error .notConnected) t)
      ∨ ((∃ id record, t.forget.1.connection = .awaiting id record ⟨prompt, none⟩)
        ∧ (printer kind settings fetch).backend.Seeks t (.error stillWaiting) t) := by
  obtain ⟨⟨initialized, c⟩, ⟨w, f⟩, j⟩ := t
  obtain ⟨-, hwaiting, hc⟩ := hasked.pending granted prompt hgate
  cases c with
  | ready => exact .inl ⟨rfl, .unconnected⟩
  | connected id record channel =>
    rcases hc with hc | ⟨id, record, hc⟩ <;> cases hc
  | awaiting id record request =>
    rcases hc with hc | ⟨id, record, hc⟩
    · cases hc
    · cases hc
      exact .inr ⟨⟨id, record, rfl⟩, .pending (poll_eq_of_look _ _ _ (.waiting hwaiting) f)⟩

-- ================================================= a grant that is taken back

/-- What a print job leads to if access was granted to the session's request
and has been refused since: the user is asked once more, if opening a device
does not fail for another reason. -/
theorem print_revoked {w : World} {id : DeviceIdentity} {record : DeviceRecord}
    {request : Request} (hasked : Asked devices w (.awaiting id record request))
    (hstate : (w.poll request).1.1 = .granted) (hgranted : w.granted? = some false)
    {job : Job} (hread : job.IsReadable) (initialized : Bool) (f : F)
    (j : Journal DeviceIdentity) :
    let (outcome, t) := (printer kind settings fetch).journaled.respond (.print job)
      (⟨initialized, .awaiting id record request⟩, ((w, f), j))
    (match w.armed with
      | none => outcome = .error stillWaiting
          ∧ t.1.connection = .awaiting id record ⟨w.prompts, none⟩
          ∧ t.2.1.1.prompts = w.prompts + 1 ∧ t.2.2.deeds = j.deeds ++ [.prompted id]
      | some e => outcome = .error e ∧ t.1.connection = .ready
          ∧ t.2.1.1.prompts = w.prompts ∧ t.2.2.deeds = j.deeds ++ [.refused id e])
      ∧ t.2.1.1.opens = w.opens ∧ t.2.1.1.closed = w.closed ∧ t.2.1.1.chunks = w.chunks := by
  obtain ⟨request', w₁, hpoll, hprompts, slots, rfl⟩ :=
    exists_poll_granted kind settings fetch hstate
  cases harmed : w.armed with
  | some e =>
    have hconnect := connect_eq_of_attempt kind settings fetch
      (.failed (w := { w with slots := slots }) harmed : World.Attempt _ id _ _) f
    rw [(Printed.unsent hread (.unopened (hpoll f) hconnect)).eq]
    exact ⟨⟨rfl, rfl, hprompts, rfl⟩, rfl, rfl, rfl⟩
  | none =>
    obtain ⟨gate, hgate, hrefused⟩ := Option.map_eq_some_iff.mp hgranted
    have hfind : w.devices.find? (·.identity == id) = some record := by
      rw [hasked.listed]
      exact hasked.record id record request rfl
    have hconnect := connect_eq_of_attempt kind settings fetch
      (.prompted (w := { w with slots := slots }) harmed hfind hgate hrefused) f
    rw [(Printed.unsent hread (.asked (hpoll f) hconnect)).eq, ← hprompts]
    obtain ⟨-, hchunks, hopens, hclosed⟩ := World.frame_showPrompt { w with slots := slots } gate
    exact ⟨⟨rfl, rfl, World.prompts_showPrompt _ gate, rfl⟩, hopens, hclosed, hchunks⟩

-- =========================================================== an answer comes

/-- The world once the prompt that waits has been answered. -/
theorem answer_eq {w : World} {before : Bool} {prompt : Nat}
    (hgate : w.gate = some ⟨before, some prompt⟩) (granted : Bool) :
    w.answer granted
      = { w with
          slots := w.slots.set prompt (.answered granted), gate := some ⟨granted, none⟩ } := by
  unfold World.answer
  rw [hgate]
  rfl

theorem look_answer {w : World} {before : Bool} {prompt : Nat}
    (hgate : w.gate = some ⟨before, some prompt⟩) (hslot : w.slot prompt = .waiting)
    (granted : Bool) :
    (w.answer granted).Look prompt none (.ofAnswer granted) (some granted)
      ((w.answer granted).setSlot prompt .closed) := by
  refine .answered ?_
  rw [answer_eq hgate]
  refine World.slot_setSlot (w := { w with gate := some ⟨granted, none⟩ }) ?_ _
  show w.slot prompt ≠ .closed
  rw [hslot]
  nofun

/-- A session that waits for a prompt without an answer waits for the prompt
that will be answered. -/
theorem Asked.gate_of_unanswered {w : World} {id : DeviceIdentity} {record : DeviceRecord}
    {request : Request} (h : Asked devices w (.awaiting id record request))
    (hun : w.Unanswered request) :
    request = ⟨request.prompt, none⟩ ∧ w.gate = some ⟨false, some request.prompt⟩
      ∧ w.slot request.prompt = .waiting := by
  obtain ⟨prompt, settled⟩ := request
  obtain ⟨hsettled, hnot⟩ := hun
  cases hsettled
  rcases h.awaited id record prompt rfl with ⟨granted, hgate⟩ | ⟨granted, hanswered⟩
  · obtain ⟨rfl, hwaiting, -⟩ := h.pending granted prompt hgate
    exact ⟨rfl, hgate, hwaiting⟩
  · exact absurd hanswered (hnot granted)

section

variable {initialized : Bool} {id : DeviceIdentity} {record : DeviceRecord} {w : World}
  {prompt : Nat}

/-- Once the user has said yes, the bytes of a print job are written through
a new channel to the device. -/
theorem print_granted (hasked : Asked devices w (.awaiting id record ⟨prompt, none⟩))
    (htally : Tallied w (.awaiting id record ⟨prompt, none⟩))
    (hgate : w.gate = some ⟨false, some prompt⟩) (hslot : w.slot prompt = .waiting)
    (harmed : w.armed = none) (hworks : w.failWrites = false) (content : Bytes) (f : F) :
    let (outcome, s) := (printer kind settings fetch).respond (.print (.bytes content))
      (⟨initialized, .awaiting id record ⟨prompt, none⟩⟩, (w.answer true, f))
    outcome = .ok .done ∧ s.1.connection = .connected id record w.opens
      ∧ s.2.1.opens = w.opens + 1 ∧ s.2.1.chunks = w.chunks ++ [content]
      ∧ s.2.1.closed = w.closed ∧ s.2.1.prompts = w.prompts := by
  have hpoll := poll_eq_of_look kind settings fetch (look_answer hgate hslot true) f
  rw [answer_eq hgate] at hpoll ⊢
  have hfind : w.devices.find? (·.identity == id) = some record := by
    rw [hasked.listed]
    exact hasked.record id record _ rfl
  -- the device is opened, and what is opened has not been closed
  let slots := (w.slots.set prompt (.answered true)).set prompt .closed
  let opened : World := { w with slots := slots, gate := some ⟨true, none⟩, opens := w.opens + 1 }
  have hconnect := connect_eq_of_attempt kind settings fetch
    (.opened (w := { w with slots := slots, gate := some ⟨true, none⟩ }) harmed hfind
      fun gate h => by cases h; rfl) f
  have hwrite : opened.write w.opens content
      = (.ok (), { opened with chunks := w.chunks ++ [content] }) := by
    unfold World.write
    rw [if_neg, if_neg]
    · show ¬ w.failWrites = true
      rw [hworks]
      nofun
    · show ¬ w.closed.contains w.opens = true
      rw [List.contains_iff_mem]
      exact fun hmem => Nat.lt_irrefl _ (htally.numbered _ hmem)
  have hchannel : Step.eval (printer kind settings fetch).channel
      (⟨initialized, .awaiting id record ⟨prompt, none⟩⟩,
        ({ w with slots := w.slots.set prompt (.answered true), gate := some ⟨true, none⟩ }, f))
      = (.ok w.opens, (⟨initialized, .connected id record w.opens⟩, (opened, f))) :=
    eval_channel_of_granted _ hpoll hconnect
  have hsent : (printer kind settings fetch).backend.write w.opens content (opened, f)
      = (.ok (), ({ opened with chunks := w.chunks ++ [content] }, f)) := by
    show ((opened.write w.opens content).1, ((opened.write w.opens content).2, f)) = _
    rw [hwrite]
  rw [respond_print_bytes hchannel hsent rfl]
  refine ⟨rfl, rfl, rfl, rfl, rfl, ?_⟩
  show slots.length = w.slots.length
  rw [List.length_set, List.length_set]

/-- Once the user has said no, a print job is refused and the session gives
up. -/
theorem print_denied (initialized : Bool) (id : DeviceIdentity) (record : DeviceRecord)
    (hgate : w.gate = some ⟨false, some prompt⟩) (hslot : w.slot prompt = .waiting)
    {job : Job} (hread : job.IsReadable) (f : F) :
    ∃ slots, slots.length = w.slots.length
      ∧ (printer kind settings fetch).respond (.print job)
          (⟨initialized, .awaiting id record ⟨prompt, none⟩⟩, (w.answer false, f))
        = (.error accessRefused,
            (⟨initialized, .ready⟩,
              ({ w with slots := slots, gate := some ⟨false, none⟩ }, f))) := by
  have hpoll := poll_eq_of_look kind settings fetch (look_answer hgate hslot false) f
  rw [answer_eq hgate] at hpoll ⊢
  refine ⟨_, ?_, respond_print_of_error hread (eval_channel_of_denied _ hpoll)⟩
  rw [List.length_set, List.length_set]

/-- Where access is not granted, selecting a device makes the user be asked
once, if opening a device does not fail for another reason. -/
theorem select_ungranted (hfind : w.devices.find? (·.identity == id) = some record)
    (hgranted : w.granted? = some false) (f : F) :
    let (outcome, s) := (printer kind settings fetch).respond (.select id) (⟨true, .ready⟩, (w, f))
    (match w.armed with
      | none => outcome = .ok (.device record)
          ∧ s.1.connection = .awaiting id record ⟨w.prompts, none⟩
          ∧ s.2.1.prompts = w.prompts + 1
      | some e => outcome = .error e ∧ s.1.connection = .ready ∧ s.2.1.prompts = w.prompts)
      ∧ s.2.1.opens = w.opens ∧ s.2.1.closed = w.closed ∧ s.2.1.chunks = w.chunks := by
  cases harmed : w.armed with
  | some e =>
    have hconnect := connect_eq_of_attempt kind settings fetch
      (.failed harmed : w.Attempt id _ _) f
    have hselect : (printer kind settings fetch).respond (.select id) (⟨true, .ready⟩, (w, f))
        = (.error e, (⟨true, .ready⟩, ({ w with armed := none }, f))) := by
      rw [respond_select_of_ready _ id rfl rfl]
      simp only [hconnect]
    rw [hselect]
    exact ⟨⟨rfl, rfl, rfl⟩, rfl, rfl, rfl⟩
  | none =>
    obtain ⟨gate, hgate, hrefused⟩ := Option.map_eq_some_iff.mp hgranted
    have hconnect := connect_eq_of_attempt kind settings fetch
      (.prompted harmed hfind hgate hrefused) f
    have hselect : (printer kind settings fetch).respond (.select id) (⟨true, .ready⟩, (w, f))
        = (.ok (.device record),
            (⟨true, .awaiting id record ⟨w.prompts, none⟩⟩, ((w.showPrompt gate).2, f))) := by
      rw [respond_select_of_ready _ id rfl rfl]
      simp only [hconnect]
      rfl
    rw [hselect]
    obtain ⟨-, hchunks, hopens, hclosed⟩ := w.frame_showPrompt gate
    exact ⟨⟨rfl, rfl, w.prompts_showPrompt gate⟩, hopens, hclosed, hchunks⟩

end

-- ============================================================= the results

/-- The gate in front of the devices, through every life of a printer in
memory.

What is opened is opened with the user's last answer being yes, so before
the first grant nothing is opened and nothing is written. A print job
attempts at most once to open a device. If access was granted to the request
that the session waits for and has been refused since, the job leads to one
new prompt, or to the failure that was armed for the next open, and nothing
is opened or written. While a prompt waits for an answer a print job changes
nothing: it is told to wait if the session waits for this prompt, and that
there is no connection if the session has given up. -/
theorem permission_gate (kind : TransportKind) (settings : Settings)
    (fetch : String → StateM F (Outcome PixelMatrix)) (f : F) (devices : List DeviceRecord)
    (life : List (Happening DeviceIdentity Provocation)) :
    let m := printer kind settings fetch
    let s := m.live provoke (.fresh (.fresh kind devices true, f)) life
    let t := m.journaled.live (Journal.beside provoke)
      (.fresh ((.fresh kind devices true, f), .blank)) life
    t.forget = s
      ∧ (∀ happening, (m.undergo provoke s happening).2.1.opens ≠ s.2.1.opens →
          lastAnswer? life = some true)
      ∧ (.outside (.answer true) ∉ life → s.2.1.opens = 0 ∧ s.2.1.chunks = [])
      ∧ ∀ job,
        let (outcome, t') := m.journaled.respond (.print job) t
        m.respond (.print job) s = (outcome, t'.forget)
          ∧ (∃ deeds, t'.2.2.deeds = t.2.2.deeds ++ deeds ∧ deeds.countP Deed.isAttempt ≤ 1)
          ∧ (job.IsReadable →
            (∀ id record request, s.1.connection = .awaiting id record request →
              (s.2.1.poll request).1.1 = .granted → lastAnswer? life ≠ some true →
              (match s.2.1.armed with
                | none => outcome = .error stillWaiting
                    ∧ t'.1.connection = .awaiting id record ⟨s.2.1.prompts, none⟩
                    ∧ t'.2.1.1.prompts = s.2.1.prompts + 1
                    ∧ t'.2.2.deeds = t.2.2.deeds ++ [.prompted id]
                | some e => outcome = .error e ∧ t'.1.connection = .ready
                    ∧ t'.2.1.1.prompts = s.2.1.prompts
                    ∧ t'.2.2.deeds = t.2.2.deeds ++ [.refused id e])
                ∧ t'.2.1.1.opens = s.2.1.opens ∧ t'.2.1.1.closed = s.2.1.closed
                ∧ t'.2.1.1.chunks = s.2.1.chunks)
            ∧ ∀ granted prompt, s.2.1.gate = some ⟨granted, some prompt⟩ →
              t' = t
                ∧ ((s.1.connection = .ready ∧ outcome = .error .notConnected)
                  ∨ ((∃ id record, s.1.connection = .awaiting id record ⟨prompt, none⟩)
                    ∧ outcome = .error stillWaiting))) := by
  intro m s t
  have hforget : t.forget = s := (live_journaled m provoke life _).symm
  have hasked : Asked devices s.2.1 s.1.connection := asked_reaches (.inl ⟨life, rfl⟩)
  have hgranted : s.2.1.granted? = some ((lastAnswer? life).getD false) := granted?_live life
  refine ⟨hforget, opens_undergo kind settings fetch devices f life, untouched_live, fun job => ?_⟩
  clear_value s t
  subst hforget
  obtain ⟨outcome, t', hprinted⟩ := printed_total m job t
  have hrespond := respond_journaled m (.print job) t
  rw [hprinted.eq] at hrespond ⊢
  refine ⟨hrespond, hprinted.attempts, fun hread => ⟨?_, ?_⟩⟩
  · intro id record request hc hstate hlast
    obtain ⟨⟨initialized, c⟩, ⟨w, f⟩, j⟩ := t
    cases c with
    | ready => cases hc
    | connected id record channel => cases hc
    | awaiting id record request =>
      cases hc
      have hrefused : w.granted? = some false := by
        refine hgranted.trans (congrArg some ?_)
        cases h : lastAnswer? life with
        | none => rfl
        | some granted =>
          rw [h] at hlast
          exact Bool.eq_false_iff.mpr fun hyes => hlast (congrArg some hyes)
      have hrevoked := print_revoked kind settings fetch
        (w := w) hasked hstate hrefused hread initialized f j
      rw [hprinted.eq] at hrevoked
      exact hrevoked
  · intro granted prompt hgate
    rcases seeks_unanswered kind settings fetch hasked hgate
      with ⟨hready, hseek⟩ | ⟨hwaits, hseek⟩
    · have heq := hprinted.eq.symm.trans (Printed.unsent hread hseek).eq
      exact ⟨congrArg Prod.snd heq, .inl ⟨hready, congrArg Prod.fst heq⟩⟩
    · have heq := hprinted.eq.symm.trans (Printed.unsent hread hseek).eq
      exact ⟨congrArg Prod.snd heq, .inr ⟨hwaits, congrArg Prod.fst heq⟩⟩

/-- The user says yes and then no, and the next open is made to fail. -/
def takenBack : List (Happening DeviceIdentity Provocation) :=
  [.operation (.select till.identity), .outside (.answer true), .outside (.answer false),
    .outside (.failNextOpen (.connectionFailed "unplugged"))]

/-- The session gives up while the user is still being asked. -/
def givenUp : List (Happening DeviceIdentity Provocation) :=
  [.operation (.select till.identity), .operation .close]

/-- A grant that is taken back leads to no prompt if the next open was made
to fail; and while a prompt waits for an answer, a session that has given up
is not told to wait. -/
theorem neither_prompt_nor_denial :
    let s := plain.live provoke (.fresh gated) takenBack
    let t := plain.live provoke (.fresh gated) givenUp
    (lastAnswer? takenBack = some false
      ∧ s.1.connection = .awaiting till.identity till ⟨0, none⟩
      ∧ (s.2.1.poll ⟨0, none⟩).1.1 = .granted
      ∧ (plain.respond (.print (.bytes [88])) s).1 = .error (.connectionFailed "unplugged")
      ∧ (plain.respond (.print (.bytes [88])) s).2.2.1.prompts = s.2.1.prompts)
    ∧ t.2.1.gate = some ⟨false, some 0⟩ ∧ t.2.1.slot 0 = .waiting
      ∧ (plain.respond (.print (.bytes [88])) t).1 = .error .notConnected := by
  refine ⟨⟨rfl, rfl, rfl, rfl, rfl⟩, rfl, rfl, rfl⟩

/-- No answer of the user is lost, wherever a printer in memory can come to,
with operations one after another or at the same time.

A session that waits for a prompt without an answer waits for the one that
will be answered. If the user says yes, the next bytes are written through
one new channel to the device, provided that nothing was made to fail. If
the user says no, the next print job is refused, nothing is opened, and the
session is ready: further jobs find no connection, and selecting the device
again makes the user be asked once more, or else leads to the failure that
was armed for the next open. -/
theorem answers_arrive (kind : TransportKind) (settings : Settings)
    (fetch : String → StateM F (Outcome PixelMatrix)) (f : F) (devices : List DeviceRecord)
    (s : Situation (World × F) DeviceIdentity Nat Request)
    (h : (printer kind settings fetch).Reaches provoke (.fresh kind devices true, f) s)
    (id : DeviceIdentity) (record : DeviceRecord) (request : Request)
    (hc : s.1.connection = .awaiting id record request) (hun : s.2.1.Unanswered request) :
    let m := printer kind settings fetch
    s.2.1.gate = some ⟨false, some request.prompt⟩ ∧ s.2.1.slot request.prompt = .waiting
      ∧ devices.find? (·.identity == id) = some record
      ∧ (∀ content, s.2.1.armed = none → s.2.1.failWrites = false →
          let (outcome, s') :=
            m.respond (.print (.bytes content)) (m.undergo provoke s (.outside (.answer true)))
          outcome = .ok .done ∧ s'.1.connection = .connected id record s.2.1.opens
            ∧ s'.2.1.opens = s.2.1.opens + 1 ∧ s'.2.1.chunks = s.2.1.chunks ++ [content]
            ∧ s'.2.1.closed = s.2.1.closed ∧ s'.2.1.prompts = s.2.1.prompts)
      ∧ ∀ job, job.IsReadable →
          let (outcome, s') :=
            m.respond (.print job) (m.undergo provoke s (.outside (.answer false)))
          (outcome = .error accessRefused ∧ s'.1.connection = .ready
              ∧ s'.2.1.prompts = s.2.1.prompts ∧ s'.2.1.opens = s.2.1.opens
              ∧ s'.2.1.closed = s.2.1.closed ∧ s'.2.1.chunks = s.2.1.chunks)
            ∧ (∀ next, next.IsReadable → m.respond (.print next) s' = (.error .notConnected, s'))
            ∧ let (outcome, s'') := m.respond (.select id) s'
              (match s.2.1.armed with
                | none => outcome = .ok (.device record)
                    ∧ s''.1.connection = .awaiting id record ⟨s.2.1.prompts, none⟩
                    ∧ s''.2.1.prompts = s.2.1.prompts + 1
                | some e => outcome = .error e ∧ s''.1.connection = .ready
                    ∧ s''.2.1.prompts = s.2.1.prompts)
                ∧ s''.2.1.opens = s.2.1.opens ∧ s''.2.1.closed = s.2.1.closed
                ∧ s''.2.1.chunks = s.2.1.chunks := by
  intro m
  have hasked := asked_reaches h
  have htally := tallied_reaches h
  have hsound := sound_reaches h
  obtain ⟨⟨initialized, c⟩, w, f⟩ := s
  cases hc
  obtain ⟨hrequest, hgate, hslot⟩ := hasked.gate_of_unanswered hun
  have hfind := hasked.record id record request rfl
  have hinit : initialized = true := hsound nofun
  obtain ⟨prompt, settled⟩ := request
  cases hrequest
  cases hinit
  refine ⟨hgate, hslot, hfind, fun content harmed hworks => ?_, fun job hread => ?_⟩
  · exact print_granted kind settings fetch hasked htally hgate hslot harmed hworks content f
  · obtain ⟨slots, hlength, hdenied⟩ := print_denied kind settings fetch
      true id record hgate hslot hread f
    have hundergo : m.undergo provoke (⟨true, .awaiting id record ⟨prompt, none⟩⟩, (w, f))
        (.outside (.answer false))
          = (⟨true, .awaiting id record ⟨prompt, none⟩⟩, (w.answer false, f)) := rfl
    rw [hundergo, hdenied]
    refine ⟨⟨rfl, rfl, hlength, rfl, rfl, rfl⟩, fun next hnext => ?_, ?_⟩
    · exact respond_print_of_error hnext (by rw [eval_channel])
    · have hselect := select_ungranted kind settings fetch
        (w := { w with slots := slots, gate := some ⟨false, none⟩ })
        (by rw [← hasked.listed] at hfind; exact hfind) rfl f
      have hprompts : World.prompts { w with slots := slots, gate := some ⟨false, none⟩ }
          = w.prompts := hlength
      rw [hprompts] at hselect
      exact hselect

/-- The till is selected, and the user says yes. -/
theorem yes_to_the_till :
    ∃ s, plain.Reaches provoke gated s
      ∧ s.1.connection = .awaiting till.identity till ⟨0, none⟩
      ∧ s.2.1.Unanswered ⟨0, none⟩
      ∧ let (outcome, s') :=
          plain.respond (.print (.bytes [88])) (plain.undergo provoke s (.outside (.answer true)))
        outcome = .ok .done ∧ s'.1.connection = .connected till.identity till 0
          ∧ s'.2.1.chunks = [[88]] := by
  let s := plain.live provoke (.fresh gated) [.operation (.select till.identity)]
  have hreaches : plain.Reaches provoke gated s := .inl ⟨_, rfl⟩
  have hun : s.2.1.Unanswered ⟨0, none⟩ := ⟨rfl, nofun⟩
  obtain ⟨-, -, -, hyes, -⟩ :=
    answers_arrive .usb .default _ () [till] s hreaches till.identity till ⟨0, none⟩ rfl hun
  obtain ⟨hdone, hconnected, -, hchunks, -, -⟩ := hyes [88] rfl rfl
  exact ⟨s, hreaches, rfl, hun, hdone, hconnected, hchunks⟩

/-- Selecting a device after a refusal leads to no prompt if the next open
was made to fail. -/
theorem new_select_without_prompt :
    let s := plain.live provoke (.fresh gated)
      [.operation (.select till.identity), .outside (.failNextOpen (.connectionFailed "unplugged"))]
    let s' := plain.live provoke s [.outside (.answer false), .operation (.print (.bytes [88])),
      .operation (.print (.bytes [88]))]
    s.1.connection = .awaiting till.identity till ⟨0, none⟩ ∧ s.2.1.Unanswered ⟨0, none⟩
      ∧ (plain.respond (.select till.identity) s').1 = .error (.connectionFailed "unplugged")
      ∧ (plain.respond (.select till.identity) s').2.2.1.prompts = s'.2.1.prompts := by
  exact ⟨rfl, ⟨rfl, nofun⟩, rfl, rfl⟩

end ReceiptPrinter.Memory
