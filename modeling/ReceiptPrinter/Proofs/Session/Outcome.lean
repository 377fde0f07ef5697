/-
What a print job leads to.

`Printed` is a table of all that can come of a print job which is carried to
its end by itself, from any situation and with any failure of the transport,
of the pictures and of the codes. It says what is answered, what the session
is bound to afterwards, how the world goes on, and which deeds are noted in
the journal; nothing is noted where nothing was done. `printed_iff` says
that the table is right and that nothing is missing from it, and is put
together from the same two statements about each part: looking for the
channel, preparing the job, sending it.
-/
import ReceiptPrinter.Proofs.Session.Journaled
import ReceiptPrinter.Proofs.Transport.Memory

namespace ReceiptPrinter

open Step

variable {W ι κ ρ : Type}

/-- The journal with several deeds more. -/
def Journal.noteAll (j : Journal ι) (deeds : List (Deed ι)) : Journal ι :=
  { j with deeds := j.deeds ++ deeds }

/-- The journal once a channel to a device has been opened. -/
def Journal.noteChannel (j : Journal ι) (id : ι) : Journal ι :=
  { j.note (.opened id j.next) with next := j.next + 1 }

-- ============================================================= the table

namespace Backend

open Printer in
/-- All that can come of looking for the open channel. -/
inductive Seeks (b : Backend (StateM W) ι κ ρ) :
    Situation (W × Journal ι) ι (Numbered κ) ρ → Outcome (Numbered κ) →
      Situation (W × Journal ι) ι (Numbered κ) ρ → Prop where
  | unconnected {initialized : Bool} {w : W × Journal ι} :
    Seeks b (⟨initialized, .ready⟩, w) (.error .notConnected) (⟨initialized, .ready⟩, w)
  | connected {initialized : Bool} {id : ι} {record : DeviceRecord} {channel : Numbered κ}
    {w : W × Journal ι} :
    Seeks b (⟨initialized, .connected id record channel⟩, w) (.ok channel)
      (⟨initialized, .connected id record channel⟩, w)
  | pending {initialized : Bool} {id : ι} {record : DeviceRecord} {request request' : ρ}
    {w w' : W} {j : Journal ι} (hpoll : b.poll request w = ((.pending, request'), w')) :
    Seeks b (⟨initialized, .awaiting id record request⟩, (w, j)) (.error stillWaiting)
      (⟨initialized, .awaiting id record request'⟩, (w', j))
  | denied {initialized : Bool} {id : ι} {record : DeviceRecord} {request request' : ρ}
    {w w' : W} {j : Journal ι} (hpoll : b.poll request w = ((.denied, request'), w')) :
    Seeks b (⟨initialized, .awaiting id record request⟩, (w, j)) (.error accessRefused)
      (⟨initialized, .ready⟩, (w', j))
  /-- Access is granted, but the device cannot be opened. -/
  | unopened {initialized : Bool} {id : ι} {record : DeviceRecord} {request request' : ρ}
    {e : PrinterError} {w w₁ w₂ : W} {j : Journal ι}
    (hpoll : b.poll request w = ((.granted, request'), w₁))
    (hconnect : b.connect id w₁ = (.error e, w₂)) :
    Seeks b (⟨initialized, .awaiting id record request⟩, (w, j)) (.error e)
      (⟨initialized, .ready⟩, (w₂, j.note (.refused id e)))
  /-- Access is granted, but the user has to be asked once more. -/
  | asked {initialized : Bool} {id : ι} {record record' : DeviceRecord}
    {request request' again : ρ} {w w₁ w₂ : W} {j : Journal ι}
    (hpoll : b.poll request w = ((.granted, request'), w₁))
    (hconnect : b.connect id w₁ = (.ok (record', .request again), w₂)) :
    Seeks b (⟨initialized, .awaiting id record request⟩, (w, j)) (.error stillWaiting)
      (⟨initialized, .awaiting id record' again⟩, (w₂, j.note (.prompted id)))
  | reopened {initialized : Bool} {id : ι} {record record' : DeviceRecord}
    {request request' : ρ} {channel : κ} {w w₁ w₂ : W} {j : Journal ι}
    (hpoll : b.poll request w = ((.granted, request'), w₁))
    (hconnect : b.connect id w₁ = (.ok (record', .channel channel), w₂)) :
    Seeks b (⟨initialized, .awaiting id record request⟩, (w, j)) (.ok ⟨j.next, channel⟩)
      (⟨initialized, .connected id record' ⟨j.next, channel⟩⟩, (w₂, j.noteChannel id))

/-- All these chunks go through, one after another. -/
inductive Passes (b : Backend (StateM W) ι κ ρ) (channel : κ) : List Bytes → W → W → Prop where
  | nil {w : W} : Passes b channel [] w w
  | cons {chunk : Bytes} {rest : List Bytes} {w w₁ w₂ : W}
    (h : b.write channel chunk w = (.ok (), w₁)) (hrest : Passes b channel rest w₁ w₂) :
    Passes b channel (chunk :: rest) w w₂

/-- A chunk that went through, as a deed. -/
def passed (channel : Numbered κ) (chunk : Bytes) : Deed ι :=
  .wrote channel.number chunk (.ok ())

/-- All that can come of sending a job through a channel. -/
inductive Sends (b : Backend (StateM W) ι κ ρ) (channel : Numbered κ) (stream : Stream) (w : W) :
    Outcome Unit → List (Deed ι) → W → Prop where
  /-- A chunk fails after those before it have gone through. -/
  | broke {sent rest : List Bytes} {chunk : Bytes} {e : PrinterError} {w₁ w₂ : W}
    (hchunks : stream.chunks = sent ++ chunk :: rest)
    (hsent : Passes b channel.channel sent w w₁)
    (hwrite : b.write channel.channel chunk w₁ = (.error e, w₂)) :
    Sends b channel stream w (.error e)
      (sent.map (passed channel) ++ [.wrote channel.number chunk (.error e)]) w₂
  | flushed {result : Outcome Unit} {w₁ w₂ : W}
    (hsent : Passes b channel.channel stream.chunks w w₁)
    (hflush : b.flush channel.channel w₁ = (result, w₂)) :
    Sends b channel stream w result
      (stream.chunks.map (passed channel) ++ [.flushed channel.number result]) w₂

end Backend

/-- Whether the payload of a job can be read, if it comes as one. -/
def Job.IsReadable : Job → Prop
  | raw payload => ∃ content, Base64.decodeText payload.toList = .ok content
  | bytes _ | markup _ _ | image _ _ | qr _ _ => True

namespace Printer

/-- All that can come of preparing a job whose payload can be read. -/
inductive Prepares (p : Printer (StateM W) ι κ ρ) : Job → W → Outcome Stream → W → Prop where
  | bytes {content : Bytes} {w : W} : Prepares p (.bytes content) w (.ok (.single content)) w
  | raw {payload : String} {content : Bytes} {w : W}
    (h : Base64.decodeText payload.toList = .ok content) :
    Prepares p (.raw payload) w (.ok (.single content)) w
  | markup {text : String} {trailer : Markup.Trailer} {w : W} :
    Prepares p (.markup text trailer) w (.ok (.single (Markup.convert text.toList trailer))) w
  | unfetched {locator : String} {max : Option Int} {e : PrinterError} {w w' : W}
    (h : p.fetch locator w = (.error e, w')) : Prepares p (.image locator max) w (.error e) w'
  | image {locator : String} {max : Option Int} {picture : PixelMatrix} {w w' : W}
    (h : p.fetch locator w = (.ok picture, w')) :
    Prepares p (.image locator max) w
      (Raster.encode picture (p.settings.imageDimension max)) w'
  /-- The text cannot be made a code of that size. -/
  | uncoded {text : String} {size : Option Int} {e : PrinterError} {w : W}
    (h : Qr.encode (utf8 text.toList) (p.settings.qrSide size) = .error e) :
    Prepares p (.qr text size) w (.error e) w
  | code {text : String} {size : Option Int} {picture : PixelMatrix} {w : W}
    (h : Qr.encode (utf8 text.toList) (p.settings.qrSide size) = .ok picture) :
    Prepares p (.qr text size) w (Raster.encode picture (p.settings.qrSide size)) w

/-- All that can come of a print job. -/
inductive Printed (p : Printer (StateM W) ι κ ρ) :
    Job → Situation (W × Journal ι) ι (Numbered κ) ρ → Outcome Reply →
      Situation (W × Journal ι) ι (Numbered κ) ρ → Prop where
  /-- A bad payload is refused before anything is looked at. -/
  | unreadable {payload : String} {fault : Base64.Fault}
    {s : Situation (W × Journal ι) ι (Numbered κ) ρ}
    (h : Base64.decodeText payload.toList = .error fault) :
    Printed p (.raw payload) s (.error fault.error) s
  /-- There is no channel to write to. -/
  | unsent {job : Job} {e : PrinterError} {s s' : Situation (W × Journal ι) ι (Numbered κ) ρ}
    (hread : job.IsReadable) (hseek : p.backend.Seeks s (.error e) s') : Printed p job s (.error e) s'
  /-- There is a channel, but nothing to write to it. -/
  | unprepared {job : Job} {e : PrinterError} {s : Situation (W × Journal ι) ι (Numbered κ) ρ}
    {session : Session ι (Numbered κ) ρ} {channel : Numbered κ} {w w' : W} {j : Journal ι}
    (hseek : p.backend.Seeks s (.ok channel) (session, (w, j))) (hjob : Prepares p job w (.error e) w') :
    Printed p job s (.error e) (session, (w', j))
  /-- Sending fails, which costs the connection. -/
  | broken {job : Job} {e : PrinterError} {s : Situation (W × Journal ι) ι (Numbered κ) ρ}
    {session : Session ι (Numbered κ) ρ} {channel : Numbered κ} {stream : Stream}
    {deeds : List (Deed ι)} {w w₁ w₂ : W} {j : Journal ι}
    (hseek : p.backend.Seeks s (.ok channel) (session, (w, j)))
    (hjob : Prepares p job w (.ok stream) w₁)
    (hsend : p.backend.Sends channel stream w₁ (.error e) deeds w₂) :
    Printed p job s (.error e)
      (⟨session.initialized, .ready⟩,
        ((p.backend.close channel.channel w₂).2, j.noteAll (deeds ++ [.closed channel.number])))
  | done {job : Job} {s : Situation (W × Journal ι) ι (Numbered κ) ρ}
    {session : Session ι (Numbered κ) ρ} {channel : Numbered κ} {stream : Stream}
    {deeds : List (Deed ι)} {w w₁ w₂ : W} {j : Journal ι}
    (hseek : p.backend.Seeks s (.ok channel) (session, (w, j)))
    (hjob : Prepares p job w (.ok stream) w₁)
    (hsend : p.backend.Sends channel stream w₁ (.ok ()) deeds w₂) :
    Printed p job s (.ok .done) (session, (w₂, j.noteAll deeds))

variable {p : Printer (StateM W) ι κ ρ} {s s' : Situation (W × Journal ι) ι (Numbered κ) ρ}

-- ============================================================== seeking

theorem poll_journaled {request : ρ} {answer : PermissionState × ρ} {w w' : W}
    (h : p.backend.poll request w = (answer, w')) (j : Journal ι) :
    p.journaled.backend.poll request (w, j) = (answer, (w', j)) := by
  show Journal.aside (p.backend.poll request) (w, j) = _
  rw [aside_eq, h]

theorem eval_channel_of_seeks {outcome : Outcome (Numbered κ)} (h : p.backend.Seeks s outcome s') :
    eval p.journaled.channel s = (outcome, s') := by
  rw [eval_channel]
  cases h with
  | unconnected => rfl
  | connected => rfl
  | pending hpoll => simp only [poll_journaled hpoll]
  | denied hpoll => simp only [poll_journaled hpoll]
  | unopened hpoll hconnect =>
    simp only [poll_journaled hpoll, connect_journaled, hconnect]
    rfl
  | asked hpoll hconnect =>
    simp only [poll_journaled hpoll, connect_journaled, hconnect]
    rfl
  | reopened hpoll hconnect =>
    simp only [poll_journaled hpoll, connect_journaled, hconnect]
    rfl

theorem seeks_total (p : Printer (StateM W) ι κ ρ)
    (s : Situation (W × Journal ι) ι (Numbered κ) ρ) : ∃ outcome s', p.backend.Seeks s outcome s' := by
  obtain ⟨⟨initialized, c⟩, w, j⟩ := s
  cases c with
  | ready => exact ⟨_, _, .unconnected⟩
  | connected id record channel => exact ⟨_, _, .connected⟩
  | awaiting id record request =>
    rcases hpoll : p.backend.poll request w with ⟨⟨state, request'⟩, w₁⟩
    cases state with
    | pending => exact ⟨_, _, .pending hpoll⟩
    | denied => exact ⟨_, _, .denied hpoll⟩
    | granted =>
      rcases hconnect : p.backend.connect id w₁ with ⟨outcome, w₂⟩
      cases outcome with
      | error e => exact ⟨_, _, .unopened hpoll hconnect⟩
      | ok opened =>
        obtain ⟨record', link⟩ := opened
        cases link with
        | request again => exact ⟨_, _, .asked hpoll hconnect⟩
        | channel channel => exact ⟨_, _, .reopened hpoll hconnect⟩

-- ============================================================ preparing

theorem Prepares.eq {job : Job} {outcome : Outcome Stream} {w w' : W}
    (h : Prepares p job w outcome w') : p.stream job w = (outcome, w') := by
  cases h with
  | bytes => rfl
  | markup => rfl
  | @raw payload content _ h =>
    show ((payloadBytes payload).map Stream.single, w) = _
    unfold payloadBytes
    rw [h]
    rfl
  | unfetched h =>
    show p.imageStream _ _ w = _
    simp only [imageStream, bind, StateT.bind, h]
    rfl
  | image h =>
    show p.imageStream _ _ w = _
    simp only [imageStream, bind, StateT.bind, h]
    rfl
  | @uncoded text size e _ h =>
    show (qrStream text (p.settings.qrSide size), w) = _
    unfold qrStream
    rw [h]
    rfl
  | @code text size picture _ h =>
    show (qrStream text (p.settings.qrSide size), w) = _
    unfold qrStream
    rw [h]
    rfl

theorem Prepares.isReadable {job : Job} {outcome : Outcome Stream} {w w' : W}
    (h : Prepares p job w outcome w') : job.IsReadable := by
  cases h with
  | raw h => exact ⟨_, h⟩
  | _ => trivial

theorem prepares_total (p : Printer (StateM W) ι κ ρ) {job : Job} (hread : job.IsReadable)
    (w : W) : ∃ outcome w', Prepares p job w outcome w' := by
  cases job with
  | bytes content => exact ⟨_, _, .bytes⟩
  | markup text trailer => exact ⟨_, _, .markup⟩
  | raw payload =>
    obtain ⟨content, hcontent⟩ := hread
    exact ⟨_, _, .raw hcontent⟩
  | image locator max =>
    rcases h : p.fetch locator w with ⟨outcome, w'⟩
    cases outcome with
    | error e => exact ⟨_, _, .unfetched h⟩
    | ok picture => exact ⟨_, _, .image h⟩
  | qr text size =>
    cases h : Qr.encode (utf8 text.toList) (p.settings.qrSide size) with
    | error e => exact ⟨_, _, .uncoded h⟩
    | ok picture => exact ⟨_, _, .code h⟩

-- ============================================================== sending

theorem noteAll_noteAll (j : Journal ι) (deeds more : List (Deed ι)) :
    (j.noteAll deeds).noteAll more = j.noteAll (deeds ++ more) := by
  unfold Journal.noteAll
  rw [List.append_assoc]

theorem noteAll_nil (j : Journal ι) : j.noteAll [] = j := by
  unfold Journal.noteAll
  rw [List.append_nil]

/-- Chunks that go through are noted, and then come the others. -/
theorem writeChunks_of_passes {channel : Numbered κ} {sent : List Bytes} {w w₁ : W}
    (h : p.backend.Passes channel.channel sent w w₁) (rest : List Bytes) (j : Journal ι) :
    writeChunks (p.journaled.backend.write channel) (sent ++ rest) (w, j)
      = writeChunks (p.journaled.backend.write channel) rest
          (w₁, j.noteAll (sent.map (Backend.passed channel))) := by
  induction h generalizing j with
  | nil =>
    rw [List.map_nil, noteAll_nil]
    rfl
  | @cons chunk others w w₁ w₂ hwrite hrest ih =>
    rw [List.cons_append, writeChunks_cons, write_journaled, hwrite]
    show writeChunks (p.journaled.backend.write channel) (others ++ rest)
      (w₁, j.noteAll [Backend.passed channel chunk]) = _
    rw [ih, noteAll_noteAll]
    rfl

theorem send_of_sends {channel : Numbered κ} {stream : Stream} {result : Outcome Unit}
    {deeds : List (Deed ι)} {w w' : W} (h : p.backend.Sends channel stream w result deeds w')
    (j : Journal ι) :
    p.journaled.backend.send channel stream (w, j) = (result, (w', j.noteAll deeds)) := by
  unfold Backend.send
  rw [writeStream_eq]
  cases h with
  | @broke sent rest chunk e w₁ _ hchunks hsent hwrite =>
    rw [hchunks, writeChunks_of_passes hsent, writeChunks_cons, write_journaled, hwrite,
      ← noteAll_noteAll]
    rfl
  | @flushed _ w₁ _ hsent hflush =>
    have hall := writeChunks_of_passes hsent [] j
    rw [List.append_nil] at hall
    rw [hall, ← noteAll_noteAll]
    show p.journaled.backend.flush channel (w₁, _) = _
    rw [flush_journaled, hflush]
    rfl

/-- Either all chunks go through, or there is a first one that fails. -/
theorem passes_or_fails (p : Printer (StateM W) ι κ ρ) (channel : κ) (chunks : List Bytes) (w : W) :
    (∃ w', p.backend.Passes channel chunks w w')
      ∨ ∃ sent chunk rest e w₁ w₂, chunks = sent ++ chunk :: rest ∧ p.backend.Passes channel sent w w₁
        ∧ p.backend.write channel chunk w₁ = (.error e, w₂) := by
  induction chunks generalizing w with
  | nil => exact .inl ⟨w, .nil⟩
  | cons chunk rest ih =>
    rcases hwrite : p.backend.write channel chunk w with ⟨result, w'⟩
    cases result with
    | error e => exact .inr ⟨[], chunk, rest, e, w, w', rfl, .nil, hwrite⟩
    | ok _ =>
      rcases ih w' with ⟨w'', hrest⟩ | ⟨sent, failed, others, e, w₁, w₂, rfl, hsent, hfail⟩
      · exact .inl ⟨w'', .cons hwrite hrest⟩
      · exact .inr ⟨chunk :: sent, failed, others, e, w₁, w₂, rfl, .cons hwrite hsent, hfail⟩

theorem sends_total (p : Printer (StateM W) ι κ ρ) (channel : Numbered κ) (stream : Stream)
    (w : W) : ∃ result deeds w', p.backend.Sends channel stream w result deeds w' := by
  rcases passes_or_fails p channel.channel stream.chunks w with
    ⟨w₁, hsent⟩ | ⟨sent, chunk, rest, e, w₁, w₂, hchunks, hsent, hwrite⟩
  · exact ⟨_, _, _, .flushed hsent rfl⟩
  · exact ⟨_, _, _, .broke hchunks hsent hwrite⟩

-- ============================================================= printing

/-- A job that is not costly is the same stream in every world. -/
theorem exists_stream {job : Job} (hread : job.IsReadable) (hcheap : job.isCostly ≠ true) :
    ∃ stream, ∀ w, p.stream job w = (.ok stream, w) := by
  cases job with
  | bytes content => exact ⟨_, fun w => (Prepares.bytes (p := p)).eq⟩
  | markup text trailer => exact ⟨_, fun w => (Prepares.markup (p := p)).eq⟩
  | raw payload =>
    obtain ⟨content, hcontent⟩ := hread
    exact ⟨_, fun w => (Prepares.raw (p := p) hcontent).eq⟩
  | image locator max => exact absurd rfl hcheap
  | qr text size => exact absurd rfl hcheap

/-- A job looks for the channel once, whether it is checked before it is
prepared or not; for what the check has found is still there when the job is
written. -/
theorem eval_print_eq {job : Job} (hread : job.IsReadable) (s : Situation W ι κ ρ) :
    eval (p.print job) s =
      match eval p.channel s with
      | (.error e, s') => (.error e, s')
      | (.ok channel, s') =>
        match p.stream job s'.2 with
        | (.error e, w) => (.error e, (s'.1, w))
        | (.ok stream, w) =>
          match p.backend.send channel stream w with
          | (.ok _, w') => (.ok (), (s'.1, w'))
          | (.error e, w') =>
            (.error e, (⟨s'.1.initialized, .ready⟩, p.hangUp s'.1.connection w')) := by
  rw [eval_print]
  by_cases hcostly : job.isCostly = true
  · -- a costly job looks for the channel twice, but finds it at once then
    rw [if_pos hcostly, eval_preflight]
    rcases h : eval p.channel s with ⟨outcome, s'⟩
    cases outcome with
    | error e => rfl
    | ok channel =>
      have hfound : ∀ w, eval p.channel (s'.1, w) = (.ok channel, (s'.1, w)) := by
        intro w
        obtain ⟨id, record, hc⟩ := connected_of_channel h
        rw [eval_channel, hc]
      dsimp only [Except.map]
      rcases p.stream job s'.2 with ⟨outcome, w⟩
      cases outcome with
      | error e => rfl
      | ok stream =>
        rcases hsend : p.backend.send channel stream w with ⟨result, w'⟩
        cases result <;> simp only [eval_write, hfound, hsend]
  · -- any other job is the same, no matter when it is prepared
    obtain ⟨stream, hstream⟩ := exists_stream (p := p) hread hcostly
    rw [if_neg hcostly]
    dsimp only
    rw [hstream]
    dsimp only
    rw [eval_write]
    rcases eval p.channel s with ⟨outcome, s'⟩
    cases outcome with
    | error e => rfl
    | ok channel =>
      rcases hsend : p.backend.send channel stream s'.2 with ⟨result, w'⟩
      cases result <;> simp only [hstream, hsend]

/-- A job that is prepared, and has a channel, is sent through it. -/
theorem eval_print_of_prepares {job : Job} {channel : Numbered κ} {stream : Stream}
    {session : Session ι (Numbered κ) ρ} {w w' : W} {j : Journal ι}
    (hseek : p.backend.Seeks s (.ok channel) (session, (w, j)))
    (hjob : Prepares p job w (.ok stream) w') :
    eval (p.journaled.print job) s =
      match p.journaled.backend.send channel stream (w', j) with
      | (.ok _, u) => (.ok (), (session, u))
      | (.error e, u) =>
        (.error e, (⟨session.initialized, .ready⟩, p.journaled.hangUp session.connection u)) := by
  rw [eval_print_eq hjob.isReadable, eval_channel_of_seeks hseek]
  dsimp only
  rw [stream_journaled, hjob.eq]
  rcases hsend : p.journaled.backend.send channel stream (w', j) with ⟨result, u⟩
  cases result <;> simp only [hsend]

/-- A job whose payload cannot be read is refused at once. -/
theorem eval_print_unreadable {payload : String} {fault : Base64.Fault}
    (h : Base64.decodeText payload.toList = .error fault) (s : Situation W ι κ ρ) :
    eval (p.print (.raw payload)) s = (.error fault.error, s) := by
  have hstream : p.stream (.raw payload) s.2 = (.error fault.error, s.2) := by
    show ((payloadBytes payload).map Stream.single, s.2) = _
    unfold payloadBytes
    rw [h]
    rfl
  rw [eval_print, if_neg (show ¬ (Job.raw payload).isCostly = true from nofun)]
  dsimp only
  rw [hstream]

theorem printed_total (p : Printer (StateM W) ι κ ρ) (job : Job)
    (s : Situation (W × Journal ι) ι (Numbered κ) ρ) :
    ∃ outcome s', Printed p job s outcome s' := by
  by_cases hread : job.IsReadable
  · obtain ⟨outcome, ⟨session, w, j⟩, hseek⟩ := seeks_total p s
    cases outcome with
    | error e => exact ⟨_, _, .unsent hread hseek⟩
    | ok channel =>
      obtain ⟨outcome, w₁, hjob⟩ := prepares_total p hread w
      cases outcome with
      | error e => exact ⟨_, _, .unprepared hseek hjob⟩
      | ok stream =>
        obtain ⟨result, deeds, w₂, hsend⟩ := sends_total p channel stream w₁
        cases result with
        | error e => exact ⟨_, _, .broken hseek hjob hsend⟩
        | ok _ => exact ⟨_, _, .done hseek hjob hsend⟩
  · cases job with
    | raw payload =>
      cases h : Base64.decodeText payload.toList with
      | error fault => exact ⟨_, _, .unreadable h⟩
      | ok content => exact absurd ⟨content, h⟩ hread
    | _ => exact absurd trivial hread

variable [DecidableEq ι]

theorem respond_print (p : Printer (StateM W) ι κ ρ) (job : Job) (s : Situation W ι κ ρ) :
    p.respond (.print job) s
      = ((eval (p.print job) s).1.map fun _ => .done, (eval (p.print job) s).2) := by
  rw [respond_eq_eval]
  show eval (p.print job >>= fun _ => pure Reply.done) s = _
  rw [eval_bind]
  rcases eval (p.print job) s with ⟨outcome, s'⟩
  cases outcome <;> rfl

/-- Without a channel a print job fails, and nothing comes after that. -/
theorem respond_print_of_error {p : Printer (StateM W) ι κ ρ} {job : Job} (hread : job.IsReadable)
    {s s' : Situation W ι κ ρ} {e : PrinterError} (h : eval p.channel s = (.error e, s')) :
    p.respond (.print job) s = (.error e, s') := by
  rw [respond_print, eval_print_eq hread, h]
  rfl

/-- Bytes for which there is a channel are written as one chunk. -/
theorem respond_print_bytes {p : Printer (StateM W) ι κ ρ} {content : Bytes} {channel : κ}
    {s s' : Situation W ι κ ρ} {w w' : W} (h : eval p.channel s = (.ok channel, s'))
    (hwrite : p.backend.write channel content s'.2 = (.ok (), w))
    (hflush : p.backend.flush channel w = (.ok (), w')) :
    p.respond (.print (.bytes content)) s = (.ok .done, (s'.1, w')) := by
  have hsend : p.backend.send channel (.single content) s'.2 = (.ok (), w') := by
    unfold Backend.send
    rw [writeStream_eq]
    show (match writeChunks (p.backend.write channel) [content] s'.2 with
      | (.ok _, w) => p.backend.flush channel w
      | (.error e, w) => (.error e, w)) = _
    rw [writeChunks_cons, hwrite]
    exact hflush
  rw [respond_print, eval_print_eq (show (Job.bytes content).IsReadable from trivial), h]
  dsimp only
  rw [(Prepares.bytes (p := p)).eq]
  dsimp only
  rw [hsend]
  rfl

theorem Printed.eq {job : Job} {outcome : Outcome Reply} (h : Printed p job s outcome s') :
    p.journaled.respond (.print job) s = (outcome, s') := by
  rw [respond_print]
  cases h with
  | unreadable h =>
    rw [eval_print_unreadable h]
    rfl
  | unsent hread hseek =>
    rw [eval_print_eq hread, eval_channel_of_seeks hseek]
    rfl
  | unprepared hseek hjob =>
    rw [eval_print_eq hjob.isReadable, eval_channel_of_seeks hseek]
    dsimp only
    rw [stream_journaled, hjob.eq]
    rfl
  | done hseek hjob hsend =>
    rw [eval_print_of_prepares hseek hjob, send_of_sends hsend]
    rfl
  | broken hseek hjob hsend =>
    obtain ⟨id, record, hc⟩ := connected_of_channel (eval_channel_of_seeks hseek)
    rw [eval_print_of_prepares hseek hjob, send_of_sends hsend]
    dsimp only
    -- the channel that failed is closed
    rw [hc, ← noteAll_noteAll]
    rfl

/-- The table is right, and nothing is missing from it. -/
theorem printed_iff {job : Job} {outcome : Outcome Reply} :
    Printed p job s outcome s' ↔ p.journaled.respond (.print job) s = (outcome, s') := by
  constructor
  · exact Printed.eq
  · intro h
    obtain ⟨outcome₁, s₁, hprinted⟩ := printed_total p job s
    rw [hprinted.eq] at h
    cases h
    exact hprinted

-- ============================================================ attempts

omit [DecidableEq ι] in
/-- To look for the channel is to attempt at most once to open a device. -/
theorem seeks_attempts {outcome : Outcome (Numbered κ)} (h : p.backend.Seeks s outcome s') :
    ∃ deeds, s'.2.2.deeds = s.2.2.deeds ++ deeds ∧ deeds.countP Deed.isAttempt ≤ 1 := by
  cases h with
  | unconnected => exact ⟨[], (List.append_nil _).symm, Nat.zero_le 1⟩
  | connected => exact ⟨[], (List.append_nil _).symm, Nat.zero_le 1⟩
  | pending hpoll => exact ⟨[], (List.append_nil _).symm, Nat.zero_le 1⟩
  | denied hpoll => exact ⟨[], (List.append_nil _).symm, Nat.zero_le 1⟩
  | unopened hpoll hconnect => exact ⟨[.refused _ _], rfl, Nat.le_refl 1⟩
  | asked hpoll hconnect => exact ⟨[.prompted _], rfl, Nat.le_refl 1⟩
  | reopened hpoll hconnect => exact ⟨[.opened _ _], rfl, Nat.le_refl 1⟩

omit [DecidableEq ι] in
/-- Sending opens nothing. -/
theorem sends_attempts {channel : Numbered κ} {stream : Stream} {result : Outcome Unit}
    {deeds : List (Deed ι)} {w w' : W} (h : p.backend.Sends channel stream w result deeds w') :
    deeds.countP Deed.isAttempt = 0 := by
  have hpassed : ∀ chunks : List Bytes,
      (chunks.map (Backend.passed (ι := ι) channel)).countP Deed.isAttempt = 0 := by
    intro chunks
    rw [List.countP_map]
    exact List.countP_eq_zero.mpr fun _ _ => nofun
  cases h with
  | broke hchunks hsent hwrite => rw [List.countP_append, hpassed]; rfl
  | flushed hsent hflush => rw [List.countP_append, hpassed]; rfl

omit [DecidableEq ι] in
/-- A print job attempts at most once to open a device. -/
theorem Printed.attempts {job : Job} {outcome : Outcome Reply} (h : Printed p job s outcome s') :
    ∃ deeds, s'.2.2.deeds = s.2.2.deeds ++ deeds ∧ deeds.countP Deed.isAttempt ≤ 1 := by
  -- what is sent and what is closed comes after what was sought
  have hmore : ∀ {channel : Numbered κ} {session : Session ι (Numbered κ) ρ} {w : W}
      {j : Journal ι} {more : List (Deed ι)},
      p.backend.Seeks s (.ok channel) (session, (w, j)) → more.countP Deed.isAttempt = 0 →
      ∃ deeds, (j.noteAll more).deeds = s.2.2.deeds ++ deeds
        ∧ deeds.countP Deed.isAttempt ≤ 1 := by
    intro channel session w j more hseek hmore
    obtain ⟨deeds, hdeeds, hcount⟩ := seeks_attempts hseek
    refine ⟨deeds ++ more, ?_, ?_⟩
    · show j.deeds ++ more = _
      rw [show j.deeds = _ from hdeeds, List.append_assoc]
    · rw [List.countP_append, hmore]
      exact hcount
  cases h with
  | unreadable h => exact ⟨[], (List.append_nil _).symm, Nat.zero_le 1⟩
  | unsent hread hseek => exact seeks_attempts hseek
  | unprepared hseek hjob =>
    obtain ⟨deeds, hdeeds, hcount⟩ := seeks_attempts hseek
    exact ⟨deeds, hdeeds, hcount⟩
  | broken hseek hjob hsend =>
    refine hmore hseek ?_
    rw [List.countP_append, sends_attempts hsend]
    rfl
  | done hseek hjob hsend => exact hmore hseek (sends_attempts hsend)

end Printer

-- ============================================================= the result

/-- What a print job leads to, on every transport, from every situation, and
whatever fails.

With a journal kept, a print job does just what it does without one, and
`Printed` is the table of it. A job that finds no channel has the same
outcome with any pictures to fetch and any settings, and a job that finds a
request without an answer changes nothing at all if the transport is
patient. In memory it is. -/
theorem print_job_outcome [DecidableEq ι] (p : Printer (StateM W) ι κ ρ) (job : Job)
    (s : Situation (W × Journal ι) ι (Numbered κ) ρ) :
    let (outcome, s') := p.journaled.respond (.print job) s
    p.respond (.print job) s.forget = (outcome, s'.forget)
      ∧ (∀ outcome₁ s₁, p.Printed job s outcome₁ s₁ ↔ outcome₁ = outcome ∧ s₁ = s')
      ∧ (job.IsReadable → ∀ e s₁, p.backend.Seeks s (.error e) s₁ → ∀ settings fetch,
          (Printer.mk p.backend settings fetch).journaled.respond (.print job) s = (.error e, s₁))
      ∧ (p.backend.Patient → job.IsReadable → ∀ initialized id record request,
          s.1 = ⟨initialized, .awaiting id record request⟩ →
          (p.backend.poll request s.2.1).1.1 = .pending →
          outcome = .error Printer.stillWaiting ∧ s' = s)
      ∧ ∀ (kind : TransportKind) (F : Type), ((Memory.backend kind).beside F).Patient := by
  have hrespond := Printer.respond_journaled p (.print job) s
  obtain ⟨outcome, s', hprinted⟩ := Printer.printed_total p job s
  rw [hprinted.eq] at hrespond ⊢
  refine ⟨hrespond, ?_, ?_, ?_, fun kind F => Memory.patient_beside kind⟩
  · intro outcome₁ s₁
    rw [Printer.printed_iff, hprinted.eq, Prod.mk.injEq]
    exact ⟨fun h => ⟨h.1.symm, h.2.symm⟩, fun h => ⟨h.1.symm, h.2.symm⟩⟩
  · intro hread e s₁ hseek settings fetch
    exact (Printer.Printed.unsent (p := Printer.mk p.backend settings fetch) hread hseek).eq
  · intro hpatient hread initialized id record request hsession hstate
    obtain ⟨session, w, j⟩ := s
    cases hsession
    rcases hpoll : p.backend.poll request w with ⟨⟨state, request'⟩, w'⟩
    rw [hpoll] at hstate
    cases hstate
    obtain ⟨rfl, rfl⟩ := hpatient request w request' w' hpoll
    have heq := hprinted.eq.symm.trans (Printer.Printed.unsent hread (.pending hpoll)).eq
    exact ⟨congrArg Prod.fst heq, congrArg Prod.snd heq⟩

end ReceiptPrinter
