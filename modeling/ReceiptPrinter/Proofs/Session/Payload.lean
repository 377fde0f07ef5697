/-
Raw payloads.

A payload in base64 is nothing but another way to say bytes: whoever prints
it, in whatever situation, gets what printing the bytes would get. A payload
that is not base64 is refused without a look at the session.
-/
import ReceiptPrinter.Proofs.Base64.Reading
import ReceiptPrinter.Proofs.Session.Outcome

namespace ReceiptPrinter

variable {W ι κ ρ : Type}

/-- A job of one chunk writes it once, and nothing else. -/
theorem Backend.Sends.single {b : Backend (StateM W) ι κ ρ} {channel : Numbered κ}
    {content : Bytes} {result : Outcome Unit} {deeds : List (Deed ι)} {w w' : W}
    (h : b.Sends channel (.single content) w result deeds w') :
    ∃ answer after, deeds = .wrote channel.number content answer :: after
      ∧ (∀ number chunk answer, .wrote number chunk answer ∉ after)
      ∧ (answer = .ok () ∨ ∃ e, answer = .error e ∧ result = .error e) := by
  cases h with
  | @broke sent rest chunk e w₁ _ hchunks hsent hwrite =>
    cases sent with
    | nil =>
      cases hchunks
      exact ⟨.error e, [], rfl, by simp, .inr ⟨e, rfl, rfl⟩⟩
    | cons first more =>
      -- there is no second chunk
      obtain ⟨-, hmore⟩ := List.cons.inj hchunks
      simp at hmore
  | flushed hsent hflush =>
    exact ⟨.ok (), [.flushed channel.number result], rfl, by simp, .inl rfl⟩

namespace Printer

theorem stream_raw {p : Printer (StateM W) ι κ ρ} {payload : String} {content : Bytes}
    (h : Base64.Reads (Base64.compact payload.toList) content) :
    p.stream (.raw payload) = p.stream (.bytes content) := by
  have hdecode := Base64.decodeText_eq_ok_iff.mpr h
  funext w
  rw [(Prepares.raw hdecode).eq, Prepares.bytes.eq]

theorem eval_print_raw {p : Printer (StateM W) ι κ ρ} {payload : String} {content : Bytes}
    (h : Base64.Reads (Base64.compact payload.toList) content) (s : Situation W ι κ ρ) :
    Step.eval (p.print (.raw payload)) s = Step.eval (p.print (.bytes content)) s := by
  rw [eval_print, eval_print, stream_raw h]
  rfl

variable [DecidableEq ι] {p : Printer (StateM W) ι κ ρ}
  {s s' : Situation (W × Journal ι) ι (Numbered κ) ρ} {job : Job} {outcome : Outcome Reply}

/-- A job that is one chunk, and finds a channel, writes this chunk and no
other. If the chunk fails, the job fails with it. -/
theorem respond_single {content : Bytes} {channel : Numbered κ}
    {session : Session ι (Numbered κ) ρ} {w : W} {j : Journal ι}
    (hseek : p.backend.Seeks s (.ok channel) (session, (w, j)))
    (hjob : Prepares p job w (.ok (.single content)) w)
    (h : p.journaled.respond (.print job) s = (outcome, s')) : ∃ answer after,
    s'.2.2.deeds = j.deeds ++ Deed.wrote channel.number content answer :: after
      ∧ (∀ number chunk answer, Deed.wrote number chunk answer ∉ after)
      ∧ (answer = .ok () ∨ ∃ e, answer = .error e ∧ outcome = .error e) := by
  obtain ⟨result, deeds, w', hsend⟩ := sends_total p channel (.single content) w
  obtain ⟨answer, after, rfl, hafter, hanswer⟩ := hsend.single
  cases result with
  | ok _ =>
    rw [(Printed.done hseek hjob hsend).eq] at h
    cases h
    refine ⟨answer, after, rfl, hafter, ?_⟩
    rcases hanswer with hanswer | ⟨e, -, hresult⟩
    · exact .inl hanswer
    · cases hresult
  | error e =>
    rw [(Printed.broken hseek hjob hsend).eq] at h
    cases h
    refine ⟨answer, after ++ [.closed channel.number], rfl, ?_, ?_⟩
    · intro number chunk answer hmem
      rcases List.mem_append.mp hmem with hmem | hmem
      · exact hafter number chunk answer hmem
      · cases List.mem_singleton.mp hmem
    · rcases hanswer with hanswer | ⟨e', hanswer, hresult⟩
      · exact .inl hanswer
      · cases hresult
        exact .inr ⟨e, hanswer, rfl⟩

end Printer

/-- A raw payload is a way to say bytes.

Whatever is written in base64, with padding or without, and spread out with
blanks, stands for what was written. The job of a payload that stands for
bytes is the job of these bytes, in every situation, on every transport and
among any other operations: without a channel it fails as they do and writes
nothing, and otherwise it writes just these bytes, in one chunk, also if
there are none. A payload that stands for nothing is refused, and nothing
changes: neither the session with the request that it may wait for, nor the
world with its channels. -/
theorem raw_job_is_bytes_job [DecidableEq ι] (p : Printer (StateM W) ι κ ρ) (payload : String) :
    (∀ content form, Base64.IsForm content form → Base64.Spread form (utf8 payload.toList) →
        Base64.Reads (Base64.compact payload.toList) content)
      ∧ (∀ content, Base64.Reads (Base64.compact payload.toList) content →
          (∀ s, p.respond (.print (.raw payload)) s = p.respond (.print (.bytes content)) s)
          ∧ (Task.started (.print (.raw payload))).step p
              = (Task.started (.print (.bytes content))).step p
          ∧ ∀ (s s' : Situation (W × Journal ι) ι (Numbered κ) ρ) outcome,
              p.journaled.respond (.print (.raw payload)) s = (outcome, s') →
              (∀ e s₁, p.backend.Seeks s (.error e) s₁ → outcome = .error e ∧ s' = s₁)
              ∧ ∀ channel s₁, p.backend.Seeks s (.ok channel) s₁ → ∃ answer after,
                  s'.2.2.deeds
                      = s₁.2.2.deeds ++ Deed.wrote channel.number content answer :: after
                    ∧ (∀ number chunk answer, Deed.wrote number chunk answer ∉ after)
                    ∧ (answer = .ok () ∨ ∃ e, answer = .error e ∧ outcome = .error e))
      ∧ ((∀ content, ¬ Base64.Reads (Base64.compact payload.toList) content) →
          ∃ fault : Base64.Fault, ∀ s, p.respond (.print (.raw payload)) s
            = (.error (.invalidArgument s!"invalid base64 payload: {fault.message}"), s)) := by
  refine ⟨fun content form hform hspread => .of_spread hform hspread,
    fun content hreads => ⟨fun s => ?_, ?_, fun s s' outcome hrespond => ⟨?_, ?_⟩⟩,
    fun hnothing => ?_⟩
  · rw [Printer.respond_print, Printer.respond_print, Printer.eval_print_raw hreads]
  · show Task.after (Printer.attempt (p.stream (.raw payload))) .prepared = _
    rw [Printer.stream_raw hreads]
    rfl
  · intro e s₁ hseek
    have hread : (Job.raw payload).IsReadable := ⟨content, Base64.decodeText_eq_ok_iff.mpr hreads⟩
    rw [(Printer.Printed.unsent hread hseek).eq] at hrespond
    cases hrespond
    exact ⟨rfl, rfl⟩
  · intro channel ⟨session, w, j⟩ hseek
    have hjob := Printer.Prepares.raw (p := p) (w := w) (Base64.decodeText_eq_ok_iff.mpr hreads)
    exact Printer.respond_single hseek hjob hrespond
  · cases h : Base64.decodeText payload.toList with
    | ok content => exact absurd (Base64.decodeText_eq_ok_iff.mp h) (hnothing content)
    | error fault =>
      refine ⟨fault, fun s => ?_⟩
      rw [Printer.respond_print, Printer.eval_print_unreadable h]
      rfl

end ReceiptPrinter
