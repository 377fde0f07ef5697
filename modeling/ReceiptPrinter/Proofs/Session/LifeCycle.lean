/-
The life cycle of a channel.

A channel is open exactly as long as the session is connected through it.
`Kept` is the invariant: the channels that the journal shows as opened and
not closed again are the one that the session holds, if it holds one, and
every deed in the journal was in order when it was done. It is enough to
look at each act and each transfer once (`kept_act`, `kept_transfer`); the
rest is `live_keep`.
-/
import ReceiptPrinter.Proofs.Session.Journaled
import ReceiptPrinter.Proofs.Transport.Memory

namespace ReceiptPrinter

variable {W ι κ ρ E : Type}

-- ============================================================ the journal

namespace Deed

theorem unclosed_append (deeds : List (Deed ι)) (deed : Deed ι) :
    unclosed (deeds ++ [deed]) = deed.track (unclosed deeds) := by
  unfold unclosed
  rw [List.foldl_append, List.foldl_cons, List.foldl_nil]

/-- Only opening makes more channels open. -/
theorem mem_of_mem_track {deed : Deed ι} (hdeed : ∀ id number, deed ≠ .opened id number)
    {channels : List Nat} {number : Nat} (h : number ∈ deed.track channels) :
    number ∈ channels := by
  cases deed with
  | opened id n => exact absurd rfl (hdeed id n)
  | closed n => exact (List.mem_filter.mp h).1
  | prompted id => exact h
  | refused id reason => exact h
  | wrote n chunk result => exact h
  | flushed n result => exact h

end Deed

namespace Journal

/-- A journal stays orderly when a deed in order is noted. -/
theorem Orderly.note {j : Journal ι} (hj : j.Orderly) {deed : Deed ι}
    (h : deed.InOrder j.deeds) : (j.note deed).Orderly := by
  intro before d after hsplit
  -- the deed looked at is the new one, or one that was there before
  rcases List.eq_nil_or_concat after with rfl | ⟨init, last, rfl⟩
  · obtain ⟨rfl, hd⟩ := List.append_inj' hsplit rfl
    cases hd
    exact h
  · refine hj before d init ?_
    have hsplit' : j.deeds ++ [deed] = (before ++ d :: init) ++ [last] := by
      simpa [Journal.note] using hsplit
    exact (List.append_inj' hsplit' rfl).1

/-- What the journal and the connection have to do with each other. -/
structure Keeps (j : Journal ι) (c : Connection ι (Numbered κ) ρ) : Prop where
  /-- The open channel is the one that the session holds. -/
  unclosed : Deed.unclosed j.deeds = (c.channel?.map Numbered.number).toList
  orderly : j.Orderly
  /-- Numbers are given out in order. -/
  numbered : ∀ id number, .opened id number ∈ j.deeds → number < j.next
  numbered_unclosed : ∀ number ∈ Deed.unclosed j.deeds, number < j.next
  /-- What was closed is an old channel and is not open. -/
  shut : ∀ number, .closed number ∈ j.deeds →
    number < j.next ∧ number ∉ Deed.unclosed j.deeds

namespace Keeps

variable {j : Journal ι} {c c' : Connection ι (Numbered κ) ρ}

theorem blank : (blank : Journal ι).Keeps (.ready : Connection ι (Numbered κ) ρ) where
  unclosed := rfl
  orderly := by
    intro before deed after hsplit
    cases before <;> cases hsplit
  numbered := by
    intro id number h
    cases h
  numbered_unclosed := by
    intro number h
    cases h
  shut := by
    intro number h
    cases h

/-- A connection that holds no channel may be replaced by another one. -/
theorem idle (h : j.Keeps c) (hc : c.channel? = none) (hc' : c'.channel? = none) :
    j.Keeps c' where
  unclosed := by rw [h.unclosed, hc, hc']
  orderly := h.orderly
  numbered := h.numbered
  numbered_unclosed := h.numbered_unclosed
  shut := h.shut

theorem unclosed_eq_nil (h : j.Keeps c) (hc : c.channel? = none) :
    Deed.unclosed j.deeds = [] := by
  rw [h.unclosed, hc]
  rfl

/-- Any deed that is in order may be noted, as long as it opens nothing and
leaves open what the next connection holds. -/
theorem noted (h : j.Keeps c) {deed : Deed ι} (horder : deed.InOrder j.deeds)
    (hdeed : ∀ id number, deed ≠ .opened id number)
    (htrack : deed.track (Deed.unclosed j.deeds) = (c'.channel?.map Numbered.number).toList) :
    (j.note deed).Keeps c' := by
  have hunclosed : Deed.unclosed (j.note deed).deeds = deed.track (Deed.unclosed j.deeds) :=
    Deed.unclosed_append j.deeds deed
  -- nothing is open now that was not open before
  have hless : ∀ {number}, number ∈ Deed.unclosed (j.note deed).deeds →
      number ∈ Deed.unclosed j.deeds := fun hmem =>
    Deed.mem_of_mem_track hdeed (hunclosed ▸ hmem)
  refine ⟨hunclosed.trans htrack, h.orderly.note horder, ?_, ?_, ?_⟩
  · intro id number hmem
    rcases List.mem_append.mp hmem with hmem | hmem
    · exact h.numbered id number hmem
    · exact absurd (List.mem_singleton.mp hmem).symm (hdeed id number)
  · intro number hmem
    exact h.numbered_unclosed number (hless hmem)
  · intro number hmem
    rcases List.mem_append.mp hmem with hmem | hmem
    · exact ⟨(h.shut number hmem).1, fun hin => (h.shut number hmem).2 (hless hin)⟩
    · -- the deed itself closes a channel
      have hlast := List.mem_singleton.mp hmem
      subst hlast
      refine ⟨h.numbered_unclosed number horder.1, fun hin => ?_⟩
      rw [hunclosed] at hin
      simp [Deed.track] at hin

/-- While nothing is open, a device may be opened. -/
theorem opened (h : j.Keeps c) (hc : c.channel? = none) (id : ι) (record : DeviceRecord)
    (channel : κ) :
    { j.note (.opened id j.next) with next := j.next + 1 }.Keeps
      (.connected id record ⟨j.next, channel⟩ : Connection ι (Numbered κ) ρ) := by
  have hopen := h.unclosed_eq_nil hc
  -- the number is given out for the first time
  have hnew : ∀ id, .opened id j.next ∉ j.deeds := fun id hmem =>
    Nat.lt_irrefl _ (h.numbered id j.next hmem)
  have hunclosed : Deed.unclosed (j.deeds ++ [.opened id j.next]) = [j.next] := by
    rw [Deed.unclosed_append, hopen]
    rfl
  refine ⟨hunclosed, h.orderly.note ⟨hopen, hnew⟩, ?_, ?_, ?_⟩
  · intro id' number hmem
    rcases List.mem_append.mp hmem with hmem | hmem
    · exact Nat.lt_succ_of_lt (h.numbered id' number hmem)
    · cases List.mem_singleton.mp hmem
      exact Nat.lt_succ_self j.next
  · intro number hmem
    change number ∈ Deed.unclosed (j.deeds ++ [.opened id j.next]) at hmem
    rw [hunclosed, List.mem_singleton] at hmem
    rw [hmem]
    exact Nat.lt_succ_self j.next
  · intro number hmem
    rcases List.mem_append.mp hmem with hmem | hmem
    · have hold := (h.shut number hmem).1
      refine ⟨Nat.lt_succ_of_lt hold, fun hin => ?_⟩
      change number ∈ Deed.unclosed (j.deeds ++ [.opened id j.next]) at hin
      rw [hunclosed, List.mem_singleton] at hin
      exact Nat.ne_of_lt hold hin
    · cases List.mem_singleton.mp hmem

/-- What is noted of an attempt to open a device fits what it leads to. -/
theorem attempted (h : j.Keeps c) (hc : c.channel? = none) (id : ι)
    (outcome : Outcome (DeviceRecord × Link κ ρ)) :
    (j.noteOpen id outcome).2.Keeps
      (.ofAttempt id (j.noteOpen id outcome).1 : Connection ι (Numbered κ) ρ) := by
  have hopen := h.unclosed_eq_nil hc
  cases outcome with
  | error reason => exact h.noted hopen nofun hopen
  | ok opened =>
    obtain ⟨record, link⟩ := opened
    cases link with
    | channel channel => exact h.opened hc id record channel
    | request request => exact h.noted hopen nofun hopen

/-- The channel that the session holds may be used. -/
theorem usable {id : ι} {record : DeviceRecord} {channel : Numbered κ}
    (h : j.Keeps (.connected id record channel : Connection ι (Numbered κ) ρ)) :
    channel.number ∈ Deed.unclosed j.deeds ∧ .closed channel.number ∉ j.deeds := by
  have hopen : channel.number ∈ Deed.unclosed j.deeds := by
    rw [h.unclosed]
    exact List.mem_singleton_self _
  exact ⟨hopen, fun hshut => (h.shut _ hshut).2 hopen⟩

end Keeps

end Journal

-- ========================================================== the invariant

/-- The journal of a printer fits its session. -/
def Kept (s : Situation (W × Journal ι) ι (Numbered κ) ρ) : Prop :=
  s.2.2.Keeps s.1.connection

theorem kept_fresh (w : W) :
    Kept (Situation.fresh (w, Journal.blank) : Situation (W × Journal ι) ι (Numbered κ) ρ) :=
  Journal.Keeps.blank

namespace Printer

variable {p : Printer (StateM W) ι κ ρ} {s s' : Situation (W × Journal ι) ι (Numbered κ) ρ}

theorem journal_aside {α : Type} {x : StateM W α} {w w' : W × Journal ι} {a : α}
    (h : Journal.aside x w = (a, w')) : w'.2 = w.2 := by
  cases h
  rfl

/-- What is done beside the journal does not concern the channels. -/
theorem kept_aside {session session' : Session ι (Numbered κ) ρ} {α : Type} {x : StateM W α}
    {w w' : W × Journal ι} {a : α} (h : Journal.aside x w = (a, w'))
    (hc : session'.connection = session.connection) (hs : Kept (session, w)) :
    Kept (session', w') := by
  unfold Kept at hs ⊢
  rw [journal_aside h, hc]
  exact hs

/-- Each act leaves open exactly what the session holds. -/
theorem kept_act (h : Act p.journaled s s') (hs : Kept s) : Kept s' := by
  cases h with
  | prepared h => exact kept_aside h rfl hs
  | unprepared h => exact kept_aside h rfl hs
  | listed h => exact kept_aside h rfl hs
  | fetched h => exact kept_aside h rfl hs
  | polled h =>
    unfold Kept at hs ⊢
    rw [journal_aside h]
    exact hs.idle rfl rfl
  | dropped => exact hs.idle rfl rfl
  | @opened id outcome w w' h =>
    cases h
    exact hs.attempted rfl id (p.backend.connect id w.1).1
  | @reopened _ id _ _ _ outcome w w₁ w₂ hpoll h =>
    unfold Kept at hs ⊢
    rw [← journal_aside hpoll] at hs
    cases h
    exact hs.attempted rfl id (p.backend.connect id w₁.1).1
  | closed h =>
    cases h
    refine hs.noted hs.usable nofun ?_
    rw [hs.unclosed]
    simp [Deed.track, Connection.channel?]

theorem kept_transfer (h : Transfer p.journaled s s') (hs : Kept s) : Kept s' := by
  cases h with
  | wrote h =>
    cases h
    exact hs.noted hs.usable nofun hs.unclosed
  | flushed h =>
    cases h
    exact hs.noted hs.usable nofun hs.unclosed

theorem kept_live [DecidableEq ι] (p : Printer (StateM W) ι κ ρ) (nature : E → W → W) (w : W)
    (life : List (Happening ι E)) :
    Kept (p.journaled.live (Journal.beside nature) (.fresh (w, .blank)) life) := by
  refine live_keep (P := Kept) kept_act kept_transfer ?_ life (kept_fresh w)
  -- the world changes by itself, but the journal does not
  intro session world change hs
  exact hs

end Printer

-- ============================================================= the result

open Printer in
/-- The life cycle of channels, on every transport and through every life.

With a journal kept, the printer does just what it does without one. The
channels opened and not closed are then exactly the one that the session
holds, and every open, write, flush and close was in order when it was
done. A session is bound only on a transport that was found usable, and to
the device that its record describes. In memory, the channels opened are
those closed and the one that is held. -/
theorem channel_life_cycle [DecidableEq ι] (p : Printer (StateM W) ι κ ρ) (nature : E → W → W)
    (w : W) (life : List (Happening ι E)) :
    let s := p.live nature (.fresh w) life
    let t := p.journaled.live (Journal.beside nature) (.fresh (w, .blank)) life
    t.forget = s
      ∧ Deed.unclosed t.2.2.deeds = (t.1.connection.channel?.map Numbered.number).toList
      ∧ t.2.2.Orderly
      ∧ (s.1.connection ≠ .ready → s.1.initialized = true)
      ∧ (p.backend.Faithful → s.1.connection.Described p.backend.narrow)
      ∧ ∀ (kind : TransportKind) (settings : Settings) (F : Type)
          (fetch : String → StateM F (Outcome PixelMatrix)) (f : F)
          (devices : List DeviceRecord) (gated : Bool)
          (life : List (Happening DeviceIdentity Memory.Provocation)),
          let m := Memory.printer kind settings fetch
          let u := m.live Memory.provoke (.fresh (.fresh kind devices gated, f)) life
          m.backend.Faithful
            ∧ u.2.1.opens = u.2.1.closes + (if u.1.connection.channel?.isSome then 1 else 0) := by
  intro s t
  have hkept : Kept t := kept_live p nature w life
  have hsound : s.1.Sound := by
    refine live_keep (P := fun s => s.1.Sound) (p := p) sound_act sound_transfer ?_ life ?_
    · intro session w change hs
      exact hs
    · intro hc
      exact absurd rfl hc
  refine ⟨(live_journaled p nature life _).symm, hkept.unclosed, hkept.orderly, hsound, ?_, ?_⟩
  · intro hb
    refine live_keep (P := fun s => s.1.connection.Described p.backend.narrow) (p := p)
      (described_act hb) described_transfer ?_ life ?_
    · intro session world change hs
      exact hs
    · exact trivial
  · intro kind settings F fetch f devices gated life m u
    refine ⟨Memory.faithful_beside kind, ?_⟩
    have htally : Memory.Tallied u.2.1 u.1.connection := Memory.tallied_live devices gated f life rfl
    rw [htally.opens]
    cases u.1.connection.channel? <;> rfl

end ReceiptPrinter
