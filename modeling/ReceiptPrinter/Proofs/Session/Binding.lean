/-
What a session is bound to, in all situations.

A session is bound only on a transport that was found usable, and the
record it keeps is that of the device it is bound to, provided that the
transport is faithful: that it describes the device it was asked for. It is
patient if it lets a request alone until there is an answer.
-/
import ReceiptPrinter.Proofs.Session.Act

namespace ReceiptPrinter

variable {W ι κ ρ : Type}

/-- A session is bound to a device only on a transport that was found
usable. -/
def Session.Sound (session : Session ι κ ρ) : Prop :=
  session.connection ≠ .ready → session.initialized = true

/-- The record of a connection is that of the device it is bound to, as the
transport names it. -/
def Connection.Described (narrow : DeviceIdentity → Option ι) : Connection ι κ ρ → Prop
  | .ready => True
  | .awaiting id record _ => narrow record.identity = some id
  | .connected id record _ => narrow record.identity = some id

/-- The transport describes the device that was asked for. -/
def Backend.Faithful (b : Backend (StateM W) ι κ ρ) : Prop :=
  ∀ id w record link w', b.connect id w = (.ok (record, link), w') →
    b.narrow record.identity = some id

/-- A request that has not been answered stays as it is when it is looked
at. -/
def Backend.Patient (b : Backend (StateM W) ι κ ρ) : Prop :=
  ∀ request w request' w', b.poll request w = ((.pending, request'), w') →
    request' = request ∧ w' = w

theorem Connection.described_ofAttempt {b : Backend (StateM W) ι κ ρ} (hb : b.Faithful) {id : ι}
    {w w' : W} {outcome : Outcome (DeviceRecord × Link κ ρ)}
    (h : b.connect id w = (outcome, w')) :
    (Connection.ofAttempt id outcome).Described b.narrow := by
  cases outcome with
  | error e => trivial
  | ok opened =>
    obtain ⟨record, link⟩ := opened
    have hname := hb id w record link w' h
    cases link <;> exact hname

namespace Printer

variable {p : Printer (StateM W) ι κ ρ} {s s' : Situation W ι κ ρ}

theorem sound_act (h : Act p s s') (hs : s.1.Sound) : s'.1.Sound := by
  cases h with
  | prepared h => exact fun _ => rfl
  | unprepared h => exact hs
  | listed h => exact hs
  | fetched h => exact hs
  | polled h => exact fun _ => hs nofun
  | dropped => exact fun hc => absurd rfl hc
  | opened h => exact fun _ => rfl
  | reopened hpoll h => exact fun _ => hs nofun
  | closed h => exact fun hc => absurd rfl hc

theorem sound_transfer (h : Transfer p s s') (hs : s.1.Sound) : s'.1.Sound := by
  cases h <;> exact hs

theorem described_act (hb : p.backend.Faithful) (h : Act p s s')
    (hs : s.1.connection.Described p.backend.narrow) :
    s'.1.connection.Described p.backend.narrow := by
  cases h with
  | prepared h => exact hs
  | unprepared h => exact hs
  | listed h => exact hs
  | fetched h => exact hs
  | polled h => exact hs
  | dropped => trivial
  | opened h => exact Connection.described_ofAttempt hb h
  | reopened hpoll h => exact Connection.described_ofAttempt hb h
  | closed h => trivial

theorem described_transfer (h : Transfer p s s')
    (hs : s.1.connection.Described p.backend.narrow) :
    s'.1.connection.Described p.backend.narrow := by
  cases h <;> exact hs

end Printer

end ReceiptPrinter
