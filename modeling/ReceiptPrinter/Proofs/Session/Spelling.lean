/-
One address, one device.

Devices are compared by identity, wherever it matters which one is meant:
among the paired devices, when a device is selected, and when a connection is
given up for one device only. So all spellings of an address name the same
device there, and different addresses never do.
-/
import ReceiptPrinter.Bluetooth.Errand
import ReceiptPrinter.Bluetooth.Script
import ReceiptPrinter.Proofs.Device.Address
import ReceiptPrinter.Proofs.Session.Reach
import ReceiptPrinter.Proofs.Session.Select

namespace ReceiptPrinter

variable {W E κ : Type}

/-- The record of a device is found again under an identity exactly if that
is the identity of the device. -/
theorem find?_identity_iff {devices : List DeviceRecord} {record : DeviceRecord}
    {device other : DeviceIdentity} (h : devices.find? (·.identity == device) = some record) :
    devices.find? (·.identity == other) = some record ↔ device = other := by
  have hrecord : record.identity = device := by
    simpa using List.find?_some h
  constructor
  · intro hother
    have hidentity : record.identity = other := by
      simpa using List.find?_some hother
    exact hrecord.symm.trans hidentity
  · intro heq
    rw [← heq]
    exact h

/-- What callers are told of a connection that is bound to a device tells
whether it has a channel. -/
theorem Connection.exists_connected {ι ρ : Type} {c : Connection ι κ ρ} {id : ι}
    {record : DeviceRecord} (hbound : c.bound? = some id) (hstatus : c.status = .connected record) :
    ∃ channel, c = .connected id record channel := by
  cases c with
  | ready => cases hbound
  | awaiting current shown request => cases hstatus
  | connected current shown channel =>
    cases hbound
    cases hstatus
    exact ⟨channel, rfl⟩

namespace Printer

variable {ι ρ : Type} [DecidableEq ι] {p : Printer (StateM W) ι κ ρ} {id other : ι}
  {record : DeviceRecord} {channel : κ} {w : W}

/-- A connection is kept if its own device is selected. -/
theorem respond_select_connected :
    p.respond (.select id) (⟨true, .connected id record channel⟩, w)
      = (.ok (.device record), (⟨true, .connected id record channel⟩, w)) :=
  (Selects.kept .known).respond_eq

/-- If another device is selected, the connection is closed and the other
device is opened. -/
theorem respond_select_other (hother : id ≠ other) :
    let attempt := p.backend.connect other (p.backend.close channel w).2
    p.respond (.select other) (⟨true, .connected id record channel⟩, w)
      = (attempt.1.map fun opened => .device opened.1,
         (⟨true, .ofAttempt other attempt.1⟩, attempt.2)) := by
  intro attempt
  have hselect : p.Selects other (⟨true, .connected id record channel⟩, w)
      (attempt.1.map Prod.fst) (⟨true, .ofAttempt other attempt.1⟩, attempt.2) :=
    .attempted .known (.closed hother rfl) rfl
  rw [hselect.respond_eq]
  cases attempt.1 <;> rfl

theorem respond_closeIf_connected :
    p.respond (.closeIf id) (⟨true, .connected id record channel⟩, w)
      = (.ok (.closed true), (⟨true, .ready⟩, (p.backend.close channel w).2)) := by
  have hbound : (Connection.connected (ρ := ρ) id record channel).bound? = some id := rfl
  rw [respond_eq_eval, perform, Step.eval_bind, eval_closeIf, if_pos hbound]
  rfl

/-- Nothing is given up for another device. -/
theorem respond_closeIf_other (hother : id ≠ other) :
    p.respond (.closeIf other) (⟨true, .connected id record channel⟩, w)
      = (.ok (.closed false), (⟨true, .connected id record channel⟩, w)) := by
  have hbound : (Connection.connected (ρ := ρ) id record channel).bound? ≠ some other := by
    intro h
    exact hother (Option.some.inj h)
  rw [respond_eq_eval, perform, Step.eval_bind, eval_closeIf, if_neg hbound]
  rfl

end Printer

-- ============================================================= the result

/-- Addresses and the devices that they name, for all texts and wherever a
printer can come to.

A text is accepted exactly if it is an address; the length of its groups may
be counted in characters or in bytes. The device then has the address with
its letters in upper case, which is accepted and names the same device. Two
addresses name the same device exactly if they agree but for letter case, and
so it is where devices are compared. A paired device is found under its own
address only. A connection is kept when its own address is selected, and
given up when it is to be given up for that address; if another address is
selected, the connection is closed and that device is opened, and nothing is
given up for another address. -/
theorem one_device_per_address (p : Printer (StateM W) BleIdentity κ Empty) (nature : E → W → W)
    (w : W) :
    (∀ text : String,
        ((∃ id, BleIdentity.parse text = .ok id) ↔ IsAddress text.toList)
          ∧ (¬IsAddress text.toList →
              BleIdentity.parse text = .error (BleIdentity.NotMac.error ⟨text⟩))
          ∧ (IsAddress text.toList ↔ (Text.splitAt ':' text.toList).length = 6
              ∧ ∀ group ∈ Text.splitAt ':' text.toList,
                  (utf8 group).length = 2 ∧ ∀ c ∈ group, c ∈ hexSigns))
      ∧ (∀ text id, BleIdentity.parse text = .ok id →
          id.mac.toList = text.toList.map Char.toUpper ∧ isMac id.mac.toList = true
            ∧ BleIdentity.parse id.mac = .ok id)
      ∧ ∀ a b A B, BleIdentity.parse a = .ok A → BleIdentity.parse b = .ok B →
          let same := Text.lowerAscii a.toList = Text.lowerAscii b.toList
          (A = B ↔ same)
            ∧ (∀ (devices : List DeviceRecord) (record : DeviceRecord),
                devices.find? (·.identity == .ble A) = some record →
                (devices.find? (·.identity == .ble B) = some record ↔ same))
            ∧ ∀ s record channel, p.Reaches nature w s →
                s.1.connection = .connected A record channel →
                (same → p.respond (.select B) s = (.ok (.device record), s))
                  ∧ (¬same → ∃ outcome w',
                      p.backend.connect B (p.backend.close channel s.2).2 = (outcome, w')
                        ∧ p.respond (.select B) s
                          = (outcome.map fun opened => .device opened.1,
                             (⟨true, .ofAttempt B outcome⟩, w')))
                  ∧ (same → p.respond (.closeIf B) s
                      = (.ok (.closed true),
                         ({ s.1 with connection := .ready }, (p.backend.close channel s.2).2)))
                  ∧ (¬same → p.respond (.closeIf B) s = (.ok (.closed false), s)) := by
  refine ⟨fun text => ⟨?_, BleIdentity.parse_of_not_isAddress, isAddress_iff_inBytes⟩,
    fun text id hparse => ?_, fun a b A B hA hB => ?_⟩
  · simp [BleIdentity.parse_eq_ok_iff]
  · obtain ⟨haddress, rfl⟩ := BleIdentity.parse_eq_ok_iff.mp hparse
    exact ⟨BleIdentity.mac_ofText haddress, isMac_iff.mpr (BleIdentity.isAddress_mac haddress),
      BleIdentity.parse_mac haddress⟩
  · intro same
    have hsame : A = B ↔ same := BleIdentity.eq_iff_of_parse hA hB
    refine ⟨hsame, fun devices record hfind => ?_, fun s record channel hreaches hc => ?_⟩
    · rw [find?_identity_iff hfind, ← hsame, DeviceIdentity.ble.injEq]
    · obtain ⟨⟨initialized, c⟩, w'⟩ := s
      cases hc
      have husable : initialized = true := Printer.sound_reaches hreaches nofun
      subst husable
      refine ⟨fun h => ?_, fun h => ?_, fun h => ?_, fun h => ?_⟩
      · rw [← hsame.mpr h]
        exact Printer.respond_select_connected
      · have hne : A ≠ B := mt hsame.mp h
        exact ⟨_, _, rfl, Printer.respond_select_other hne⟩
      · rw [← hsame.mpr h]
        exact Printer.respond_closeIf_connected
      · have hne : A ≠ B := mt hsame.mp h
        exact Printer.respond_closeIf_other hne

/-- A device that was selected in capitals is selected once more in small
letters, and nothing happens. -/
theorem selected_in_small_letters :
    let p := Bluetooth.printer Bluetooth.Script.host .default fun _ => return .error .notConnected
    let nature : Empty → Bluetooth.Script.Scene → Bluetooth.Script.Scene :=
      fun change => change.elim
    let A := BleIdentity.ofText "00:11:62:AA:BB:CC"
    let B := BleIdentity.ofText "00:11:62:aa:bb:cc"
    let s := p.live nature
      (.fresh (.pairedWith "Device 00:11:62:AA:BB:CC Star" "00:11:62:AA:BB:CC"))
      [.operation (.select A)]
    BleIdentity.parse "00:11:62:AA:BB:CC" = .ok A ∧ BleIdentity.parse "00:11:62:aa:bb:cc" = .ok B
      ∧ s.1.connection.bound? = some A
      ∧ p.respond (.select B) s = (.ok (.device ⟨"Star", .ble A⟩), s) := by
  intro p nature A B s
  have hA : BleIdentity.parse "00:11:62:AA:BB:CC" = .ok A :=
    BleIdentity.parse_of_isAddress (by decide)
  have hB : BleIdentity.parse "00:11:62:aa:bb:cc" = .ok B :=
    BleIdentity.parse_of_isAddress (by decide)
  have hshown : s.1.connection.bound? = some A
      ∧ s.1.connection.status = .connected ⟨"Star", .ble A⟩ := by
    decide +kernel
  have hreaches : p.Reaches nature _ s := .inl ⟨_, rfl⟩
  obtain ⟨channel, hc⟩ := Connection.exists_connected hshown.1 hshown.2
  obtain ⟨-, -, htwo⟩ := one_device_per_address p nature
    (.pairedWith "Device 00:11:62:AA:BB:CC Star" "00:11:62:AA:BB:CC")
  obtain ⟨-, -, hsession⟩ := htwo _ _ A B hA hB
  obtain ⟨hkept, -⟩ := hsession s _ channel hreaches hc
  exact ⟨hA, hB, hshown.1, hkept (by decide)⟩

end ReceiptPrinter
