/-
What is read off a listing of paired devices.

Each line is read for itself, and blanks at its ends do not count; so a listing
that was written line by line is read back line by line, whatever else stands
between the devices. And what is listed can be opened: its address is valid, and
looked up in the same listing it is found.
-/
import ReceiptPrinter.Bluetooth.Row
import ReceiptPrinter.Proofs.Bluetooth.Verdict
import ReceiptPrinter.Proofs.Device.Address
import ReceiptPrinter.Proofs.Text.Blank
import ReceiptPrinter.Proofs.Text.Split
import Mathlib.Data.List.Basic

namespace ReceiptPrinter.Bluetooth

variable {mac name line text : List Char} {record : DeviceRecord}

-- ================================================================ one line

theorem recordOf_eq (h : IsAddress mac) (name : List Char) :
    recordOf mac name
      = ⟨String.ofList (if (Text.trim name).isEmpty then mac else Text.trim name),
          .ble (.ofText (String.ofList mac))⟩ := by
  unfold recordOf BleIdentity.ofText
  rw [String.toList_ofList, h.upper_eq]
  simp only [List.isEmpty_iff]

/-- What stands behind the word is read as an address, up to the first space,
and a name. -/
theorem deviceLine?_eq (line : List Char) :
    deviceLine? line = (Text.afterStart? deviceWord (Text.trim line)).bind fun rest =>
      let part := (Text.splitOnce? ' ' rest).getD (rest, [])
      if isMac part.1 then some (recordOf part.1 part.2) else none := by
  show (Text.afterStart? deviceWord (Text.trim line)).bind _ = _
  refine congrArg _ (funext fun rest => ?_)
  obtain ⟨mac, name⟩ := (Text.splitOnce? ' ' rest).getD (rest, [])
  unfold guard
  dsimp only
  by_cases hmac : isMac mac = true
  · rw [if_pos hmac, if_pos hmac, recordOf_eq (isMac_iff.mp hmac)]
    rfl
  · rw [if_neg hmac, if_neg hmac]
    rfl

/-- What is cut at the first space, if there is one. -/
theorem cut_iff {rest : List Char} (h : ' ' ∉ mac) :
    (Text.splitOnce? ' ' rest).getD (rest, []) = (mac, name)
      ↔ rest = mac ++ ' ' :: name ∨ (rest = mac ∧ name = []) := by
  cases hcut : Text.splitOnce? ' ' rest with
  | none =>
    have hspace := Text.splitOnce?_eq_none_iff.mp hcut
    have hnone : rest ≠ mac ++ ' ' :: name := fun hrest => hspace (by simp [hrest])
    simp [hnone, eq_comm]
  | some part =>
    obtain ⟨before, after⟩ := part
    obtain ⟨hbefore, hrest⟩ := Text.splitOnce?_eq_some_iff.mp hcut
    have hspace : rest ≠ mac := fun hsame => h (by simp [← hsame, hrest])
    simp only [Option.getD_some, hspace, false_and, or_false]
    constructor
    · intro hpart
      cases hpart
      exact hrest
    · intro hsame
      have hagain := Text.splitOnce?_eq_some_iff.mpr ⟨h, hsame⟩
      exact Option.some.inj (hcut.symm.trans hagain)

theorem space_not_mem (h : IsAddress mac) : ' ' ∉ mac := fun hmem =>
  absurd (h.mem hmem) (by decide)

/-- Exactly the lines of devices are read, each as it was written. -/
theorem deviceLine?_eq_some_iff :
    deviceLine? line = some record ↔ ∃ mac name, IsAddress mac ∧ record = recordOf mac name
      ∧ (Text.trim line = deviceWord ++ mac ++ ' ' :: name
          ∨ (Text.trim line = deviceWord ++ mac ∧ name = [])) := by
  rw [deviceLine?_eq]
  constructor
  · intro h
    obtain ⟨rest, hword, hrecord⟩ := Option.bind_eq_some_iff.mp h
    rw [Text.afterStart?_eq_some_iff] at hword
    cases hcut : (Text.splitOnce? ' ' rest).getD (rest, []) with
    | mk mac name =>
      simp only [hcut] at hrecord
      by_cases hmac : isMac mac = true
      · rw [if_pos hmac] at hrecord
        cases hrecord
        have haddress := isMac_iff.mp hmac
        refine ⟨mac, name, haddress, rfl, ?_⟩
        rw [hword, List.append_assoc]
        simpa using (cut_iff (space_not_mem haddress)).mp hcut
      · rw [if_neg hmac] at hrecord
        cases hrecord
  · intro h
    obtain ⟨mac, name, haddress, rfl, hline⟩ := h
    obtain ⟨rest, hword, hrest⟩ : ∃ rest, Text.trim line = deviceWord ++ rest
        ∧ (rest = mac ++ ' ' :: name ∨ (rest = mac ∧ name = [])) := by
      rcases hline with hline | ⟨hline, hname⟩
      · exact ⟨_, by rw [hline, List.append_assoc], .inl rfl⟩
      · exact ⟨_, hline, .inr ⟨rfl, hname⟩⟩
    rw [Text.afterStart?_eq_some_iff.mpr hword]
    simp [(cut_iff (space_not_mem haddress)).mpr hrest, isMac_iff.mpr haddress]

theorem deviceLine?_of_not_namesDevice (h : ¬NamesDevice line) : deviceLine? line = none := by
  cases hline : deviceLine? line with
  | none => rfl
  | some record =>
    obtain ⟨mac, name, haddress, -, htrim⟩ := deviceLine?_eq_some_iff.mp hline
    exact absurd ⟨mac, haddress, htrim.symm.imp And.left fun hname => ⟨name, hname⟩⟩ h

/-- Only the trimmed name counts. -/
theorem recordOf_trimBack (mac name : List Char) :
    recordOf mac (Text.trimBack name) = recordOf mac name := by
  unfold recordOf
  rw [Text.trim_trimBack]

/-- What remains of the line of a device when it is trimmed. -/
theorem trim_device {before after : List Char} (hbefore : Text.Blank before)
    (hafter : Text.Blank after) (hmac : IsAddress mac) (name : List Char) :
    Text.trim (before ++ (deviceWord ++ mac ++ ' ' :: name) ++ after)
      = deviceWord ++ mac ++ Text.trimBack (' ' :: name) := by
  have hfront : Text.trimFront (deviceWord ++ mac ++ ' ' :: name)
      = deviceWord ++ mac ++ ' ' :: name := Text.trimFront_cons (by decide) _
  rw [Text.trim_append _ hafter]
  unfold Text.trim
  rw [Text.trimFront_append hbefore, hfront]
  -- an address ends with what is no blank, and there the trimming stops
  rcases List.eq_nil_or_concat mac with hnil | ⟨digits, c, rfl⟩
  · exact absurd hnil hmac.ne_nil
  · have hstop : Text.isBlank c = false := hmac.not_isBlank c (by simp)
    have hback := Text.trimBack_append_cons hstop (deviceWord ++ digits) (' ' :: name)
    simpa using hback

/-- A space before a name is kept if there is a name. -/
theorem trimBack_space_cons (name : List Char) :
    Text.trimBack (' ' :: name)
      = if Text.trimBack name = [] then [] else ' ' :: Text.trimBack name :=
  Text.trimBack_append_eq [' '] name

/-- A line is read as what it was written for. -/
theorem Row.read {row : Row} (h : row.WellFormed) : deviceLine? row.line = row.record? := by
  cases row with
  | other line => exact deviceLine?_of_not_namesDevice h.2
  | device before mac name after =>
    obtain ⟨hblank, hmac, -⟩ := h
    have hbefore : Text.Blank before := fun c hc => (hblank c (List.mem_append_left _ hc)).1
    have hafter : Text.Blank after := fun c hc => (hblank c (List.mem_append_right _ hc)).1
    have htrim : Text.trim (device before mac name after).line
        = deviceWord ++ mac ++ Text.trimBack (' ' :: name) :=
      trim_device hbefore hafter hmac name
    refine deviceLine?_eq_some_iff.mpr
      ⟨mac, Text.trimBack name, hmac, (recordOf_trimBack mac name).symm, ?_⟩
    rw [htrim, trimBack_space_cons]
    by_cases hnone : Text.trimBack name = []
    · exact .inr ⟨by rw [if_pos hnone, List.append_nil], hnone⟩
    · exact .inl (by rw [if_neg hnone])

-- ============================================================= the listing

/-- A carriage return at the end of a line is a blank. -/
theorem lineReader_deviceLine? : Text.LineReader deviceLine? where
  empty := rfl
  concat_return line := by
    rw [deviceLine?_eq, deviceLine?_eq, Text.trim_append line Text.blank_return]

/-- A listing is read between its line feeds; how the lines end, and whether
the last one does, makes no difference. -/
theorem deviceList_eq (text : List Char) :
    deviceList text = (Text.splitAt '\n' text).filterMap deviceLine? :=
  lineReader_deviceLine?.filterMap_lines text

theorem Row.newline_not_mem {row : Row} (h : row.WellFormed) : '\n' ∉ row.line := by
  cases row with
  | other line => exact h.1
  | device before mac name after =>
    obtain ⟨hblank, hmac, hname⟩ := h
    have hbefore : '\n' ∉ before := fun hmem => (hblank _ (List.mem_append_left _ hmem)).2 rfl
    have hafter : '\n' ∉ after := fun hmem => (hblank _ (List.mem_append_right _ hmem)).2 rfl
    have haddress : '\n' ∉ mac := fun hmem => absurd (hmac.mem hmem) (by decide)
    have hword : '\n' ∉ deviceWord := by decide
    simp [Row.line, hbefore, hafter, haddress, hname, hword]

/-- A listing is read as it was written. -/
theorem IsListing.read {rows : List Row} (hrows : ∀ row ∈ rows, row.WellFormed)
    (h : IsListing rows text) : deviceList text = rows.filterMap Row.record? := by
  have hsingle : ∀ line ∈ rows.map Row.line, '\n' ∉ line := by
    intro line hline
    obtain ⟨row, hrow, rfl⟩ := List.mem_map.mp hline
    exact Row.newline_not_mem (hrows row hrow)
  calc deviceList text = (rows.map Row.line).filterMap deviceLine? :=
        lineReader_deviceLine?.read hsingle h
    _ = rows.filterMap Row.record? := by
      rw [List.filterMap_map]
      exact List.filterMap_congr fun row hrow => Row.read (hrows row hrow)

-- ============================================================== the result

/-- What is listed has a valid address, whatever the listing looks like. -/
theorem exists_of_mem_deviceList (h : record ∈ deviceList text) :
    ∃ device, record.identity = .ble device ∧ isMac device.mac.toList = true := by
  rw [deviceList_eq] at h
  obtain ⟨line, -, hline⟩ := List.mem_filterMap.mp h
  obtain ⟨mac, name, haddress, rfl, -⟩ := deviceLine?_eq_some_iff.mp hline
  refine ⟨_, rfl, isMac_iff.mpr ?_⟩
  rw [String.toList_ofList]
  exact haddress.toUpper

/-- The record that is found for a device is the first one with its identity. -/
theorem exists_first {devices : List DeviceRecord} {device : BleIdentity}
    (h : record ∈ devices) (hidentity : record.identity = .ble device) :
    ∃ first, devices.find? (·.identity == .ble device) = some first
      ∧ ∃ before after, devices = before ++ first :: after ∧ first.identity = .ble device
        ∧ ∀ other ∈ before, other.identity ≠ .ble device := by
  cases hfirst : devices.find? (·.identity == .ble device) with
  | none =>
    have hother := List.find?_eq_none.mp hfirst record h
    simp [hidentity] at hother
  | some first =>
    obtain ⟨hsame, before, after, hdevices, hbefore⟩ := List.find?_eq_some_iff_append.mp hfirst
    refine ⟨first, rfl, before, after, hdevices, by simpa using hsame, fun other hmem => ?_⟩
    simpa using hbefore other hmem

/-- From a listing to an open device.

A listing that was written line by line is read back: one record for each line
of a device, in order, with the address in upper case and the trimmed name, or
with the address as it was written if the name is blank; nothing is read from
the lines between them. And whatever the tools print, what is listed can be
opened: its address is valid, so opening it is never refused as invalid; and if
the same text is listed again, then the first record with that address is
found, and only the connection can still fail. -/
theorem listing_opens {W τ : Type} (h : Host (StateM W) τ) (s : Settings) (w : W) :
    (∀ rows text, (∀ row ∈ rows, Row.WellFormed row) → IsListing rows text →
        deviceList text = rows.filterMap Row.record?)
      ∧ ∀ text, ∀ record ∈ deviceList text, ∃ device before first after,
          record.identity = .ble device ∧ isMac device.mac.toList = true
            ∧ deviceList text = before ++ first :: after ∧ first.identity = .ble device
            ∧ (∀ other ∈ before, other.identity ≠ .ble device)
            ∧ let t := (backend (h.recorded id) s).connect device (w, [])
              (backend h s).connect device w = (t.1, t.2.1)
                ∧ (∀ detail, t.1 ≠ .error (.invalidArgument detail))
                ∧ (Listed text t.2.2 →
                    (∃ detail, t.1 = .error (.connectionFailed detail))
                      ∨ ∃ channel, t.1 = .ok (first, .channel channel)) := by
  refine ⟨fun rows text hrows hlisting => hlisting.read hrows, ?_⟩
  intro text record hrecord
  obtain ⟨device, hidentity, hmac⟩ := exists_of_mem_deviceList hrecord
  obtain ⟨first, hfirst, before, after, hdevices, hsame, hbefore⟩ := exists_first hrecord hidentity
  obtain ⟨hshows, honce, -, -, hverdict⟩ := connect_verdict h s device w
  refine ⟨device, before, first, after, hidentity, hmac, hdevices, hsame, hbefore, hshows, ?_, ?_⟩
  · intro detail hdetail
    have hinvalid := hverdict.malformed_iff.1.mp ⟨detail, hdetail⟩
    rw [hmac] at hinvalid
    cases hinvalid
  · intro hlisted
    have hends := hverdict.listed honce hmac hlisted
    rw [hfirst] at hends
    exact hends.imp And.right And.right

end ReceiptPrinter.Bluetooth
