/-
How an attempt to open a device ends.

The table of all attempts tells the errands and the result of each. Here it is
read the other way round: from what the machine has answered follows how the
attempt ends (`Opens.verdict`), and since the answers exclude each other,
every kind of failure has its own cause. What was asked for its own sake only,
such as the channel of a device, has no part in it.
-/
import ReceiptPrinter.Bluetooth.Evidence
import ReceiptPrinter.Proofs.Bluetooth.Discipline

namespace ReceiptPrinter.Bluetooth

variable {W τ : Type}

section

variable {index : UInt8} {id : BleIdentity} {mac path : String}
  {errands more tried looked met : List (Errand τ)} {record : DeviceRecord}

-- =========================================================== each tool once

theorem calls_append : calls (errands ++ more) = calls errands ++ calls more :=
  List.filterMap_append

theorem Lists.calls {result : Except Refusal (List DeviceRecord)} (h : Lists tried result) :
    (calls tried).Sublist [.listPaired, .listPairedOld] := by
  cases h <;> simp [Bluetooth.calls, Errand.call?]

theorem Looks.calls {listing : Except OsError (List Char)} {found : Option String}
    (h : Looks mac listing looked found) : calls looked = [] := by
  cases h <;> rfl

theorem Finds.calls {found : Option String} (h : Finds mac looked found) :
    (calls looked).Sublist [.listBindings] := by
  cases h with
  | @inTable table first _ htable =>
    show (Bluetooth.calls first).Sublist _
    rw [htable.calls]
    exact List.nil_sublist _
  | @inListing table listing first again _ htable hlisting =>
    show (Bluetooth.calls (first ++ .ran .listBindings listing :: again)).Sublist _
    rw [calls_append, htable.calls]
    show (Call.listBindings :: Bluetooth.calls again).Sublist _
    simp only [hlisting.calls, List.Sublist.refl]

theorem Meets.calls {found : Option String} (h : Meets id met record found) :
    (calls met).Sublist [.listPaired, .listPairedOld, .listBindings] := by
  cases h with
  | meets hmac hlists hrecord hfinds =>
    rw [calls_append]
    exact hlists.calls.append hfinds.calls

/-- No tool is run twice. -/
theorem Opens.nodup_calls {result : Except Refusal (DeviceRecord × Channel τ)}
    (h : Opens index id errands result) : (calls errands).Nodup := by
  cases h with
  | malformed hmac => exact List.nodup_nil
  | unlisted hlists | unpaired hlists => exact hlists.calls.nodup (by decide)
  | reused hmeets | unusable hmeets =>
    rw [calls_append]
    show (Bluetooth.calls _ ++ []).Nodup
    rw [List.append_nil]
    exact hmeets.calls.nodup (by decide)
  | unbound hmeets | stranded hmeets | bound hmeets | undone hmeets =>
    rw [calls_append]
    refine (hmeets.calls.append_right _).nodup ?_
    simp [Bluetooth.calls, advances, List.filterMap_cons, Errand.call?]

theorem mem_calls {call : Call} {printed : Except OsError (List Char)}
    (h : .ran call printed ∈ errands) : call ∈ calls errands :=
  List.mem_filterMap.mpr ⟨_, h, rfl⟩

/-- A tool that is not run twice has one answer. -/
theorem answer_unique (h : (calls errands).Nodup) {call : Call}
    {printed printed' : Except OsError (List Char)} (hran : .ran call printed ∈ errands)
    (hran' : .ran call printed' ∈ errands) : printed = printed' := by
  induction errands with
  | nil => cases hran
  | cons errand rest ih =>
    have hrest : (calls rest).Nodup :=
      h.sublist (List.Sublist.filterMap _ (List.sublist_cons_self errand rest))
    -- the same tool would have been run first and once more
    have honce : ∀ first second : Except OsError (List Char),
        errand = .ran call first → .ran call second ∉ rest := by
      intro first second hfirst hsecond
      subst hfirst
      exact (List.nodup_cons.mp h).1 (mem_calls hsecond)
    rcases List.mem_cons.mp hran with hfirst | hlater
    · rcases List.mem_cons.mp hran' with hfirst' | hlater'
      · exact (Errand.ran.inj (hfirst.trans hfirst'.symm)).2
      · exact absurd hlater' (honce _ _ hfirst.symm)
    · rcases List.mem_cons.mp hran' with hfirst' | hlater'
      · exact absurd hlater (honce _ _ hfirst'.symm)
      · exact ih hrest hlater hlater'

-- ============================================================ the listing

theorem Lists.listed {devices : List DeviceRecord} (h : Lists tried (.ok devices)) :
    ∃ listing, Listed listing tried ∧ devices = deviceList listing := by
  cases h with
  | told => exact ⟨_, .inl (by simp), rfl⟩
  | toldOld => exact ⟨_, .inr (by simp [Failed]), rfl⟩

theorem Lists.unlisted {refusal : Refusal} (h : Lists tried (.error refusal)) :
    Unlisted tried ∧ ∃ detail, refusal.error = .adapterNotReady detail := by
  cases h with
  | untold => exact ⟨by simp [Unlisted, Failed], _, rfl⟩

/-- The devices are not listed once more. -/
theorem Listed.append {listing : List Char} (h : Listed listing errands)
    (hmore : ∀ printed, .ran .listPairedOld printed ∉ more) : Listed listing (errands ++ more) := by
  rcases h with ⟨htold, hold⟩ | ⟨⟨reason, hfailed⟩, htold⟩
  · refine .inl ⟨List.mem_append_left _ htold, fun printed hmem => ?_⟩
    rcases List.mem_append.mp hmem with hmem | hmem
    · exact hold printed hmem
    · exact hmore printed hmem
  · exact .inr ⟨⟨reason, List.mem_append_left _ hfailed⟩, List.mem_append_left _ htold⟩

theorem Listed.unique (h : (calls errands).Nodup) {listing listing' : List Char}
    (hlisted : Listed listing errands) (hlisted' : Listed listing' errands) :
    listing = listing' := by
  rcases hlisted with ⟨htold, hold⟩ | ⟨-, htold⟩
  · rcases hlisted' with ⟨htold', -⟩ | ⟨-, htold'⟩
    · exact Except.ok.inj (answer_unique h htold htold')
    · exact absurd htold' (hold _)
  · rcases hlisted' with ⟨-, hold'⟩ | ⟨-, htold'⟩
    · exact absurd htold (hold' _)
    · exact Except.ok.inj (answer_unique h htold htold')

theorem Unlisted.not_listed (h : (calls errands).Nodup) (hunlisted : Unlisted errands)
    {listing : List Char} : ¬Listed listing errands := by
  obtain ⟨⟨reason, hfailed⟩, reason', hfailed'⟩ := hunlisted
  intro hlisted
  rcases hlisted with ⟨htold, -⟩ | ⟨-, htold⟩
  · cases answer_unique h htold hfailed
  · cases answer_unique h htold hfailed'

-- ================================================================ the node

theorem Meets.listed {found : Option String} (h : Meets id met record found) :
    ∃ listing, Listed listing met
      ∧ (deviceList listing).find? (·.identity == .ble id) = some record := by
  cases h with
  | meets hmac hlists hrecord hfinds =>
    obtain ⟨listing, hlisted, rfl⟩ := hlists.listed
    refine ⟨listing, hlisted.append fun printed hmem => ?_, hrecord⟩
    cases List.mem_singleton.mp (hfinds.calls.subset (mem_calls hmem))

theorem Meets.isMac {found : Option String} (h : Meets id met record found) :
    ReceiptPrinter.isMac id.mac.toList = true := by
  cases h with
  | meets hmac => exact hmac

theorem Looks.foundAt {listing : Except OsError (List Char)}
    (h : Looks mac listing looked (some path)) :
    named? mac listing = some path ∧ .looked path true ∈ looked := by
  cases h with
  | present hnamed => exact ⟨hnamed, List.mem_singleton_self _⟩

theorem Finds.foundAt (h : Finds mac looked (some path)) :
    (∃ source, (.readTable source ∈ looked ∨ .ran .listBindings source ∈ looked)
        ∧ named? mac source = some path)
      ∧ .looked path true ∈ looked := by
  cases h with
  | inTable htable =>
    obtain ⟨hnamed, hpresent⟩ := htable.foundAt
    exact ⟨⟨_, .inl List.mem_cons_self, hnamed⟩, List.mem_cons_of_mem _ hpresent⟩
  | inListing htable hlisting =>
    obtain ⟨hnamed, hpresent⟩ := hlisting.foundAt
    refine ⟨⟨_, .inr ?_, hnamed⟩, ?_⟩
    · exact List.mem_append_right _ List.mem_cons_self
    · exact List.mem_append_right _ (List.mem_cons_of_mem _ hpresent)

/-- The node that was met is found there. -/
theorem Meets.foundAt (h : Meets id met record (some path)) :
    FoundAt id.mac path (met ++ more) := by
  have hquiet : Unconcerned met := h.inquiries.unconcerned
  cases h with
  | @meets tried looked _ _ _ hmac hlists hrecord hfinds =>
    obtain ⟨⟨source, hsource, hnamed⟩, hpresent⟩ := hfinds.foundAt
    have hmem : ∀ {errand : Errand τ}, errand ∈ looked → errand ∈ tried ++ looked ++ more :=
      fun hmem => List.mem_append_left _ (List.mem_append_right _ hmem)
    refine ⟨⟨source, hsource.imp hmem hmem, hnamed⟩, ?_⟩
    obtain ⟨before, after, rfl⟩ := List.append_of_mem hpresent
    refine ⟨tried ++ before, after ++ more, by simp, fun errand herrand => hquiet errand ?_⟩
    rw [← List.append_assoc]
    exact List.mem_append_left _ herrand

/-- Where a binding is made, no node was found. -/
theorem Meets.not_foundAt (h : Meets id met record none)
    {service connected : Except OsError (List Char)} {errand : Errand τ}
    (herrand : errand.concernsBinding = true) (path : String) :
    ¬FoundAt mac path (met ++ (advances id.mac service connected ++ errand :: more)) := by
  intro hfound
  obtain ⟨before, after, hsplit, hfirst⟩ := hfound.present
  rw [← List.append_assoc] at hsplit
  exact h.mayBind.advanced.not_findsNode herrand ⟨before, path, after, hsplit, hfirst⟩

/-- A binding that is made is looked for at once. -/
theorem Bound.of_advances {service connected : Except OsError (List Char)} {channel : UInt8}
    {printed : List Char} {there : Bool} :
    Bound index mac there (met ++ (advances mac service connected ++
      .ran (.bind index mac channel) (.ok printed) :: .looked (nodePath index) there :: more)) := by
  refine ⟨met ++ advances mac service connected, channel, printed, more, ?_⟩
  rw [List.append_assoc]

-- ============================================================= the verdict

/-- How an attempt ends, by what the machine has answered. -/
inductive Verdict (index : UInt8) (id : BleIdentity) (errands : List (Errand τ)) :
    Outcome (DeviceRecord × Link (Channel τ) Empty) → Prop where
  | malformed {detail : String} (hmac : isMac id.mac.toList = false) (hnone : errands = []) :
    Verdict index id errands (.error (.invalidArgument detail))
  | unlisted {detail : String} (hmac : isMac id.mac.toList = true)
    (hunlisted : Unlisted errands) : Verdict index id errands (.error (.adapterNotReady detail))
  | unpaired {listing : List Char} {detail : String} (hmac : isMac id.mac.toList = true)
    (hlisted : Listed listing errands)
    (hrecord : (deviceList listing).find? (·.identity == .ble id) = none) :
    Verdict index id errands (.error (.deviceNotFound detail))
  | unreached {listing : List Char} {record : DeviceRecord} {detail : String}
    (hmac : isMac id.mac.toList = true) (hlisted : Listed listing errands)
    (hrecord : (deviceList listing).find? (·.identity == .ble id) = some record)
    (hunreached : Unreached index id.mac errands) :
    Verdict index id errands (.error (.connectionFailed detail))
  | reached {listing : List Char} {record : DeviceRecord} {channel : Channel τ}
    (hmac : isMac id.mac.toList = true) (hlisted : Listed listing errands)
    (hrecord : (deviceList listing).find? (·.identity == .ble id) = some record)
    (hreached : ¬Unreached index id.mac errands) :
    Verdict index id errands (.ok (record, .channel channel))

/-- When a device was opened, no node was opened in vain. -/
theorem Opens.opened {opened : DeviceRecord × Channel τ} (h : Opens index id errands (.ok opened))
    (path : String) (reason : OsError) : .opened path (.error reason) ∉ errands := by
  have hquiet : (Errand.opened (τ := τ) path (.error reason)).isInquiry = false := rfl
  cases h with
  | reused hmeets | bound hmeets => simp [hmeets.inquiries.not_mem hquiet, advances]

/-- Once the node of a new binding is looked for, it is there or it is not. -/
theorem Bound.unique {before after : List (Errand τ)} {channel : UInt8} {printed : List Char}
    {there there' : Bool} (hbefore : Inquiries before) (hafter : Unconcerned after)
    (h : Bound index mac there' (before ++
      .ran (.bind index mac channel) (.ok printed) :: .looked path there :: after)) :
    there = there' := by
  obtain ⟨first, channel', printed', last, hsplit⟩ := h
  obtain ⟨rest, rfl, hmore⟩ := hbefore.split rfl hsplit
  have honce : .ran (.bind index mac channel') (.ok printed') ∉ .looked path there :: after := by
    intro hmem
    rcases List.mem_cons.mp hmem with hmem | hmem
    · cases hmem
    · cases hafter _ hmem
  obtain ⟨-, -, hlooked⟩ := split_head hmore honce
  exact (Errand.looked.inj (List.cons.inj hlooked).1).2

section

variable {found : Option String}

/-- The device is paired, but no node of it is open. -/
theorem Meets.unreached {detail : String} (h : Meets id met record found)
    (hmore : ∀ printed, .ran .listPairedOld printed ∉ more)
    (hunreached : Unreached index id.mac (met ++ more)) :
    Verdict index id (met ++ more) (.error (.connectionFailed detail)) := by
  obtain ⟨listing, hlisted, hrecord⟩ := h.listed
  exact .unreached h.isMac (hlisted.append hmore) hrecord hunreached

/-- The device is paired, and a node of it is open. -/
theorem Meets.reached {channel : Channel τ} (h : Meets id met record found)
    (hmore : ∀ printed, .ran .listPairedOld printed ∉ more)
    (hreached : ¬Unreached index id.mac (met ++ more)) :
    Verdict index id (met ++ more) (.ok (record, .channel channel)) := by
  obtain ⟨listing, hlisted, hrecord⟩ := h.listed
  exact .reached h.isMac (hlisted.append hmore) hrecord hreached

end

/-- How an attempt ends follows from what the machine has answered. -/
theorem Opens.verdict {result : Except Refusal (DeviceRecord × Channel τ)}
    (h : Opens index id errands result) : Verdict index id errands (answer result) := by
  have hopens := h
  cases h with
  | malformed hmac => exact .malformed hmac rfl
  | unlisted hlists hmac =>
    obtain ⟨hunlisted, detail, hdetail⟩ := hlists.unlisted
    show Verdict index id errands (.error _)
    rw [hdetail]
    exact .unlisted hmac hunlisted
  | unpaired hlists hrecord hmac =>
    obtain ⟨listing, hlisted, rfl⟩ := hlists.listed
    exact .unpaired hmac hlisted hrecord
  | reused hmeets =>
    refine hmeets.reached (by simp) fun hunreached => ?_
    rcases hunreached with ⟨hnone, -⟩ | ⟨path, reason, -, hfailed⟩
    · exact hnone _ hmeets.foundAt
    · exact hopens.opened path reason hfailed
  | @unusable met record path reason hmeets =>
    have hfailed : .opened path (.error reason) ∈ met ++ [.opened path (.error reason)] := by simp
    exact hmeets.unreached (by simp) (.inr ⟨path, reason, .inl hmeets.foundAt, hfailed⟩)
  | @unbound _ _ service _ reason hmeets =>
    exact hmeets.unreached (by simp [advances])
      (.inl ⟨hmeets.not_foundAt rfl, .inl ⟨offeredChannel service, reason, by simp⟩⟩)
  | stranded hmeets =>
    exact hmeets.unreached (by simp [advances]) (.inl ⟨hmeets.not_foundAt rfl, .inr .of_advances⟩)
  | bound hmeets =>
    refine hmeets.reached (by simp [advances]) fun hunreached => ?_
    rcases hunreached with ⟨-, ⟨channel, reason, hfailed⟩ | hmissing⟩ | ⟨path, reason, -, hfailed⟩
    · have hquiet : (Errand.ran (τ := τ) (.bind index id.mac channel)
          (.error reason)).isInquiry = false := rfl
      simp [hmeets.inquiries.not_mem hquiet, advances] at hfailed
    · rw [← List.append_assoc] at hmissing
      cases Bound.unique (hmeets.inquiries.append (inquiries_advances _ _ _))
        (by simp [Unconcerned, Errand.concernsBinding]) hmissing
    · exact hopens.opened path reason hfailed
  | @undone _ _ _ _ _ _ reason hmeets =>
    exact hmeets.unreached (by simp [advances])
      (.inr ⟨_, reason, .inr ⟨.of_advances, rfl⟩, by simp⟩)

section

variable {outcome : Outcome (DeviceRecord × Link (Channel τ) Empty)}

/-- An attempt is refused as invalid only for a text that is no address, and
then nothing is done. -/
theorem Verdict.malformed_iff (h : Verdict index id errands outcome) :
    ((∃ detail, outcome = .error (.invalidArgument detail)) ↔ isMac id.mac.toList = false)
      ∧ (isMac id.mac.toList = false → errands = []) := by
  cases h with
  | malformed hmac hnone => exact ⟨⟨fun _ => hmac, fun _ => ⟨_, rfl⟩⟩, fun _ => hnone⟩
  | unlisted hmac | unpaired hmac | unreached hmac | reached hmac => simp [hmac]

/-- Where the devices are listed, what becomes of the attempt depends on the
listing and on whether a node can be reached. -/
theorem Verdict.listed (h : Verdict index id errands outcome) (honce : (calls errands).Nodup)
    {listing : List Char} (hmac : isMac id.mac.toList = true) (hlisted : Listed listing errands) :
    match (deviceList listing).find? (·.identity == .ble id) with
    | none => ∃ detail, outcome = .error (.deviceNotFound detail)
    | some record =>
      (Unreached index id.mac errands ∧ ∃ detail, outcome = .error (.connectionFailed detail))
        ∨ (¬Unreached index id.mac errands
            ∧ ∃ channel, outcome = .ok (record, .channel channel)) := by
  cases h with
  | malformed hinvalid =>
    rw [hmac] at hinvalid
    cases hinvalid
  | unlisted _ hunlisted => exact absurd hlisted (hunlisted.not_listed honce)
  | unpaired _ hlisted' hrecord =>
    cases hlisted.unique honce hlisted'
    rw [hrecord]
    exact ⟨_, rfl⟩
  | unreached _ hlisted' hrecord hunreached =>
    cases hlisted.unique honce hlisted'
    rw [hrecord]
    exact .inl ⟨hunreached, _, rfl⟩
  | reached _ hlisted' hrecord hreached =>
    cases hlisted.unique honce hlisted'
    rw [hrecord]
    exact .inr ⟨hreached, _, rfl⟩

end

end

/-- On every machine an attempt ends by what was answered, and no tool is run
twice. -/
theorem connect_verdict (h : Host (StateM W) τ) (s : Settings) (device : BleIdentity) (w : W) :
    let t := (backend (h.recorded id) s).connect device (w, [])
    (backend h s).connect device w = (t.1, t.2.1)
      ∧ (calls t.2.2).Nodup ∧ ∃ result, Opens s.rfcommDeviceIndex device t.2.2 result
      ∧ Verdict s.rfcommDeviceIndex device t.2.2 t.1 := by
  intro t
  obtain ⟨hshows, result, hopens, houtcome⟩ := (adds_backend_connect id h s device).anew w
  refine ⟨hshows, hopens.nodup_calls, result, hopens, ?_⟩
  show Verdict _ _ _ t.1
  rw [houtcome]
  exact hopens.verdict

end ReceiptPrinter.Bluetooth
