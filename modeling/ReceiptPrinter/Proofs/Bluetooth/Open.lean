/-
What the machine is sent to do when a device is opened.

The tables below list all rows of errands that the transport can send the
machine on, each with what comes of it. `Opens` is the table for opening a
device, and is put together from those for its parts: the devices are
listed, an existing binding is looked for, and where there is none, one is
made. The theorems say that nothing is missing from the tables; all that
follows about bindings is read off them.
-/
import ReceiptPrinter.Bluetooth.Errand
import ReceiptPrinter.Proofs.Record

namespace ReceiptPrinter.Bluetooth

variable {W A τ : Type}

-- ============================================================ the tables

/-- All that can come of listing the paired devices. -/
inductive Lists : List (Errand τ) → Except Refusal (List DeviceRecord) → Prop where
  | told {listing : List Char} : Lists [.ran .listPaired (.ok listing)] (.ok (deviceList listing))
  | toldOld {reason : OsError} {listing : List Char} :
    Lists [.ran .listPaired (.error reason), .ran .listPairedOld (.ok listing)]
      (.ok (deviceList listing))
  | untold {reason reason' : OsError} :
    Lists [.ran .listPaired (.error reason), .ran .listPairedOld (.error reason')]
      (.error (.unlisted reason'))

/-- All that can come of looking for the node that a listing binds to an
address. -/
inductive Looks (mac : String) (listing : Except OsError (List Char)) :
    List (Errand τ) → Option String → Prop where
  | unnamed (hnamed : named? mac listing = none) : Looks mac listing [] none
  | missing {path : String} (hnamed : named? mac listing = some path) :
    Looks mac listing [.looked path false] none
  | present {path : String} (hnamed : named? mac listing = some path) :
    Looks mac listing [.looked path true] (some path)

/-- All that can come of looking for an existing binding. -/
inductive Finds (mac : String) : List (Errand τ) → Option String → Prop where
  | inTable {table : Except OsError (List Char)} {looked : List (Errand τ)} {path : String}
    (htable : Looks mac table looked (some path)) :
    Finds mac (.readTable table :: looked) (some path)
  | inListing {table listing : Except OsError (List Char)} {looked again : List (Errand τ)}
    {found : Option String} (htable : Looks mac table looked none)
    (hlisting : Looks mac listing again found) :
    Finds mac (.readTable table :: looked ++ .ran .listBindings listing :: again) found

/-- What has been done once a paired device was found, together with the
existing binding of its address. -/
inductive Meets (id : BleIdentity) : List (Errand τ) → DeviceRecord → Option String → Prop where
  | meets {listed looked : List (Errand τ)} {devices : List DeviceRecord} {record : DeviceRecord}
    {found : Option String} (hmac : isMac id.mac.toList = true)
    (hlists : Lists listed (.ok devices))
    (hrecord : devices.find? (·.identity == .ble id) = some record)
    (hfinds : Finds id.mac looked found) : Meets id (listed ++ looked) record found

/-- What is done before a binding is made. -/
def advances (mac : String) (service connected : Except OsError (List Char)) : List (Errand τ) :=
  [.ran (.findService mac) service, .ran (.connect mac) connected]

/-- All that can come of opening a device. -/
inductive Opens (index : UInt8) (id : BleIdentity) :
    List (Errand τ) → Except Refusal (DeviceRecord × Channel τ) → Prop where
  | malformed (hmac : isMac id.mac.toList = false) : Opens index id [] (.error (.malformed id.mac))
  | unlisted {listed : List (Errand τ)} {refusal : Refusal}
    (hlists : Lists listed (.error refusal)) (hmac : isMac id.mac.toList = true) :
    Opens index id listed (.error refusal)
  | unpaired {listed : List (Errand τ)} {devices : List DeviceRecord}
    (hlists : Lists listed (.ok devices))
    (hrecord : devices.find? (·.identity == .ble id) = none)
    (hmac : isMac id.mac.toList = true) :
    Opens index id listed (.error (.unpaired id.mac))
  | reused {met : List (Errand τ)} {record : DeviceRecord} {path : String} {terminal : τ}
    (hmeets : Meets id met record (some path)) :
    Opens index id (met ++ [.opened path (.ok terminal)]) (.ok (record, ⟨path, terminal, none⟩))
  /-- There is a binding, but its node cannot be opened. -/
  | unusable {met : List (Errand τ)} {record : DeviceRecord} {path : String} {reason : OsError}
    (hmeets : Meets id met record (some path)) :
    Opens index id (met ++ [.opened path (.error reason)]) (.error (.unopened path reason))
  | unbound {met : List (Errand τ)} {record : DeviceRecord}
    {service connected : Except OsError (List Char)} {reason : OsError}
    (hmeets : Meets id met record none) :
    Opens index id
      (met ++ (advances id.mac service connected ++
        [.ran (.bind index id.mac (offeredChannel service)) (.error reason)]))
      (.error (.unbound reason))
  /-- A binding was made, but its node is not there. -/
  | stranded {met : List (Errand τ)} {record : DeviceRecord}
    {service connected : Except OsError (List Char)} {printed : List Char}
    (hmeets : Meets id met record none) :
    Opens index id
      (met ++ (advances id.mac service connected ++
        [.ran (.bind index id.mac (offeredChannel service)) (.ok printed),
          .looked (nodePath index) false]))
      (.error (.nodeMissing (nodePath index)))
  | bound {met : List (Errand τ)} {record : DeviceRecord}
    {service connected : Except OsError (List Char)} {printed : List Char} {terminal : τ}
    (hmeets : Meets id met record none) :
    Opens index id
      (met ++ (advances id.mac service connected ++
        [.ran (.bind index id.mac (offeredChannel service)) (.ok printed),
          .looked (nodePath index) true, .opened (nodePath index) (.ok terminal)]))
      (.ok (record, ⟨nodePath index, terminal, some index⟩))
  /-- A binding was made and released again, for its node cannot be
  opened. -/
  | undone {met : List (Errand τ)} {record : DeviceRecord}
    {service connected released : Except OsError (List Char)} {printed : List Char}
    {reason : OsError} (hmeets : Meets id met record none) :
    Opens index id
      (met ++ (advances id.mac service connected ++
        [.ran (.bind index id.mac (offeredChannel service)) (.ok printed),
          .looked (nodePath index) true, .opened (nodePath index) (.error reason),
          .ran (.release index) released]))
      (.error (.unopened (nodePath index) reason))

/-- All that can come of closing a channel. -/
inductive Closes : Channel τ → List (Errand τ) → Prop where
  | foreign {path : String} {terminal : τ} : Closes ⟨path, terminal, none⟩ [.closed terminal]
  | released {path : String} {terminal : τ} {index : UInt8}
    {released : Except OsError (List Char)} :
    Closes ⟨path, terminal, some index⟩ [.closed terminal, .ran (.release index) released]

-- ====================================================== single errands

section

variable (entry : Errand τ → A) (h : Host (StateM W) τ)

theorem adds_call (call : Call) :
    Adds entry ((h.recorded entry).call call) (h.call call) fun added printed =>
      added = [.ran call printed] := by
  refine (adds_noting entry (h.run call) fun result =>
    Errand.ran call (result.bind (·.result call))).bind fun added result hadded => ?_
  subst hadded
  cases result with
  | ok output => exact .pure rfl
  | error reason => exact .pure rfl

theorem adds_present (path : String) :
    Adds entry ((h.recorded entry).present path) (h.present path) fun added found =>
      added = [.looked path found] :=
  adds_noting entry (h.present path) _

/-- To wait is not an errand. -/
theorem adds_pause (ms : Nat) :
    Adds entry ((h.recorded entry).pause ms) (h.pause ms) fun added _ => added = [] :=
  adds_aside entry (h.pause ms)

-- ============================================================== finding

theorem adds_prepare :
    Adds entry (prepare (h.recorded entry)) (prepare h) fun added _ =>
      ∃ description, added = [.ran .describe description] := by
  refine (adds_call entry h .describe).bind fun added description hadded => ?_
  subst hadded
  cases description with
  | error reason => exact .pure ⟨_, rfl⟩
  | ok description => exact .pure ⟨_, rfl⟩

theorem adds_paired : Adds entry (paired (h.recorded entry)) (paired h) Lists := by
  refine (adds_call entry h .listPaired).bind fun added listing hadded => ?_
  subst hadded
  cases listing with
  | ok listing => exact .pure .told
  | error reason =>
    refine (adds_call entry h .listPairedOld).bind fun added listing hadded => ?_
    subst hadded
    cases listing with
    | ok listing => exact .pure .toldOld
    | error reason' => exact .pure .untold

theorem adds_presentBinding? (listing : Except OsError (List Char)) (mac : String) :
    Adds entry (presentBinding? (h.recorded entry) listing mac) (presentBinding? h listing mac)
      (Looks mac listing) := by
  cases listing with
  | error reason => exact .pure (.unnamed rfl)
  | ok listing =>
    unfold presentBinding?
    dsimp only
    cases hnamed : binding? listing mac.toList with
    | none => exact .pure (.unnamed hnamed)
    | some path =>
      refine (adds_present entry h path).bind fun added found hadded => ?_
      subst hadded
      cases found with
      | false => exact .pure (.missing hnamed)
      | true => exact .pure (.present hnamed)

theorem adds_existingBinding? (mac : String) :
    Adds entry (existingBinding? (h.recorded entry) mac) (existingBinding? h mac) (Finds mac) := by
  refine (adds_noting entry h.bindingTable _).bind fun added table hadded => ?_
  subst hadded
  refine (adds_presentBinding? entry h table mac).bind fun looked found htable => ?_
  cases found with
  | some path => exact .pure (by simpa using Finds.inTable htable)
  | none =>
    refine (adds_call entry h .listBindings).bind fun added listing hadded => ?_
    subst hadded
    refine (adds_presentBinding? entry h listing mac).mono fun again found hlisting => ?_
    simpa using Finds.inListing htable hlisting

theorem adds_serialChannel (mac : String) :
    Adds entry (serialChannel (h.recorded entry) mac) (serialChannel h mac) fun added channel =>
      ∃ service, added = [.ran (.findService mac) service] ∧ channel = offeredChannel service := by
  refine (adds_call entry h (.findService mac)).bind fun added service hadded => ?_
  subst hadded
  cases service with
  | ok description => exact .pure ⟨_, rfl, rfl⟩
  | error reason => exact .pure ⟨_, rfl, rfl⟩

-- ============================================================== binding

/-- All that can come of making a binding. -/
inductive Binds (index : UInt8) (mac : String) (channel : UInt8) :
    List (Errand τ) → Except Refusal String → Prop where
  | unbound {connected : Except OsError (List Char)} {reason : OsError} :
    Binds index mac channel
      [.ran (.connect mac) connected, .ran (.bind index mac channel) (.error reason)]
      (.error (.unbound reason))
  | stranded {connected : Except OsError (List Char)} {printed : List Char} :
    Binds index mac channel
      [.ran (.connect mac) connected, .ran (.bind index mac channel) (.ok printed),
        .looked (nodePath index) false]
      (.error (.nodeMissing (nodePath index)))
  | bound {connected : Except OsError (List Char)} {printed : List Char} :
    Binds index mac channel
      [.ran (.connect mac) connected, .ran (.bind index mac channel) (.ok printed),
        .looked (nodePath index) true]
      (.ok (nodePath index))

theorem adds_makeBinding (index : UInt8) (mac : String) (channel : UInt8) :
    Adds entry (makeBinding (h.recorded entry) index mac channel) (makeBinding h index mac channel)
      (Binds index mac channel) := by
  have hconnect : Adds entry (discard ((h.recorded entry).call (.connect mac)))
      (discard (h.call (.connect mac))) fun added _ =>
        ∃ connected, added = [.ran (.connect mac) connected] :=
    ((adds_call entry h (.connect mac)).mono fun _ connected hadded => ⟨connected, hadded⟩).discard
  refine hconnect.bind fun added _ hadded => ?_
  obtain ⟨connected, rfl⟩ := hadded
  refine (adds_pause entry h settleMs).bind fun added _ hadded => ?_
  subst hadded
  refine (adds_call entry h (.bind index mac channel)).bind fun added printed hadded => ?_
  subst hadded
  cases printed with
  | error reason => exact .pure .unbound
  | ok printed =>
    refine (adds_pause entry h settleMs).bind fun added _ hadded => ?_
    subst hadded
    refine (adds_present entry h (nodePath index)).bind fun added found hadded => ?_
    subst hadded
    cases found with
    | false => exact .pure .stranded
    | true => exact .pure .bound

theorem adds_releaseBinding (bound : Option UInt8) :
    Adds entry (releaseBinding (h.recorded entry) bound) (releaseBinding h bound) fun added _ =>
      match bound with
      | some index => ∃ released, added = [.ran (.release index) released]
      | none => added = [] := by
  cases bound with
  | none => exact .pure rfl
  | some index =>
    exact ((adds_call entry h (.release index)).mono fun _ released hadded =>
      ⟨released, hadded⟩).discard

/-- All that can come of getting a node for an address. -/
inductive Nodes (index : UInt8) (mac : String) :
    List (Errand τ) → Except Refusal (String × Option UInt8) → Prop where
  | existing {looked : List (Errand τ)} {path : String} (hfinds : Finds mac looked (some path)) :
    Nodes index mac looked (.ok (path, none))
  | made {looked made : List (Errand τ)} {service : Except OsError (List Char)} {path : String}
    (hfinds : Finds mac looked none)
    (hbinds : Binds index mac (offeredChannel service) made (.ok path)) :
    Nodes index mac (looked ++ .ran (.findService mac) service :: made) (.ok (path, some index))
  | unmade {looked made : List (Errand τ)} {service : Except OsError (List Char)}
    {refusal : Refusal} (hfinds : Finds mac looked none)
    (hbinds : Binds index mac (offeredChannel service) made (.error refusal)) :
    Nodes index mac (looked ++ .ran (.findService mac) service :: made) (.error refusal)

theorem adds_node (index : UInt8) (mac : String) :
    Adds entry (node (h.recorded entry) index mac) (node h index mac) (Nodes index mac) := by
  refine (adds_existingBinding? entry h mac).bind fun looked found hfinds => ?_
  cases found with
  | some path => exact .pure (by simpa using Nodes.existing hfinds)
  | none =>
    refine (adds_serialChannel entry h mac).bind fun added channel hadded => ?_
    obtain ⟨service, rfl, rfl⟩ := hadded
    refine (adds_makeBinding entry h index mac (offeredChannel service)).bind
      fun made result hbinds => ?_
    cases result with
    | ok path => exact .pure (by simpa using Nodes.made hfinds hbinds)
    | error refusal => exact .pure (by simpa using Nodes.unmade hfinds hbinds)

-- ============================================================== opening

/-- All that can come of opening a node. -/
inductive Reaches (path : String) : Option UInt8 → List (Errand τ) →
    Except Refusal (Channel τ) → Prop where
  | opened {bound : Option UInt8} {terminal : τ} :
    Reaches path bound [.opened path (.ok terminal)] (.ok ⟨path, terminal, bound⟩)
  | foreign {reason : OsError} :
    Reaches path none [.opened path (.error reason)] (.error (.unopened path reason))
  | undone {index : UInt8} {reason : OsError} {released : Except OsError (List Char)} :
    Reaches path (some index) [.opened path (.error reason), .ran (.release index) released]
      (.error (.unopened path reason))

theorem adds_openNode (path : String) (bound : Option UInt8) :
    Adds entry (openNode (h.recorded entry) path bound) (openNode h path bound)
      (Reaches path bound) := by
  refine (adds_noting entry (h.openTerminal path) _).bind fun added result hadded => ?_
  subst hadded
  cases result with
  | ok terminal => exact .pure .opened
  | error reason =>
    refine (adds_releaseBinding entry h bound).bind fun added _ hadded => ?_
    cases bound with
    | none =>
      subst hadded
      exact .pure .foreign
    | some index =>
      obtain ⟨released, rfl⟩ := hadded
      exact .pure .undone

end

section

variable {index : UInt8} {id : BleIdentity} {listed looked more : List (Errand τ)}
  {devices : List DeviceRecord} {record : DeviceRecord}

/-- A device for which no node can be had is not opened. -/
theorem Opens.ofNodes {refusal : Refusal} (hmac : isMac id.mac.toList = true)
    (hlists : Lists listed (.ok devices))
    (hrecord : devices.find? (·.identity == .ble id) = some record)
    (hnode : Nodes index id.mac looked (.error refusal)) :
    Opens index id (listed ++ looked) (.error refusal) := by
  cases hnode with
  | unmade hfinds hbinds =>
    have hmeets := Meets.meets hmac hlists hrecord hfinds
    cases hbinds with
    | unbound => simpa [advances] using Opens.unbound hmeets
    | stranded => simpa [advances] using Opens.stranded hmeets

/-- A device for which there is a node is opened as far as the node is. -/
theorem Opens.ofReaches {path : String} {bound : Option UInt8}
    {result : Except Refusal (Channel τ)} (hmac : isMac id.mac.toList = true)
    (hlists : Lists listed (.ok devices))
    (hrecord : devices.find? (·.identity == .ble id) = some record)
    (hnode : Nodes index id.mac looked (.ok (path, bound)))
    (hreach : Reaches path bound more result) :
    Opens index id (listed ++ (looked ++ more)) (result.map fun channel => (record, channel)) := by
  cases hnode with
  | existing hfinds =>
    have hmeets := Meets.meets hmac hlists hrecord hfinds
    cases hreach with
    | opened => simpa [Except.map] using Opens.reused hmeets
    | foreign => simpa [Except.map] using Opens.unusable hmeets
  | made hfinds hbinds =>
    have hmeets := Meets.meets hmac hlists hrecord hfinds
    cases hbinds with
    | bound =>
      cases hreach with
      | opened => simpa [advances, Except.map] using Opens.bound hmeets
      | undone => simpa [advances, Except.map] using Opens.undone hmeets

end

variable (entry : Errand τ → A) (h : Host (StateM W) τ)

/-- Nothing is missing from the table for opening a device. -/
theorem adds_connect (index : UInt8) (id : BleIdentity) :
    Adds entry (connect (h.recorded entry) index id) (connect h index id) (Opens index id) := by
  unfold connect
  by_cases hmac : isMac id.mac.toList = true
  · simp only [hmac]
    refine (adds_paired entry h).attempt (fun listed devices hlists => ?_) ?_
    · cases hrecord : devices.find? (·.identity == .ble id) with
      | none => exact .pure (by simpa using Opens.unpaired hlists hrecord hmac)
      | some record =>
        dsimp only
        refine (adds_node entry h index id.mac).attempt (fun looked node hnode => ?_) ?_
        · obtain ⟨path, bound⟩ := node
          refine (adds_openNode entry h path bound).attempt (fun more channel hreach => ?_) ?_
          · exact .pure (by
              simpa [Except.map] using Opens.ofReaches hmac hlists hrecord hnode hreach)
          · exact fun more refusal hreach => Opens.ofReaches hmac hlists hrecord hnode hreach
        · exact fun looked refusal hnode => Opens.ofNodes hmac hlists hrecord hnode
    · exact fun listed refusal hlists => .unlisted hlists hmac
  · simp only [hmac]
    exact .pure (.malformed (by simpa using hmac))

theorem adds_closeChannel (channel : Channel τ) :
    Adds entry (closeChannel (h.recorded entry) channel) (closeChannel h channel) fun added _ =>
      Closes channel added := by
  refine (adds_aside entry (h.flush channel.terminal)).discard.bind fun added _ hadded => ?_
  subst hadded
  refine (adds_noting entry (h.closeTerminal channel.terminal) fun _ =>
    Errand.closed channel.terminal).bind fun added _ hadded => ?_
  subst hadded
  refine (adds_releaseBinding entry h channel.bound).mono fun more _ hmore => ?_
  obtain ⟨path, terminal, bound⟩ := channel
  cases bound with
  | none =>
    subst hmore
    exact .foreign
  | some index =>
    obtain ⟨released, rfl⟩ := hmore
    exact .released

end ReceiptPrinter.Bluetooth
