/-
What the machine is sent to do for each request to the transport.

Most requests only find something out, or send the machine on no errand at
all. Opening a device and closing a channel are what their tables say.
-/
import ReceiptPrinter.Proofs.Bluetooth.Open

namespace ReceiptPrinter.Bluetooth

variable {W A τ : Type}

/-- Whether an errand only finds something out. -/
def Errand.isInquiry : Errand τ → Bool
  | ran (.bind _ _ _) _ | ran (.release _) _ | opened _ _ | closed _ => false
  | ran _ _ | readTable _ | looked _ _ => true

/-- The errands of a passage only find something out. -/
def Inquiries (errands : List (Errand τ)) : Prop := ∀ errand ∈ errands, errand.isInquiry = true

-- ========================================================== inquiries

theorem inquiries_nil : Inquiries ([] : List (Errand τ)) :=
  List.forall_mem_nil _

theorem Inquiries.append {errands more : List (Errand τ)} (h : Inquiries errands)
    (hmore : Inquiries more) : Inquiries (errands ++ more) := by
  intro errand hmem
  rcases List.mem_append.mp hmem with hmem | hmem
  · exact h errand hmem
  · exact hmore errand hmem

theorem Inquiries.cons {errand : Errand τ} {more : List (Errand τ)}
    (h : errand.isInquiry = true) (hmore : Inquiries more) : Inquiries (errand :: more) :=
  List.forall_mem_cons.mpr ⟨h, hmore⟩

theorem Inquiries.not_mem {errands : List (Errand τ)} (h : Inquiries errands) {errand : Errand τ}
    (herrand : errand.isInquiry = false) : errand ∉ errands := fun hmem =>
  Bool.false_ne_true (herrand.symm.trans (h errand hmem))

theorem Lists.inquiries {errands : List (Errand τ)} {result : Except Refusal (List DeviceRecord)}
    (h : Lists errands result) : Inquiries errands := by
  cases h <;> simp [Inquiries, Errand.isInquiry]

theorem Looks.inquiries {mac : String} {listing : Except OsError (List Char)}
    {errands : List (Errand τ)} {found : Option String} (h : Looks mac listing errands found) :
    Inquiries errands := by
  cases h <;> simp [Inquiries, Errand.isInquiry]

theorem Finds.inquiries {mac : String} {errands : List (Errand τ)} {found : Option String}
    (h : Finds mac errands found) : Inquiries errands := by
  cases h with
  | inTable htable => exact .cons rfl htable.inquiries
  | inListing htable hlisting =>
    exact .append (.cons rfl htable.inquiries) (.cons rfl hlisting.inquiries)

theorem Meets.inquiries {id : BleIdentity} {errands : List (Errand τ)} {record : DeviceRecord}
    {found : Option String} (h : Meets id errands record found) : Inquiries errands := by
  cases h with
  | meets hmac hlists hrecord hfinds => exact hlists.inquiries.append hfinds.inquiries

/-- Opening ends with the terminal that goes with the channel; the only
binding that was made before it goes with the channel, too. -/
theorem Opens.last {index : UInt8} {id : BleIdentity} {errands : List (Errand τ)}
    {record : DeviceRecord} {channel : Channel τ}
    (h : Opens index id errands (.ok (record, channel))) :
    ∃ before path, errands = before ++ [.opened path (.ok channel.terminal)]
      ∧ (∀ path terminal, .opened path (.ok terminal) ∉ before)
      ∧ ∀ n mac number printed, .ran (.bind n mac number) (.ok printed) ∈ before →
          channel.bound = some n := by
  cases h with
  | reused hmeets =>
    refine ⟨_, _, rfl, fun path terminal => hmeets.inquiries.not_mem rfl, ?_⟩
    intro n mac number printed hmem
    exact absurd hmem (hmeets.inquiries.not_mem rfl)
  | @bound met _ service connected printed terminal hmeets =>
    refine ⟨met ++ (advances id.mac service connected ++
      [.ran (.bind index id.mac (offeredChannel service)) (.ok printed),
        .looked (nodePath index) true]),
      nodePath index, by simp, fun path terminal => ?_, ?_⟩
    · have hmet : .opened path (.ok terminal) ∉ met := hmeets.inquiries.not_mem rfl
      simp [hmet, advances]
    · intro n mac used text hmem
      have hmet : .ran (.bind n mac used) (.ok text) ∉ met := hmeets.inquiries.not_mem rfl
      have hsame : (n = index ∧ mac = id.mac ∧ used = offeredChannel service) ∧ text = printed := by
        simpa [hmet, advances] using hmem
      rw [hsame.1.1]

/-- Nothing is left open by an attempt that fails. -/
theorem Opens.unopened {index : UInt8} {id : BleIdentity} {errands : List (Errand τ)}
    {refusal : Refusal} (h : Opens index id errands (.error refusal)) (path : String)
    (terminal : τ) : .opened path (.ok terminal) ∉ errands := by
  have hquiet : (Errand.opened path (.ok terminal)).isInquiry = false := rfl
  cases h with
  | malformed hmac => simp
  | unlisted hlists | unpaired hlists => exact hlists.inquiries.not_mem hquiet
  | unusable hmeets | unbound hmeets | stranded hmeets | undone hmeets =>
    simp [hmeets.inquiries.not_mem hquiet, advances]

theorem Closes.closed {channel : Channel τ} {errands : List (Errand τ)}
    (h : Closes channel errands) : .closed channel.terminal ∈ errands := by
  cases h <;> simp

theorem Closes.release {channel : Channel τ} {errands : List (Errand τ)}
    (h : Closes channel errands) {n : UInt8} (hbound : channel.bound = some n) :
    ∃ released, .ran (.release n) released ∈ errands := by
  cases h with
  | foreign => cases hbound
  | @released _ _ _ released =>
    cases hbound
    exact ⟨released, by simp⟩

theorem inquiries_advances (mac : String) (service connected : Except OsError (List Char)) :
    Inquiries (advances (τ := τ) mac service connected) := by
  simp [Inquiries, advances, Errand.isInquiry]

/-- An errand that does not only find something out comes after those that
do. -/
theorem Inquiries.split {errands more before after : List (Errand τ)} {errand : Errand τ}
    (h : Inquiries errands) (herrand : errand.isInquiry = false)
    (hsplit : errands ++ more = before ++ errand :: after) :
    ∃ rest, before = errands ++ rest ∧ more = rest ++ errand :: after := by
  rcases split_append hsplit with ⟨rest, rfl, -⟩ | hrest
  · have hmem := h errand (List.mem_append_right _ List.mem_cons_self)
    rw [herrand] at hmem
    cases hmem
  · exact hrest

-- ======================================================= the transport

section

variable (entry : Errand τ → A) (h : Host (StateM W) τ) (s : Settings)

theorem adds_backend_prepare :
    Adds entry (backend (h.recorded entry) s).prepare (backend h s).prepare fun added _ =>
      Inquiries added := by
  refine (adds_prepare entry h).bind fun added result hadded => .pure ?_
  obtain ⟨description, rfl⟩ := hadded
  exact .cons rfl inquiries_nil

theorem adds_backend_devices :
    Adds entry (backend (h.recorded entry) s).devices (backend h s).devices fun added _ =>
      Inquiries added := by
  refine (adds_paired entry h).bind fun added result hlists => .pure ?_
  rw [List.append_nil]
  exact hlists.inquiries

/-- What opening a device answers to the session. -/
def answer : Except Refusal (DeviceRecord × Channel τ) →
    Outcome (DeviceRecord × Link (Channel τ) Empty)
  | .ok (record, channel) => .ok (record, .channel channel)
  | .error refusal => .error refusal.error

/-- The binding to release when what was opened closes again. -/
def bindingOf : Except Refusal (DeviceRecord × Channel τ) → Option UInt8
  | .ok (_, channel) => channel.bound
  | .error _ => none

theorem adds_backend_connect (id : BleIdentity) :
    Adds entry ((backend (h.recorded entry) s).connect id) ((backend h s).connect id)
      fun added outcome => ∃ result, Opens s.rfcommDeviceIndex id added result
        ∧ outcome = answer result := by
  refine (adds_connect entry h s.rfcommDeviceIndex id).bind fun added result hopens => ?_
  cases result with
  | ok opened => exact .pure ⟨_, by simpa using hopens, rfl⟩
  | error refusal => exact .pure ⟨_, by simpa using hopens, rfl⟩

theorem adds_writePieces (terminal : τ) (delay : Nat) (pieces : List Bytes) :
    Adds entry (writePieces (h.recorded entry) terminal delay pieces)
      (writePieces h terminal delay pieces) fun added _ => added = [] := by
  induction pieces with
  | nil => exact .pure rfl
  | cons piece rest ih =>
    refine (adds_aside entry (h.write terminal piece)).bind fun added result hadded => ?_
    subst hadded
    cases result with
    | error reason => exact .pure rfl
    | ok _ =>
      dsimp only
      split
      · exact ih
      · refine (adds_pause entry h delay).bind fun added _ hadded => ?_
        subst hadded
        exact ih

/-- What is written is not among the errands. -/
theorem adds_backend_write (channel : Channel τ) (chunk : Bytes) :
    Adds entry ((backend (h.recorded entry) s).write channel chunk)
      ((backend h s).write channel chunk) fun added _ => added = [] := by
  have hchunk : Adds entry
      (writeChunk (h.recorded entry) channel.terminal (pieceSize s) s.bluetoothChunkDelayMs chunk)
      (writeChunk h channel.terminal (pieceSize s) s.bluetoothChunkDelayMs chunk)
      fun added _ => added = [] := by
    unfold writeChunk
    split
    · exact adds_aside entry (h.write channel.terminal chunk)
    · exact adds_writePieces entry h channel.terminal _ _
  refine hchunk.bind fun added _ hadded => .pure ?_
  rw [List.append_nil]
  exact hadded

theorem adds_backend_flush (channel : Channel τ) :
    Adds entry ((backend (h.recorded entry) s).flush channel) ((backend h s).flush channel)
      fun added _ => added = [] := by
  refine (adds_aside entry (h.flush channel.terminal)).bind fun added _ hadded => .pure ?_
  rw [List.append_nil]
  exact hadded

end

end ReceiptPrinter.Bluetooth
