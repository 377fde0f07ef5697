/-
The bindings that are left behind.

A binding that was made for a device is released when the channel to it
closes, or when its node cannot be opened. There is one exit in between
where it is not: when the node is not there after the binding was made, the
transport gives up and leaves the binding standing. `Opens.tally` counts
what one attempt makes, releases and leaves behind, and `History.tally` what
a whole life does.
-/
import ReceiptPrinter.Bluetooth.Script
import ReceiptPrinter.Proofs.Bluetooth.History

namespace ReceiptPrinter.Bluetooth

variable {W τ E : Type}

-- ============================================================= counting

section

variable {index : UInt8} {errands more : List (Errand τ)}

theorem timesBound_append :
    timesBound index (errands ++ more) = timesBound index errands + timesBound index more :=
  List.countP_append

theorem timesReleased_append :
    timesReleased index (errands ++ more)
      = timesReleased index errands + timesReleased index more :=
  List.countP_append

/-- To find something out makes no binding. -/
theorem bound?_eq_none {errand : Errand τ} (h : errand.isInquiry = true) :
    errand.bound? = none := by
  cases errand with
  | ran call printed => cases call <;> first | rfl | cases h
  | _ => rfl

/-- To find something out releases no binding. -/
theorem released?_eq_none {errand : Errand τ} (h : errand.isInquiry = true) :
    errand.released? = none := by
  cases errand with
  | ran call printed => cases call <;> first | rfl | cases h
  | _ => rfl

theorem Inquiries.timesBound (h : Inquiries errands) : timesBound index errands = 0 := by
  refine List.countP_eq_zero.mpr fun errand hmem => ?_
  simp [bound?_eq_none (h errand hmem)]

theorem Inquiries.timesReleased (h : Inquiries errands) : timesReleased index errands = 0 := by
  refine List.countP_eq_zero.mpr fun errand hmem => ?_
  simp [released?_eq_none (h errand hmem)]

/-- Only a binding that was made can be left behind. -/
theorem Inquiries.strands (h : Inquiries errands) : strands index errands = false := by
  unfold Bluetooth.strands
  split
  · next path last rest hlast =>
    have hmem : last ∈ errands := by
      rw [← List.mem_reverse, hlast]
      exact List.mem_cons_of_mem _ List.mem_cons_self
    simp [bound?_eq_none (h last hmem)]
  · rfl

end

/-- How many releases of a binding are still to come. -/
def owed (index : UInt8) (binding : Option UInt8) : Nat := if binding = some index then 1 else 0

/-- A binding that is made for a device is released at once, or it goes with
the channel, or it is left behind. -/
theorem Opens.tally {index : UInt8} {id : BleIdentity} {errands : List (Errand τ)}
    {result : Except Refusal (DeviceRecord × Channel τ)} (h : Opens index id errands result)
    (n : UInt8) :
    timesBound n errands = timesReleased n errands + (if strands n errands then 1 else 0)
      + owed n (bindingOf result) := by
  cases h with
  | malformed hmac => rfl
  | unlisted hlists | unpaired hlists =>
    simp [hlists.inquiries.timesBound, hlists.inquiries.timesReleased, hlists.inquiries.strands,
      bindingOf, owed]
  | reused hmeets | unusable hmeets | unbound hmeets | stranded hmeets | bound hmeets
    | undone hmeets =>
    rw [timesBound_append, timesReleased_append, hmeets.inquiries.timesBound,
      hmeets.inquiries.timesReleased]
    simp [timesBound, timesReleased, strands, advances, List.countP_cons, Errand.bound?,
      Errand.released?, bindingOf, owed]

/-- Closing releases the binding of the channel, if it has one. -/
theorem Closes.tally {channel : Channel τ} {errands : List (Errand τ)}
    (h : Closes channel errands) (n : UInt8) :
    timesBound n errands = 0 ∧ strands n errands = false
      ∧ timesReleased n errands = owed n channel.bound := by
  cases h <;>
    simp [timesBound, timesReleased, strands, List.countP_cons, Errand.bound?, Errand.released?,
      owed]

/-- Every binding that was made has been released, or goes with the channel
that is held, or was left behind. -/
theorem History.tally {index : UInt8} {passages : List (Passage BleIdentity (Errand τ))}
    {held : Option (Channel τ)} (h : History index passages held) (n : UInt8) :
    timesBound n (passages.flatMap Passage.errands)
      = timesReleased n (passages.flatMap Passage.errands)
        + passages.countP (fun passage => strands n passage.errands)
        + owed n (held.bind Channel.bound) := by
  induction h with
  | nothing => rfl
  | idle hbefore hasked herrands ih =>
    simp only [List.flatMap_append, List.flatMap_singleton, timesBound_append,
      timesReleased_append, List.countP_append, List.countP_singleton, herrands.timesBound,
      herrands.timesReleased, herrands.strands]
    simpa using ih
  | @opened passages id errands record channel hbefore hopens ih =>
    have htally : _ = _ + owed n channel.bound := hopens.tally n
    change _ = _ + 0 at ih
    simp only [List.flatMap_append, List.flatMap_singleton, timesBound_append,
      timesReleased_append, List.countP_append, List.countP_singleton]
    change _ = _ + owed n channel.bound
    omega
  | refused hbefore hopens ih =>
    have htally : _ = _ + 0 := hopens.tally n
    change _ = _ + 0 at ih
    simp only [List.flatMap_append, List.flatMap_singleton, timesBound_append,
      timesReleased_append, List.countP_append, List.countP_singleton]
    change _ = _ + 0
    omega
  | @closed passages channel errands hbefore hcloses ih =>
    obtain ⟨hbound, hstrands, hreleased⟩ := hcloses.tally n
    change _ = _ + owed n channel.bound at ih
    simp only [List.flatMap_append, List.flatMap_singleton, timesBound_append,
      timesReleased_append, List.countP_append, List.countP_singleton, hbound, hstrands, hreleased]
    change _ = _ + 0
    simp only [Bool.false_eq_true, if_false]
    omega

-- ============================================================ releasing

/-- A binding that was made for a device which was not opened is released if
its node was there. If not, this is the error. -/
theorem Opens.releases {index n channel : UInt8} {id : BleIdentity}
    {errands before after : List (Errand τ)}
    {refusal : Refusal} {mac : String} {printed : List Char}
    (h : Opens index id errands (.error refusal))
    (hsplit : errands = before ++ .ran (.bind n mac channel) (.ok printed) :: after) :
    ((∃ released, .ran (.release n) released ∈ after) ↔ .looked (nodePath n) true ∈ after)
      ∧ (.looked (nodePath n) true ∉ after → refusal = .nodeMissing (nodePath n)) := by
  have hnone : Inquiries errands → False := fun hquiet => nomatch hquiet _ (mem_of_split hsplit)
  cases h with
  | malformed hmac => exact (hnone inquiries_nil).elim
  | unlisted hlists | unpaired hlists => exact (hnone hlists.inquiries).elim
  | unusable hmeets =>
    obtain ⟨rest, -, hmore⟩ := hmeets.inquiries.split rfl hsplit
    simp [List.singleton_eq_append_iff] at hmore
  | unbound hmeets =>
    obtain ⟨rest, -, hmore⟩ := hmeets.inquiries.split rfl hsplit
    obtain ⟨rest, -, hmore⟩ := (inquiries_advances _ _ _).split rfl hmore
    simp [List.singleton_eq_append_iff] at hmore
  | stranded hmeets =>
    obtain ⟨rest, -, hmore⟩ := hmeets.inquiries.split rfl hsplit
    obtain ⟨rest, -, hmore⟩ := (inquiries_advances _ _ _).split rfl hmore
    obtain ⟨-, hfirst, rfl⟩ := split_head hmore (by simp)
    cases hfirst
    simp
  | undone hmeets =>
    obtain ⟨rest, -, hmore⟩ := hmeets.inquiries.split rfl hsplit
    obtain ⟨rest, -, hmore⟩ := (inquiries_advances _ _ _).split rfl hmore
    obtain ⟨-, hfirst, rfl⟩ := split_head hmore (by simp)
    cases hfirst
    simp

-- ============================================================= the result

/-- What becomes of the bindings that are made for devices, on every machine
and through every life.

With a chronicle kept, the printer does just what it does without one. When
a device could not be opened although a binding was made for it, the binding
has been released if its node was there; if the node was not there, the
error says so, and the binding was not released. While no channel is held,
the bindings made are therefore those released and those left behind in
that way. -/
theorem bindings_left_behind (h : Host (StateM W) τ) (s : Settings)
    (fetch : String → StateM W (Outcome PixelMatrix)) (nature : E → W → W) (w : W)
    (life : List (Happening BleIdentity E)) :
    let t := (chronicler h s fetch).live (Record.beside nature) (.fresh (w, [])) life
    let errands := t.2.2.flatMap Passage.errands
    (printer h s fetch).live nature (.fresh w) life = (t.1, t.2.1)
      ∧ (∀ passage ∈ t.2.2, ∀ id e, passage.asked = .connect id (.error e) →
          ∀ before n mac channel printed after,
            passage.errands = before ++ .ran (.bind n mac channel) (.ok printed) :: after →
            ((∃ released, .ran (.release n) released ∈ after) ↔ .looked (nodePath n) true ∈ after)
              ∧ (.looked (nodePath n) true ∉ after → e = (Refusal.nodeMissing (nodePath n)).error))
      ∧ (t.1.connection.channel? = none → ∀ n,
          timesBound n errands
            = timesReleased n errands + t.2.2.countP fun passage => strands n passage.errands) := by
  intro t errands
  have htold : Told s.rfcommDeviceIndex t := told_live h s fetch nature w life
  refine ⟨live_chronicler h s fetch nature w life, ?_, ?_⟩
  · intro passage hmem id e hasked before n mac channel printed after hsplit
    obtain ⟨result, hopens, hresult⟩ := htold.opens hmem hasked
    cases result with
    | ok opened => cases hresult
    | error refusal =>
      cases hresult
      obtain ⟨hreleased, hmissing⟩ := hopens.releases hsplit
      exact ⟨hreleased, fun habsent => congrArg Refusal.error (hmissing habsent)⟩
  · intro hfree n
    have htally := htold.tally n
    rw [hfree] at htally
    exact htally

/-- A machine with one paired device, on which making a binding succeeds but
no node comes of it. -/
def nodeless : Script.Scene :=
  .fresh
    [("bluetoothctl show", ⟨⟨utf8 "Powered: yes".toList, [], .status 0⟩, none, false⟩),
     ("bluetoothctl devices Paired",
      ⟨⟨utf8 "Device 00:11:22:33:44:55 Printer".toList, [], .status 0⟩, none, false⟩),
     ("rfcomm bind 0 00:11:22:33:44:55 1", ⟨⟨[], [], .status 0⟩, none, false⟩)]
    "/dev/pts/0"

/-- There is a machine on which a binding is made, never released, and
belongs to no channel. -/
theorem binding_left_standing :
    let t := (chronicler Script.host .default fun _ => return .error .notConnected).live
      (Record.beside fun (change : Empty) => change.elim) (.fresh (nodeless, []))
      [.operation (.select ⟨"00:11:22:33:44:55"⟩)]
    let errands := t.2.2.flatMap Passage.errands
    t.1.connection.channel?.isNone ∧ timesBound 0 errands = 1 ∧ timesReleased 0 errands = 0 := by
  decide +kernel

end ReceiptPrinter.Bluetooth
