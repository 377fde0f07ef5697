/-
The history of a Bluetooth printer.

A chronicle that comes from the life of a printer has a certain form. A
device is opened only while no channel is held; what is closed is the
channel that was opened last; and whatever else the transport is asked in
between makes no binding and releases none. `History` says so, passage by
passage, and ties the chronicle to the channel that the session holds; the
errands within a passage are those that the tables allow. Every statement
about the bindings of a whole life is then shown by induction on the
history, without looking at the printer again.
-/
import ReceiptPrinter.Proofs.Bluetooth.Backend
import ReceiptPrinter.Proofs.Session.Act

namespace ReceiptPrinter.Bluetooth

variable {W τ E : Type}

/-- The chronicle of a printer that now holds a certain channel, or none. -/
inductive History (index : UInt8) :
    List (Passage BleIdentity (Errand τ)) → Option (Channel τ) → Prop where
  | nothing : History index [] none
  | idle {passages : List (Passage BleIdentity (Errand τ))} {held : Option (Channel τ)}
    {asked : Asked BleIdentity} {errands : List (Errand τ)} (hbefore : History index passages held)
    (hasked : asked.isConnect = false) (herrands : Inquiries errands) :
    History index (passages ++ [⟨asked, errands⟩]) held
  | opened {passages : List (Passage BleIdentity (Errand τ))} {id : BleIdentity}
    {errands : List (Errand τ)} {record : DeviceRecord} {channel : Channel τ}
    (hbefore : History index passages none)
    (hopens : Opens index id errands (.ok (record, channel))) :
    History index (passages ++ [⟨.connect id (.ok ()), errands⟩]) (some channel)
  | refused {passages : List (Passage BleIdentity (Errand τ))} {id : BleIdentity}
    {errands : List (Errand τ)} {refusal : Refusal} (hbefore : History index passages none)
    (hopens : Opens index id errands (.error refusal)) :
    History index (passages ++ [⟨.connect id (.error refusal.error), errands⟩]) none
  | closed {passages : List (Passage BleIdentity (Errand τ))} {channel : Channel τ}
    {errands : List (Errand τ)} (hbefore : History index passages (some channel))
    (hcloses : Closes channel errands) :
    History index (passages ++ [⟨.close, errands⟩]) none

/-- A device is opened as the table says, whenever it is opened. -/
theorem History.opens {index : UInt8} {passages : List (Passage BleIdentity (Errand τ))}
    {held : Option (Channel τ)} (h : History index passages held)
    {passage : Passage BleIdentity (Errand τ)} (hmem : passage ∈ passages) {id : BleIdentity}
    {outcome : Outcome Unit} (hasked : passage.asked = .connect id outcome) :
    ∃ result, Opens index id passage.errands result
      ∧ outcome = (answer result).map fun _ => () := by
  induction h with
  | nothing => cases hmem
  | idle hbefore hidle herrands ih =>
    rcases List.mem_append.mp hmem with hmem | hmem
    · exact ih hmem
    · cases List.mem_singleton.mp hmem
      cases hasked
      cases hidle
  | opened hbefore hopens ih | refused hbefore hopens ih =>
    rcases List.mem_append.mp hmem with hmem | hmem
    · exact ih hmem
    · cases List.mem_singleton.mp hmem
      cases hasked
      exact ⟨_, hopens, rfl⟩
  | closed hbefore hcloses ih =>
    rcases List.mem_append.mp hmem with hmem | hmem
    · exact ih hmem
    · cases List.mem_singleton.mp hmem
      cases hasked

-- ======================================================= the transport

section

variable (h : Host (StateM W) τ) (s : Settings) (fetch : String → StateM W (Outcome PixelMatrix))

/-- The chronicle changes nothing. -/
theorem imitates_chronicler :
    (chronicler h s fetch).Imitates Prod.fst id (printer h s fetch) where
  settings := rfl
  prepare := ((adds_backend_prepare id h s).gathering _).shows
  devices := ((adds_backend_devices id h s).gathering _).shows
  connect := fun device => (((adds_backend_connect id h s device).gathering _).shows).linked
  poll := fun request => request.elim
  write := fun channel chunk => ((adds_backend_write id h s channel chunk).gathering _).shows
  flush := fun channel => ((adds_backend_flush id h s channel).gathering _).shows
  close := fun channel => ((adds_closeChannel id h channel).gathering _).shows
  fetch := fun locator => (adds_aside id (fetch locator)).shows

-- ============================================================ the printer

variable {h s fetch}

/-- The chronicle of a printer is its history. -/
def Told (index : UInt8)
    (t : Situation (W × List (Passage BleIdentity (Errand τ))) BleIdentity (Channel τ) Empty) :
    Prop :=
  History index t.2.2 t.1.connection.channel?

theorem told_idle {asked : Asked BleIdentity} {errands : List (Errand τ)}
    {session session' : Session BleIdentity (Channel τ) Empty}
    {w w' : W × List (Passage BleIdentity (Errand τ))}
    (hsession : session'.connection = session.connection) (hasked : asked.isConnect = false)
    (herrands : Inquiries errands) (hw : w'.2 = w.2 ++ [⟨asked, errands⟩])
    (ht : Told s.rfcommDeviceIndex (session, w)) : Told s.rfcommDeviceIndex (session', w') := by
  unfold Told at ht ⊢
  rw [hw, hsession]
  exact .idle ht hasked herrands

theorem told_attempt {device : BleIdentity} {initialized : Bool}
    {outcome : Outcome (DeviceRecord × Link (Channel τ) Empty)}
    {w w' : W × List (Passage BleIdentity (Errand τ))}
    (hconnect : (chronicler h s fetch).backend.connect device w = (outcome, w'))
    (hbefore : History s.rfcommDeviceIndex w.2 none) :
    Told s.rfcommDeviceIndex (⟨initialized, .ofAttempt device outcome⟩, w') := by
  obtain ⟨errands, hw, result, hopens, rfl⟩ :=
    (adds_backend_connect id h s device).gathered
      (fun outcome => Passage.mk (.connect device (outcome.map fun _ => ()))) hconnect
  unfold Told
  rw [hw]
  cases result with
  | ok opened => exact .opened hbefore hopens
  | error refusal => exact .refused hbefore hopens

variable
  {t t' : Situation (W × List (Passage BleIdentity (Errand τ))) BleIdentity (Channel τ) Empty}

theorem told_act (hact : Act (chronicler h s fetch) t t') (ht : Told s.rfcommDeviceIndex t) :
    Told s.rfcommDeviceIndex t' := by
  cases hact with
  | prepared hprepare =>
    obtain ⟨errands, hw, hquiet⟩ :=
      (adds_backend_prepare id h s).gathered (fun _ => Passage.mk .prepare) hprepare
    exact told_idle rfl rfl hquiet hw ht
  | unprepared hprepare =>
    obtain ⟨errands, hw, hquiet⟩ :=
      (adds_backend_prepare id h s).gathered (fun _ => Passage.mk .prepare) hprepare
    exact told_idle rfl rfl hquiet hw ht
  | listed hdevices =>
    obtain ⟨errands, hw, hquiet⟩ :=
      (adds_backend_devices id h s).gathered (fun _ => Passage.mk .devices) hdevices
    exact told_idle rfl rfl hquiet hw ht
  | fetched hfetch =>
    cases hfetch
    exact ht
  | dropped => exact ht
  | opened hconnect => exact told_attempt hconnect ht
  | closed hclose =>
    obtain ⟨errands, hw, hcloses⟩ :=
      (adds_closeChannel id h _).gathered (fun _ => Passage.mk .close) hclose
    unfold Told
    rw [hw]
    exact .closed ht hcloses
  | @polled _ _ _ request => exact request.elim
  | @reopened _ _ _ request => exact request.elim

theorem told_transfer (htransfer : Transfer (chronicler h s fetch) t t')
    (ht : Told s.rfcommDeviceIndex t) : Told s.rfcommDeviceIndex t' := by
  cases htransfer with
  | wrote hwrite =>
    obtain ⟨errands, hw, rfl⟩ :=
      (adds_backend_write id h s _ _).gathered (fun _ => Passage.mk .write) hwrite
    exact told_idle rfl rfl inquiries_nil hw ht
  | flushed hflush =>
    obtain ⟨errands, hw, rfl⟩ :=
      (adds_backend_flush id h s _).gathered (fun _ => Passage.mk .flush) hflush
    exact told_idle rfl rfl inquiries_nil hw ht

variable (h s fetch)

/-- Whatever happens to a printer, its chronicle is a history. -/
theorem told_live (nature : E → W → W) (w : W) (life : List (Happening BleIdentity E)) :
    Told s.rfcommDeviceIndex
      ((chronicler h s fetch).live (Record.beside nature) (.fresh (w, [])) life) := by
  refine Printer.live_keep told_act told_transfer ?_ life (.nothing)
  intro session w change ht
  exact ht

/-- A life is the same with a chronicle as without. -/
theorem live_chronicler (nature : E → W → W) (w : W) (life : List (Happening BleIdentity E)) :
    let t := (chronicler h s fetch).live (Record.beside nature) (.fresh (w, [])) life
    (printer h s fetch).live nature (.fresh w) life = (t.1, t.2.1) := by
  have hnature : ∀ change (u : W × List (Passage BleIdentity (Errand τ))),
      nature change u.1 = (Record.beside nature change u).1 := fun _ _ => rfl
  have hsame := Printer.live_seen (imitates_chronicler h s fetch) hnature life (.fresh (w, []))
  rw [Situation.seen_id, Situation.seen_id] at hsame
  exact hsame

end

end ReceiptPrinter.Bluetooth
