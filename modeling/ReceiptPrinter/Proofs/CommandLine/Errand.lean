/-
What the printers of a machine send it to do.

Each transport opens its channels with one errand and closes them with
others, after which nothing is left of them; in between it only finds things
out. A row of errands in which a channel is opened, used and closed is
settled therefore.
-/
import ReceiptPrinter.CommandLine.Errand
import ReceiptPrinter.Proofs.Bluetooth.Backend
import ReceiptPrinter.Proofs.Session.Recorded

namespace ReceiptPrinter

variable {W τ σ α : Type}

namespace Machine

-- ============================================================== errands

/-- Whether an errand only finds something out. -/
def Errand.isInquiry : Errand τ σ → Bool
  | bluetooth errand => errand.isInquiry
  | net _ => false
  | read _ _ => true

/-- These errands close a Bluetooth channel. -/
def Hangs (channel : Bluetooth.Channel τ) (errands : List (Errand τ σ)) : Prop :=
  ∃ closing, errands = closing.map .bluetooth ∧ Bluetooth.Closes channel closing

/-- These errands close a socket. -/
def Shuts (socket : σ) (errands : List (Errand τ σ)) : Prop := errands = [.net (.shut socket)]

/-- These errands open a channel, with the last one of them; once those that
close it have been done, it is settled. -/
def Starts {κ : Type} (closes : κ → List (Errand τ σ) → Prop) (channel : κ)
    (errands : List (Errand τ σ)) : Prop :=
  ∃ before opening, errands = before ++ [opening] ∧ opening.opens = true
    ∧ (∀ errand ∈ before, errand.opens = false)
    ∧ ∀ earlier during closing : List (Errand τ σ), (∀ errand ∈ earlier, errand.isInquiry = true) →
        closes channel closing → opening.Settled (earlier ++ before) (during ++ closing)

theorem inquiries_bluetooth {errands : List (Bluetooth.Errand τ)}
    (h : Bluetooth.Inquiries errands) :
    ∀ errand ∈ errands.map (Errand.bluetooth (σ := σ)), errand.isInquiry = true := by
  intro errand hmem
  obtain ⟨told, htold, rfl⟩ := List.mem_map.mp hmem
  exact h told htold

/-- To find something out opens nothing. -/
theorem opens_of_isInquiry {errand : Errand τ σ} (h : errand.isInquiry = true) :
    errand.opens = false := by
  cases errand with
  | bluetooth errand => cases errand <;> first | rfl | cases h
  | net errand => cases h
  | read path contents => rfl

/-- Only opening a terminal opens anything on the Bluetooth side. -/
theorem opens_bluetooth {errands : List (Bluetooth.Errand τ)}
    (h : ∀ path terminal, .opened path (.ok terminal) ∉ errands) :
    ∀ errand ∈ errands.map (Errand.bluetooth (σ := σ)), errand.opens = false := by
  intro errand hmem
  obtain ⟨told, htold, rfl⟩ := List.mem_map.mp hmem
  cases told with
  | opened path result =>
    cases result with
    | ok terminal => exact absurd htold (h path terminal)
    | error reason => rfl
  | _ => rfl

/-- A Bluetooth channel that was opened is settled once it is closed. -/
theorem starts_of_opens {index : UInt8} {id : BleIdentity} {errands : List (Bluetooth.Errand τ)}
    {record : DeviceRecord} {channel : Bluetooth.Channel τ}
    (h : Bluetooth.Opens index id errands (.ok (record, channel))) :
    Starts Hangs channel (errands.map (Errand.bluetooth (σ := σ))) := by
  obtain ⟨before, path, rfl, hopened, hbound⟩ := h.last
  refine ⟨before.map .bluetooth, .bluetooth (.opened path (.ok channel.terminal)),
    List.map_append, rfl, opens_bluetooth hopened, ?_⟩
  rintro earlier during _ hearlier ⟨closing, rfl, hcloses⟩
  refine ⟨List.mem_append_right _ (List.mem_map_of_mem hcloses.closed), ?_⟩
  intro n mac number printed hmem
  rcases List.mem_append.mp hmem with hmem | hmem
  · exact nomatch hearlier _ hmem
  · obtain ⟨told, htold, heq⟩ := List.mem_map.mp hmem
    cases heq
    obtain ⟨released, hreleased⟩ := hcloses.release (hbound n mac number printed htold)
    exact ⟨released, List.mem_append_right _ (List.mem_map_of_mem hreleased)⟩

-- ============================================================= fetching

section

variable (machine : Machine (StateM W) τ σ)

theorem adds_readFile (path : String) :
    Adds id (machine.recorded.sources.readFile path) (machine.sources.readFile path)
      fun added contents => added = [.read path contents] :=
  adds_noting id (machine.sources.readFile path) _

theorem adds_receive (url : Fetch.Url)
    {redirected' : Fetch.Url → StateM (W × List (Errand τ σ)) (Except Fetch.DownloadFault Bytes)}
    {redirected : Fetch.Url → StateM W (Except Fetch.DownloadFault Bytes)}
    (hredirected : ∀ next, Adds id (redirected' next) (redirected next) fun added _ => added = []) :
    Adds id (Fetch.receive machine.recorded.sources url redirected')
      (Fetch.receive machine.sources url redirected) fun added _ => added = [] := by
  refine (adds_aside id (machine.sources.request url)).bind fun added response hadded => ?_
  subst hadded
  cases response with
  | none => exact .pure rfl
  | some response =>
    dsimp only
    cases response.next? url with
    | some next => exact hredirected next
    | none => exact .pure rfl

/-- To download something is not an errand. -/
theorem adds_downloadFrom (left : Nat) (url : Fetch.Url) :
    Adds (A := Errand τ σ) id (Fetch.downloadFrom machine.recorded.sources left url)
      (Fetch.downloadFrom machine.sources left url) fun added _ => added = [] := by
  induction left generalizing url with
  | zero => exact adds_receive machine url fun _ => .pure rfl
  | succ left ih => exact adds_receive machine url ih

theorem adds_fetch (locator : String) :
    Adds id (Fetch.fetch machine.recorded.sources locator) (Fetch.fetch machine.sources locator)
      fun added _ => ∀ errand ∈ added, errand.isInquiry = true := by
  have hload : ∀ path, Adds id (Fetch.load machine.recorded.sources path)
      (Fetch.load machine.sources path) fun added _ =>
        ∀ errand ∈ added, errand.isInquiry = true := by
    intro path
    refine (adds_readFile machine path).bind fun added contents hadded => ?_
    subst hadded
    split <;> exact .pure (by simp [Errand.isInquiry])
  have hdownload : Adds id (Fetch.download machine.recorded.sources locator)
      (Fetch.download machine.sources locator)
      fun added _ => ∀ errand ∈ added, errand.isInquiry = true := by
    unfold Fetch.download
    split
    · exact .pure (List.forall_mem_nil _)
    · next url _ =>
      split
      · exact .pure (List.forall_mem_nil _)
      · refine (adds_downloadFrom machine _ url).bind fun added result hadded => ?_
        subst hadded
        cases result with
        | ok body => exact .pure (List.forall_mem_nil _)
        | error fault => exact .pure (List.forall_mem_nil _)
  unfold Fetch.fetch
  dsimp only
  split
  · exact hdownload
  · split <;> exact hload _

theorem adds_picture (locator : String) :
    Adds id (Fetch.picture machine.recorded.sources locator) (Fetch.picture machine.sources locator)
      fun added _ => ∀ errand ∈ added, errand.isInquiry = true := by
  refine (adds_fetch machine locator).bind fun added result hcalm => ?_
  cases result with
  | ok image => exact .pure (by simpa using hcalm)
  | error fault => exact .pure (by simpa using hcalm)

-- ========================================================== transports

variable (settings : Settings)

/-- What the printers of a machine add for each thing that they ask. -/
abbrev Noted {ι κ : Type} (closes : κ → List (Errand τ σ) → Prop)
    (p' : Printer (StateM (W × List (Errand τ σ))) ι κ Empty) (p : Printer (StateM W) ι κ Empty) :
    Prop :=
  Printer.Notes (fun errand => errand.isInquiry = true)
    (fun errands => ∀ errand ∈ errands, errand.opens = false) (Starts closes) closes p' p

theorem noted_bluetooth :
    Noted Hangs (Registry.mk settings machine.recorded).bluetooth
      (Registry.mk settings machine).bluetooth where
  settings := rfl
  prepare := by
    refine (Bluetooth.adds_backend_prepare _ machine.bluetooth settings).entries.mono ?_
    rintro added outcome ⟨told, rfl, hquiet⟩
    exact inquiries_bluetooth hquiet
  devices := by
    refine (Bluetooth.adds_backend_devices _ machine.bluetooth settings).entries.mono ?_
    rintro added outcome ⟨told, rfl, hquiet⟩
    exact inquiries_bluetooth hquiet
  connect := by
    intro device
    refine (Bluetooth.adds_backend_connect _ machine.bluetooth settings device).entries.mono ?_
    rintro added outcome ⟨told, rfl, result, hopens, rfl⟩
    cases result with
    | ok opened => exact starts_of_opens hopens
    | error refusal => exact opens_bluetooth hopens.unopened
  write := by
    intro channel chunk
    refine (Bluetooth.adds_backend_write _ machine.bluetooth settings channel chunk).entries.mono ?_
    rintro added outcome ⟨told, rfl, rfl⟩
    exact List.forall_mem_nil _
  flush := by
    intro channel
    refine (Bluetooth.adds_backend_flush _ machine.bluetooth settings channel).entries.mono ?_
    rintro added outcome ⟨told, rfl, rfl⟩
    exact List.forall_mem_nil _
  close := fun channel => (Bluetooth.adds_closeChannel _ machine.bluetooth channel).entries
  fetch := adds_picture machine

theorem noted_net :
    Noted Shuts (Registry.mk settings machine.recorded).net (Registry.mk settings machine).net where
  settings := rfl
  prepare := .pure (List.forall_mem_nil _)
  devices := by
    refine (adds_aside id machine.net.search).bind fun added _ hadded => ?_
    subst hadded
    exact .pure (List.forall_mem_nil _)
  connect := by
    intro device
    refine (adds_noting id
      (machine.net.connect device.address settings.netConnectTimeoutMs) fun result =>
        Errand.net (.connected device.address result)).bind fun added result hadded => ?_
    subst hadded
    cases result with
    | error fault => exact .pure (by simp [Errand.opens])
    | ok socket =>
      refine .pure ⟨[], .net (.connected device.address (.ok socket)), rfl, rfl,
        List.forall_mem_nil _, ?_⟩
      rintro earlier during closing - rfl
      exact List.mem_append_right _ (List.mem_singleton_self _)
  write := by
    intro socket chunk
    refine (adds_aside id (machine.net.write socket chunk)).bind fun added result hadded => ?_
    subst hadded
    exact .pure (List.forall_mem_nil _)
  flush := by
    intro socket
    refine (adds_aside id (machine.net.flush socket)).bind fun added result hadded => ?_
    subst hadded
    exact .pure (List.forall_mem_nil _)
  close := fun socket =>
    adds_noting id (machine.net.shutdown socket) fun _ => Errand.net (.shut socket)
  fetch := adds_picture machine

theorem noted_usb :
    Noted (fun (channel : Empty) _ => channel.elim) (Registry.mk settings machine.recorded).usb
      (Registry.mk settings machine).usb where
  settings := rfl
  prepare := .pure (List.forall_mem_nil _)
  devices := .pure (List.forall_mem_nil _)
  connect := fun _ => .pure (List.forall_mem_nil _)
  write := fun channel => channel.elim
  flush := fun channel => channel.elim
  close := fun channel => channel.elim
  fetch := adds_picture machine

end

-- ============================================================ settling

/-- However the run began, everything that was opened has been closed. -/
def Tidy (errands : List (Errand τ σ)) : Prop :=
  ∀ earlier : List (Errand τ σ), (∀ errand ∈ earlier, errand.isInquiry = true) →
    AllSettled (earlier ++ errands)

/-- Whatever opens nothing is settled. -/
theorem Errand.settled_of_unopened {errand : Errand τ σ} (h : errand.opens = false)
    (before after : List (Errand τ σ)) : errand.Settled before after := by
  cases errand with
  | bluetooth errand =>
    cases errand with
    | opened path result =>
      cases result with
      | ok terminal => cases h
      | error reason => trivial
    | _ => trivial
  | net errand =>
    cases errand with
    | connected address result =>
      cases result with
      | ok socket => cases h
      | error fault => trivial
    | shut socket => trivial
  | read path contents => trivial

/-- What was opened is only settled if something was closed. -/
theorem Errand.Settled.closes {before after : List (Errand τ σ)} {errand : Errand τ σ}
    (h : errand.Settled before after) (hopens : errand.opens = true) :
    ∃ closing ∈ after, closing.closes = true := by
  cases errand with
  | bluetooth errand =>
    cases errand with
    | opened path result =>
      cases result with
      | ok terminal => exact ⟨_, h.1, rfl⟩
      | error reason => cases hopens
    | _ => cases hopens
  | net errand =>
    cases errand with
    | connected address result =>
      cases result with
      | ok socket => exact ⟨_, h, rfl⟩
      | error fault => cases hopens
    | shut socket => cases hopens
  | read path contents => cases hopens

theorem AllSettled.closes {errands : List (Errand τ σ)} (h : AllSettled errands)
    (hopens : errands.any Errand.opens = true) : errands.any Errand.closes = true := by
  obtain ⟨opening, hmem, hopening⟩ := List.any_eq_true.mp hopens
  obtain ⟨before, after, rfl⟩ := List.append_of_mem hmem
  obtain ⟨closing, hafter, hcloses⟩ := (h before opening after rfl).closes hopening
  exact List.any_eq_true.mpr
    ⟨closing, List.mem_append_right _ (List.mem_cons_of_mem _ hafter), hcloses⟩

theorem tidy_of_unopened {errands : List (Errand τ σ)}
    (h : ∀ errand ∈ errands, errand.opens = false) : Tidy errands := by
  intro earlier hearlier before errand after hsplit
  refine Errand.settled_of_unopened ?_ before after
  rcases List.mem_append.mp (mem_of_split hsplit) with hmem | hmem
  · exact opens_of_isInquiry (hearlier errand hmem)
  · exact h errand hmem

/-- A session that is connected through a channel, after errands of which
the last ones opened it. -/
def Opened {ι κ : Type} (closes : κ → List (Errand τ σ) → Prop) (session : Session ι κ Empty)
    (errands : List (Errand τ σ)) : Prop :=
  ∃ channel before opening, session.connection.channel? = some channel
    ∧ errands = before ++ opening ∧ (∀ errand ∈ before, errand.isInquiry = true)
    ∧ Starts closes channel opening

theorem Opened.last {ι κ : Type} {closes : κ → List (Errand τ σ) → Prop}
    {session : Session ι κ Empty} {errands : List (Errand τ σ)}
    (h : Opened closes session errands) :
    ∃ before opening, errands = before ++ [opening] ∧ opening.opens = true := by
  obtain ⟨channel, before, _, -, rfl, -, first, opening, rfl, hopens, -⟩ := h
  exact ⟨before ++ first, opening, (List.append_assoc ..).symm, hopens⟩

/-- What was opened is settled once it has been used and closed. -/
theorem tidy_of_starts {κ : Type} {closes : κ → List (Errand τ σ) → Prop} {channel : κ}
    {before opening during closing : List (Errand τ σ)}
    (hbefore : ∀ errand ∈ before, errand.isInquiry = true) (hstarts : Starts closes channel opening)
    (hduring : ∀ errand ∈ during, errand.isInquiry = true) (hcloses : closes channel closing)
    (hclosing : ∀ errand ∈ closing, errand.opens = false) :
    Tidy (before ++ opening ++ (during ++ closing)) := by
  obtain ⟨first, last, rfl, hopens, hfirst, hsettled⟩ := hstarts
  intro earlier hearlier prior errand after hsplit
  by_cases hopened : errand.opens = true
  · -- it is the one errand that opened something
    have hsplit' : (earlier ++ before ++ first) ++ last :: (during ++ closing)
        = prior ++ errand :: after := by simpa using hsplit
    have hpre : ∀ other ∈ earlier ++ before ++ first, other.opens = false := by
      refine List.forall_mem_append.mpr ⟨List.forall_mem_append.mpr ⟨?_, ?_⟩, hfirst⟩
      · exact fun other hmem => opens_of_isInquiry (hearlier other hmem)
      · exact fun other hmem => opens_of_isInquiry (hbefore other hmem)
    have hpost : ∀ other ∈ during ++ closing, other.opens = false :=
      List.forall_mem_append.mpr
        ⟨fun other hmem => opens_of_isInquiry (hduring other hmem), hclosing⟩
    have hnot : ∀ {others : List (Errand τ σ)}, (∀ other ∈ others, other.opens = false) →
        errand ∉ others := fun hothers hmem =>
      Bool.false_ne_true ((hothers errand hmem).symm.trans hopened)
    rcases split_append hsplit' with ⟨rest, hrest, -⟩ | ⟨rest, rfl, hrest⟩
    · exact absurd (mem_of_split hrest) (hnot hpre)
    · obtain ⟨rfl, rfl, rfl⟩ := split_head hrest (hnot hpost)
      rw [List.append_nil]
      refine hsettled (earlier ++ before) during closing ?_ hcloses
      exact List.forall_mem_append.mpr ⟨hearlier, hbefore⟩
  · exact Errand.settled_of_unopened (by simpa using hopened) prior after

end Machine

end ReceiptPrinter
