/-
What is closed when a run is over.

A print command opens a connection, does its job and closes the connection
again, whatever became of the job. There is one way around: if the file with
the raw bytes cannot be read, the run ends between opening and closing.
-/
import ReceiptPrinter.Bluetooth.Script
import ReceiptPrinter.Proofs.CommandLine.Errand

namespace ReceiptPrinter.CommandLine

open Machine

variable {W τ σ ι κ : Type}

-- ============================================================ transports

/-- One printer out of a registry that keeps a record, and the same one out
of a registry without: where their session is found, and which errands close
what they opened. -/
structure Serves (r' : Registry (StateM (W × List (Errand τ σ))) τ σ) (r : Registry (StateM W) τ σ)
    (kind : TransportKind) {ι κ : Type} [DecidableEq ι] (closes : κ → List (Errand τ σ) → Prop)
    (p' : Printer (StateM (W × List (Errand τ σ))) ι κ Empty) (p : Printer (StateM W) ι κ Empty)
    (part : Sessions τ σ → Session ι κ Empty)
    (put : Sessions τ σ → Session ι κ Empty → Sessions τ σ) : Prop where
  recorded : ∀ operation, r'.run kind operation = Registry.within p' part put operation
  plain : ∀ operation, r.run kind operation = Registry.within p part put operation
  part_put : ∀ sessions session, part (put sessions session) = session
  part_fresh : part .fresh = .fresh
  accept : ∀ device, p'.accept device = p.accept device
  noted : Noted closes p' p
  unopened : ∀ channel errands, closes channel errands → ∀ errand ∈ errands, errand.opens = false

section

variable [DecidableEq ι] {r' : Registry (StateM (W × List (Errand τ σ))) τ σ}
  {r : Registry (StateM W) τ σ} {kind : TransportKind} {closes : κ → List (Errand τ σ) → Prop}
  {p' : Printer (StateM (W × List (Errand τ σ))) ι κ Empty} {p : Printer (StateM W) ι κ Empty}
  {part : Sessions τ σ → Session ι κ Empty} {put : Sessions τ σ → Session ι κ Empty → Sessions τ σ}

/-- An operation on one of several sessions leaves the others alone. -/
theorem run_within {A : Type} {q : Printer (StateM A) ι κ Empty}
    {operation : Operation DeviceIdentity} {narrowed : Operation ι}
    (hnarrow : operation.narrow q = .ok narrowed) (sessions : Sessions τ σ) (a : A) :
    (Registry.within q part put operation).run sessions a
      = ((((q.perform narrowed).run.run (part sessions) a).1.1,
          put sessions ((q.perform narrowed).run.run (part sessions) a).1.2),
         ((q.perform narrowed).run.run (part sessions) a).2) := by
  unfold Registry.within
  rw [hnarrow]
  rfl

/-- What an operation adds is what its printer adds. -/
theorem proceeds_operate (h : Serves r' r kind closes p' p part put)
    {operation : Operation DeviceIdentity} (narrowed : Operation ι)
    (hnarrow' : operation.narrow p' = .ok narrowed) (hnarrow : operation.narrow p = .ok narrowed)
    {sessions : Sessions τ σ} {R : List (Errand τ σ) → Outcome Reply → Session ι κ Empty → Prop}
    (hR : Proceeds (p'.perform narrowed) (p.perform narrowed) (part sessions) R) :
    Proceeds (operate r' kind operation) (operate r kind operation) sessions
      fun added outcome sessions' => R added outcome (part sessions') := by
  unfold operate
  rw [h.recorded, h.plain]
  intro w record
  obtain ⟨added, hx, hR⟩ := hR w record
  refine ⟨added, ?_, ?_⟩
  · show (Registry.within p' part put operation).run sessions (w, record)
      = (((Registry.within p part put operation).run sessions w).1,
         ((Registry.within p part put operation).run sessions w).2, record ++ added.map id)
    rw [run_within hnarrow', run_within hnarrow, hx]
  · show R added ((Registry.within p part put operation).run sessions w).1.1
      (part ((Registry.within p part put operation).run sessions w).1.2)
    rw [run_within hnarrow, h.part_put]
    exact hR

/-- A printer selected in a fresh session is connected, and the last errands
were those that opened its channel; or nothing was opened. -/
theorem proceeds_selected (h : Serves r' r kind closes p' p part put) (device : DeviceIdentity) :
    Proceeds (operate r' kind (.select device)) (operate r kind (.select device)) .fresh
      fun added outcome sessions => match outcome with
        | .ok _ => Opened closes (part sessions) added
        | .error _ => ∀ errand ∈ added, errand.opens = false := by
  cases hid : p.accept device with
  | error e =>
    have hnarrow' : (Operation.select device).narrow p' = .error e :=
      congrArg (Except.map Operation.select) ((h.accept device).trans hid)
    have hnarrow : (Operation.select device).narrow p = .error e :=
      congrArg (Except.map Operation.select) hid
    unfold operate
    rw [h.recorded, h.plain]
    unfold Registry.within
    rw [hnarrow', hnarrow]
    exact Proceeds.throw (List.forall_mem_nil _)
  | ok id =>
    have hnarrow' : (Operation.select device).narrow p' = .ok (.select id) :=
      congrArg (Except.map Operation.select) ((h.accept device).trans hid)
    have hnarrow : (Operation.select device).narrow p = .ok (.select id) :=
      congrArg (Except.map Operation.select) hid
    have hselect := Printer.proceeds_select h.noted id
    rw [← h.part_fresh] at hselect
    refine (proceeds_operate h _ hnarrow' hnarrow (hselect.returning _)).mono ?_
    rintro added outcome sessions ⟨answer, ⟨before, rest, rfl, hbefore, hrest⟩, rfl⟩
    cases answer with
    | ok record =>
      obtain ⟨channel, hopen, hstarts⟩ := hrest
      exact ⟨channel, before, rest, hopen, rfl, hbefore, hstarts⟩
    | error e =>
      refine List.forall_mem_append.mpr
        ⟨fun errand hmem => opens_of_isInquiry (hbefore errand hmem), ?_⟩
      rcases hrest with rfl | hrest
      · exact List.forall_mem_nil _
      · exact hrest

/-- After a job, whatever became of it, the connection is closed. -/
theorem proceeds_finished (h : Serves r' r kind closes p' p part put) (job : Job)
    {sessions : Sessions τ σ} {before between : List (Errand τ σ)}
    (hopened : Opened closes (part sessions) before)
    (hbetween : ∀ errand ∈ between, errand.isInquiry = true) :
    Proceeds (finish r' kind job) (finish r kind job) sessions fun added _ _ =>
      Tidy (before ++ (between ++ added)) := by
  obtain ⟨channel, first, opening, hopen, rfl, hfirst, hstarts⟩ := hopened
  have hprint : Proceeds (operate r' kind (.print job)) (operate r kind (.print job)) sessions _ :=
    proceeds_operate h (.print job) rfl rfl
      ((Printer.proceeds_print h.noted job hopen).returning fun _ => Reply.done)
  refine hprint.lift.bind ?_
  rintro during outcome sessions' ⟨_, hleaves, -⟩
  have hclose : Succeeds (operate r' kind .close) (operate r kind .close) sessions' _ :=
    proceeds_operate h .close rfl rfl
      ((Printer.succeeds_close h.noted (part sessions')).returning fun _ => Reply.done)
  refine hclose.discard.bind ?_
  rintro closing u sessions'' ⟨_, _, -, -, hclosing⟩
  have htidy : Tidy (first ++ opening ++ (between ++ during ++ closing)) := by
    rcases hleaves with ⟨hsame, hcalm⟩ | ⟨hready, inner, shutting, rfl, hcalm, hshuts⟩
    · obtain ⟨initialized, id, record, hconnected⟩ := Session.eq_of_channel? hopen
      rw [hsame, hconnected] at hclosing
      exact tidy_of_starts hfirst hstarts (List.forall_mem_append.mpr ⟨hbetween, hcalm⟩)
        hclosing (h.unopened channel closing hclosing)
    · -- the job has failed and closed the channel itself
      rw [hready] at hclosing
      subst hclosing
      rw [List.append_nil, ← List.append_assoc between inner]
      exact tidy_of_starts hfirst hstarts (List.forall_mem_append.mpr ⟨hbetween, hcalm⟩)
        hshuts (h.unopened channel shutting hshuts)
  cases outcome with
  | ok _ => exact Adds.pure (by simpa using htidy)
  | error e => exact Adds.pure (by simpa using htidy)

/-- To list devices only finds something out. -/
theorem proceeds_listed (h : Serves r' r kind closes p' p part put) (sessions : Sessions τ σ) :
    Proceeds (operate r' kind .list) (operate r kind .list) sessions fun added _ _ =>
      ∀ errand ∈ added, errand.isInquiry = true := by
  refine (proceeds_operate h .list rfl rfl
    ((Printer.proceeds_list h.noted _).returning Reply.devices)).mono ?_
  rintro added outcome sessions' ⟨_, hcalm, -⟩
  exact hcalm

end

-- ============================================================== machines

section

variable (machine : Machine (StateM W) τ σ) (s : Settings)

theorem serves_bluetooth :
    Serves ⟨s, machine.recorded⟩ ⟨s, machine⟩ .ble Hangs (Registry.mk s machine.recorded).bluetooth
      (Registry.mk s machine).bluetooth Sessions.ble fun sessions session =>
        { sessions with ble := session } where
  recorded := fun _ => rfl
  plain := fun _ => rfl
  part_put := fun _ _ => rfl
  part_fresh := rfl
  accept := fun _ => rfl
  noted := noted_bluetooth machine s
  unopened := by
    rintro channel _ ⟨closing, rfl, hcloses⟩
    refine opens_bluetooth fun path terminal hmem => ?_
    cases hcloses <;> simp at hmem

/-- Without access to its bus, nothing can be opened. -/
theorem serves_usb :
    Serves ⟨s, machine.recorded⟩ ⟨s, machine⟩ .usb (fun channel _ => channel.elim)
      (Registry.mk s machine.recorded).usb (Registry.mk s machine).usb Sessions.usb
      fun sessions session => { sessions with usb := session } where
  recorded := fun _ => rfl
  plain := fun _ => rfl
  part_put := fun _ _ => rfl
  part_fresh := rfl
  accept := fun _ => rfl
  noted := noted_usb machine s
  unopened := fun channel => channel.elim

theorem serves_net :
    Serves ⟨s, machine.recorded⟩ ⟨s, machine⟩ .net Shuts (Registry.mk s machine.recorded).net
      (Registry.mk s machine).net Sessions.net fun sessions session =>
        { sessions with net := session } where
  recorded := fun _ => rfl
  plain := fun _ => rfl
  part_put := fun _ _ => rfl
  part_fresh := rfl
  accept := fun _ => rfl
  noted := noted_net machine s
  unopened := by
    rintro socket _ rfl
    exact List.forall_mem_singleton.mpr rfl

end

-- ============================================================== commands

/-- The printer of a transport is connected, through a channel that the last
errands have opened. -/
def Begun (kind : TransportKind) (sessions : Sessions τ σ) (errands : List (Errand τ σ)) : Prop :=
  match kind with
  | .ble => Opened Hangs sessions.ble errands
  | .usb => Opened (fun channel _ => channel.elim) sessions.usb errands
  | .net => Opened Shuts sessions.net errands

theorem Begun.last {kind : TransportKind} {sessions : Sessions τ σ} {errands : List (Errand τ σ)}
    (h : Begun kind sessions errands) :
    ∃ before opening, errands = before ++ [opening] ∧ opening.opens = true := by
  cases kind <;> exact Opened.last h

section

variable (desk : Desk (StateM W) τ σ) (s : Settings)

theorem proceeds_connect (target : Target) :
    Proceeds (connect ⟨s, desk.machine.recorded⟩ target) (connect ⟨s, desk.machine⟩ target)
      .fresh fun added outcome sessions => match outcome with
        | .ok kind => Begun kind sessions added
        | .error _ => ∀ errand ∈ added, errand.opens = false := by
  unfold connect
  cases target.identity with
  | error e => exact Proceeds.throw (List.forall_mem_nil _)
  | ok device =>
    have hselected : Proceeds
        (operate ⟨s, desk.machine.recorded⟩ device.transport (.select device))
        (operate ⟨s, desk.machine⟩ device.transport (.select device)) .fresh
        fun added outcome sessions => match outcome with
          | .ok _ => Begun device.transport sessions added
          | .error _ => ∀ errand ∈ added, errand.opens = false := by
      cases device with
      | ble id => exact proceeds_selected (serves_bluetooth desk.machine s) _
      | usb id => exact proceeds_selected (serves_usb desk.machine s) _
      | net id => exact proceeds_selected (serves_net desk.machine s) _
    show Proceeds (do
        discard (operate ⟨s, desk.machine.recorded⟩ device.transport (.select device))
        return device.transport)
      (do
        discard (operate ⟨s, desk.machine⟩ device.transport (.select device))
        return device.transport) .fresh _
    refine Proceeds.bind hselected.discard ?_ ?_
    · rintro added _ sessions ⟨answer, hadded, hanswer⟩
      cases answer with
      | ok reply => exact Proceeds.pure (by simpa using hadded)
      | error e => cases hanswer
    · rintro added _ sessions ⟨answer, hadded, hanswer⟩
      cases answer with
      | ok reply => cases hanswer
      | error e => exact hadded

theorem proceeds_finish {kind : TransportKind} {sessions : Sessions τ σ}
    {before between : List (Errand τ σ)} (h : Begun kind sessions before)
    (hbetween : ∀ errand ∈ between, errand.isInquiry = true) (job : Job) :
    Proceeds (finish ⟨s, desk.machine.recorded⟩ kind job) (finish ⟨s, desk.machine⟩ kind job)
      sessions fun added _ _ => Tidy (before ++ (between ++ added)) := by
  cases kind with
  | ble => exact proceeds_finished (serves_bluetooth desk.machine s) job h hbetween
  | usb => exact proceeds_finished (serves_usb desk.machine s) job h hbetween
  | net => exact proceeds_finished (serves_net desk.machine s) job h hbetween

/-- A connection for one job. -/
theorem proceeds_job (target : Target) (job : Job) :
    Proceeds
      (do finish ⟨s, desk.machine.recorded⟩ (← connect ⟨s, desk.machine.recorded⟩ target) job)
      (do finish ⟨s, desk.machine⟩ (← connect ⟨s, desk.machine⟩ target) job) .fresh
      fun added _ _ => Tidy added := by
  refine Proceeds.bind (proceeds_connect desk s target) ?_ ?_
  · rintro before kind sessions hbegun
    exact proceeds_finish desk s hbegun (List.forall_mem_nil _) job
  · rintro added e sessions hunopened
    exact tidy_of_unopened hunopened

theorem adds_outcome (path : String) :
    Adds id (return OsError.outcome (← desk.recorded.readFile path))
      (return OsError.outcome (← desk.readFile path)) fun added outcome =>
        ∃ contents, added = [.read path contents] ∧ outcome = OsError.outcome contents := by
  refine (adds_readFile desk.machine path).bind fun added contents hadded => ?_
  subst hadded
  exact .pure ⟨contents, rfl, rfl⟩

/-- With the raw bytes in a file, the run ends if the file cannot be read,
and nobody closes the connection. -/
theorem proceeds_file (target : Target) (path : String) :
    Proceeds (perform desk.recorded s (.printRaw target (.file path)))
      (perform desk s (.printRaw target (.file path))) .fresh
      fun added _ _ => Tidy added ∨ CutShort (.printRaw target (.file path)) added := by
  refine Proceeds.bind (proceeds_connect desk s target) ?_ ?_
  · rintro before kind sessions hbegun
    replace hbegun : Begun kind sessions before := hbegun
    refine Proceeds.bind (Proceeds.attempt (adds_outcome desk path)) ?_ ?_
    · rintro _ content _ ⟨⟨contents, rfl, -⟩, rfl⟩
      have hread : ∀ errand ∈ [Errand.read (τ := τ) (σ := σ) path contents],
          errand.isInquiry = true := List.forall_mem_singleton.mpr rfl
      refine (proceeds_finish desk s hbegun hread (.bytes content)).mono ?_
      exact fun added _ _ htidy => .inl htidy
    · rintro _ e _ ⟨⟨contents, rfl, hfail⟩, rfl⟩
      cases contents with
      | ok content => cases hfail
      | error reason =>
        obtain ⟨first, opening, rfl, hopens⟩ := hbegun.last
        exact .inr ⟨target, path, reason, first, opening, rfl, by simp, hopens⟩
  · rintro added e sessions hunopened
    exact .inl (tidy_of_unopened hunopened)

-- ============================================================== searches

/-- To search the network is no errand. -/
theorem proceeds_search (noNetwork : PrinterError) (sessions : Sessions τ σ) :
    Proceeds (search desk.recorded s noNetwork) (search desk s noNetwork) sessions
      fun added _ _ => added = [] := by
  refine (succeeds_effect (adds_aside id desk.lan)).bind ?_
  rintro _ lan _ ⟨rfl, rfl⟩
  rcases Scan.Phase.idle.advance (.ofSettings s) lan .fresh with ⟨phase, _⟩
  dsimp only
  cases phase.result with
  | some found => exact Proceeds.pure rfl
  | none => exact Proceeds.throw rfl

theorem proceeds_list (kind : TransportKind) :
    Proceeds (operate ⟨s, desk.machine.recorded⟩ kind .list) (operate ⟨s, desk.machine⟩ kind .list)
      .fresh fun added _ _ => ∀ errand ∈ added, errand.isInquiry = true := by
  cases kind with
  | ble => exact proceeds_listed (serves_bluetooth desk.machine s) .fresh
  | usb => exact proceeds_listed (serves_usb desk.machine s) .fresh
  | net => exact proceeds_listed (serves_net desk.machine s) .fresh

/-- To list devices is to open none of them. -/
theorem proceeds_lines (kind : TransportKind) :
    Proceeds (do
        match ← operate ⟨s, desk.machine.recorded⟩ kind .list with
        | .devices records => return recordLines records
        | _ => return [])
      (do
        match ← operate ⟨s, desk.machine⟩ kind .list with
        | .devices records => return recordLines records
        | _ => return []) .fresh fun added _ _ => Tidy added := by
  have htidy : ∀ {added : List (Errand τ σ)}, (∀ errand ∈ added, errand.isInquiry = true) →
      Tidy added := fun hcalm =>
    tidy_of_unopened fun errand hmem => opens_of_isInquiry (hcalm errand hmem)
  refine Proceeds.bind (proceeds_list desk s kind) ?_ ?_
  · rintro added reply sessions hcalm
    cases reply <;> exact Proceeds.pure (htidy (by simpa using hcalm))
  · rintro added e sessions hcalm
    exact htidy hcalm

theorem proceeds_perform (request : Request) :
    Proceeds (perform desk.recorded s request) (perform desk s request) .fresh
      fun added _ _ => Tidy added ∨ CutShort request added := by
  have hjob := fun target job => (proceeds_job desk s target job).mono fun added _ _ htidy =>
    Or.inl (b := CutShort request added) htidy
  have hsearch := fun noNetwork => (proceeds_search desk s noNetwork .fresh).mono
    fun added _ _ hadded =>
      Or.inl (b := CutShort request added) (hadded ▸ tidy_of_unopened (List.forall_mem_nil _))
  have hlist := fun kind => (proceeds_lines desk s kind).mono fun added _ _ htidy =>
    Or.inl (b := CutShort request added) htidy
  cases request with
  | list kind config =>
    cases kind with
    | ble => exact hlist .ble
    | usb => exact hlist .usb
    | net => exact hsearch _
  | scan => exact hsearch _
  | printRaw target source =>
    cases source with
    | base64 payload => exact hjob target _
    | file path => exact proceeds_file desk s target path
  | printText target text bill => exact hjob target _
  | printImage target locator max => exact hjob target _
  | printQr target text size => exact hjob target _

-- ================================================================= runs

theorem adds_settings (config : Option String) :
    Adds id (settings desk.recorded config) (settings desk config) fun added _ =>
      ∀ errand ∈ added, errand.isInquiry = true := by
  cases config with
  | none => exact .pure (List.forall_mem_nil _)
  | some path =>
    refine (adds_readFile desk.machine path).bind fun added contents hadded => ?_
    subst hadded
    exact .pure (List.forall_mem_singleton.mpr rfl)

theorem adds_invoke (call : Invocation) :
    Adds id (invoke desk.recorded call) (invoke desk call) fun added _ =>
      AllSettled added ∨ CutShort call.request added := by
  refine (adds_settings desk call.config).bind fun earlier loaded hearlier => ?_
  cases loaded with
  | error e =>
    refine .pure (.inl ?_)
    rw [List.append_nil]
    exact tidy_of_unopened (fun errand hmem => opens_of_isInquiry (hearlier errand hmem)) []
      (List.forall_mem_nil _)
  | ok s =>
    refine Adds.bind (proceeds_perform desk s call.request) fun added result hadded => ?_
    have hwhole : AllSettled (earlier ++ added) ∨ CutShort call.request (earlier ++ added) := by
      rcases hadded with htidy | ⟨target, path, reason, before, opening, hrequest, rfl, hopens⟩
      · exact .inl (htidy earlier hearlier)
      · exact .inr ⟨target, path, reason, earlier ++ before, opening, hrequest, by simp, hopens⟩
    rcases result with ⟨outcome, sessions⟩
    cases outcome with
    | ok lines => exact .pure (by simpa using hwhole)
    | error e => exact .pure (by simpa using hwhole)

theorem adds_run (words : List String) :
    Adds id (run desk.recorded words) (run desk words) fun added _ =>
      AllSettled added ∨ ∃ call, parse words = .ok call ∧ CutShort call.request added := by
  have hnothing : AllSettled ([] : List (Errand τ σ)) := fun _ _ _ hsplit => by simp at hsplit
  unfold run
  cases parse words with
  | error stop => cases stop <;> exact .pure (.inl hnothing)
  | ok call =>
    refine (adds_invoke desk call).bind fun added result hadded => .pure ?_
    rw [List.append_nil]
    exact hadded.imp_right fun hcut => ⟨call, rfl, hcut⟩

/-- Nobody has closed what was opened just before a file was read. -/
theorem not_settled_of_cutShort {request : Request} {errands : List (Errand τ σ)}
    (h : CutShort request errands) : ¬ AllSettled errands := by
  obtain ⟨target, path, reason, before, opening, -, rfl, hopens⟩ := h
  intro hsettled
  have hopening := hsettled before opening [.read path (.error reason)] (by simp)
  obtain ⟨closing, hmem, hcloses⟩ := hopening.closes hopens
  rw [List.mem_singleton.mp hmem] at hcloses
  cases hcloses

/-- A run goes on as it does without a record of its errands, and when it is
over, everything that was opened has been closed again; except after a
command to print raw bytes from a file, when the connection was opened and
the file could not be read. -/
theorem run_settles (words : List String) (w : W) :
    ∃ errands, run desk.recorded words (w, [])
        = ((run desk words w).1, ((run desk words w).2, errands))
      ∧ (AllSettled errands ↔
        ¬ ∃ call, parse words = .ok call ∧ CutShort call.request errands) := by
  obtain ⟨added, hrun, hadded⟩ := adds_run desk words w []
  rw [List.map_id, List.nil_append] at hrun
  refine ⟨added, hrun, ?_, fun hcut => hadded.resolve_right hcut⟩
  rintro hsettled ⟨call, -, hcut⟩
  exact not_settled_of_cutShort hcut hsettled

end

/-- A desk with a scripted machine and no network, on which no file can be
read. -/
def unfiled : Desk (StateM Bluetooth.Script.Scene) Unit Empty where
  machine :=
    { bluetooth := Bluetooth.Script.host
      net :=
        { connect := fun _ _ => return .error .timedOut
          write := fun socket => socket.elim
          flush := fun socket => socket.elim
          shutdown := fun socket => socket.elim
          search := return }
      sources := ⟨fun _ => return .error .notFound, fun _ => return none⟩ }
  lan := return ⟨some none, fun _ _ => false⟩

/-- One paired device, for which a binding with a node can be made. -/
def bindable : Bluetooth.Script.Scene :=
  .fresh
    [("bluetoothctl show", ⟨⟨utf8 "Powered: yes".toList, [], .status 0⟩, none, false⟩),
     ("bluetoothctl devices Paired",
      ⟨⟨utf8 "Device 00:11:22:33:44:55 Printer".toList, [], .status 0⟩, none, false⟩),
     ("rfcomm bind 0 00:11:22:33:44:55 1", ⟨⟨[], [], .status 0⟩, some "/dev/pts/0", false⟩)]
    "/dev/pts/0"

/-- There is a command line after which a terminal is open, and the binding
that was made for it stands. -/
theorem run_leaves_open :
    let errands := (run unfiled.recorded
      ["print-raw", "--mac", "00:11:22:33:44:55", "--file", "receipt.bin"] (bindable, [])).2.2
    errands.any Errand.opens ∧ ¬ AllSettled errands := by
  intro errands
  obtain ⟨hopens, hcloses⟩ : errands.any Errand.opens ∧ ¬ errands.any Errand.closes := by
    decide +kernel
  exact ⟨hopens, fun hsettled => hcloses (hsettled.closes hopens)⟩

end ReceiptPrinter.CommandLine
