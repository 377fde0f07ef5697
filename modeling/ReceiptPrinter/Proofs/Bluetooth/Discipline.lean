/-
Which bindings are made, and which are released.

Bindings on a machine belong to whoever made them. The transport makes one
only for a device that it has just seen in the list of paired devices and
for which it has found no node, and it releases only what it has made
itself and not released before. A device that is bound already is used as
it is. All three are read off the history of a printer.
-/
import ReceiptPrinter.Proofs.Bluetooth.History
import Mathlib.Data.List.TakeWhile

namespace ReceiptPrinter.Bluetooth

variable {W τ E : Type}

-- ============================================================== binding

section

variable {id : BleIdentity} {errands : List (Errand τ)} {record : DeviceRecord}

/-- Looking for a binding in vain finds no node. -/
theorem Looks.absent {mac : String} {listing : Except OsError (List Char)}
    (h : Looks mac listing errands none) (path : String) : .looked path true ∉ errands := by
  cases h <;> simp

/-- The node that a listing names was missed if the search was in vain. -/
theorem Looks.missed {mac : String} {listing : Except OsError (List Char)}
    (h : Looks mac listing errands none) {path : String} (hnamed : named? mac listing = some path) :
    .looked path false ∈ errands := by
  cases h with
  | unnamed hnone =>
    rw [hnone] at hnamed
    cases hnamed
  | missing hsome =>
    rw [hsome] at hnamed
    cases hnamed
    exact List.mem_singleton_self _

theorem Lists.absent {result : Except Refusal (List DeviceRecord)} (h : Lists errands result)
    (path : String) (found : Bool) : .looked path found ∉ errands := by
  cases h <;> simp

/-- The devices come from a listing. -/
theorem Lists.listing {devices : List DeviceRecord} (h : Lists errands (.ok devices)) :
    ∃ listing : List Char, devices = deviceList listing
      ∧ (.ran .listPaired (.ok listing) ∈ errands
          ∨ .ran .listPairedOld (.ok listing) ∈ errands) := by
  cases h with
  | told => exact ⟨_, rfl, .inl (List.mem_singleton_self _)⟩
  | toldOld => exact ⟨_, rfl, .inr (by simp)⟩

/-- Once a paired device was found and no node for it, a binding may be
made. -/
theorem Meets.mayBind (h : Meets id errands record none) : MayBind id errands := by
  cases h with
  | @meets listed looked devices _ _ hmac hlists hrecord hfinds =>
    cases hfinds with
    | @inListing table listing first again _ htable hlisting =>
      refine ⟨hmac, ?_, ⟨table, listing, by simp, by simp, ?_⟩, ?_⟩
      · obtain ⟨listing, rfl, hlisted⟩ := hlists.listing
        refine ⟨listing, hlisted.imp (List.mem_append_left _) (List.mem_append_left _), record,
          List.mem_of_find?_eq_some hrecord, ?_⟩
        simpa using List.find?_some hrecord
      · rintro path (hnamed | hnamed)
        · simp [htable.missed hnamed]
        · simp [hlisting.missed hnamed]
      · intro path
        simp [hlists.absent, htable.absent, hlisting.absent]

/-- What is done before a binding is made finds no node. -/
theorem MayBind.advanced (h : MayBind id errands) {mac : String}
    {service connected : Except OsError (List Char)} :
    MayBind id (errands ++ advances mac service connected) := by
  obtain ⟨hmac, ⟨listing, hlisted, hrecord⟩, ⟨table, bindings, htable, hbindings, hmissed⟩,
    habsent⟩ := h
  refine ⟨hmac, ⟨listing, ?_, hrecord⟩, ⟨table, bindings, ?_, ?_, ?_⟩, ?_⟩
  · exact hlisted.imp (List.mem_append_left _) (List.mem_append_left _)
  · exact List.mem_append_left _ htable
  · exact List.mem_append_left _ hbindings
  · exact fun path hnamed => List.mem_append_left _ (hmissed path hnamed)
  · simp [habsent, advances]

end

/-- Whether none of the errands makes or releases a binding. -/
def Unconcerned (errands : List (Errand τ)) : Prop :=
  ∀ errand ∈ errands, errand.concernsBinding = false

theorem Inquiries.unconcerned {errands : List (Errand τ)} (h : Inquiries errands) :
    Unconcerned errands := by
  intro errand hmem
  have hquiet := h errand hmem
  cases errand with
  | ran call printed => cases call <;> first | rfl | cases hquiet
  | _ => rfl

/-- The part of the errands that has to do with bindings, when a device is
opened, and the binding that goes with the channel. -/
inductive Concerns (index : UInt8) (id : BleIdentity) :
    List (Errand τ) → Option UInt8 → Prop where
  | nothing {errands : List (Errand τ)} (h : Unconcerned errands) : Concerns index id errands none
  /-- A binding is made, or cannot be made. -/
  | bound {before after : List (Errand τ)} {channel : UInt8} {printed : Except OsError (List Char)}
    {binding : Option UInt8} (hbefore : Inquiries before) (hmay : MayBind id before)
    (hafter : Unconcerned after)
    (hbinding : ∀ n, binding = some n → n = index ∧ ∃ text, printed = .ok text) :
    Concerns index id (before ++ .ran (.bind index id.mac channel) printed :: after) binding
  /-- A binding is made and released again. -/
  | undone {before after : List (Errand τ)} {channel : UInt8} {text : List Char}
    {released : Except OsError (List Char)} (hbefore : Inquiries before) (hmay : MayBind id before)
    (hafter : Unconcerned after) :
    Concerns index id
      (before ++ .ran (.bind index id.mac channel) (.ok text) ::
        (after ++ [.ran (.release index) released])) none

theorem Opens.concerns {index : UInt8} {id : BleIdentity} {errands : List (Errand τ)}
    {result : Except Refusal (DeviceRecord × Channel τ)} (h : Opens index id errands result) :
    Concerns index id errands (bindingOf result) := by
  cases h with
  | malformed hmac => exact .nothing inquiries_nil.unconcerned
  | unlisted hlists | unpaired hlists => exact .nothing hlists.inquiries.unconcerned
  | reused hmeets | unusable hmeets =>
    refine .nothing fun errand hmem => ?_
    rcases List.mem_append.mp hmem with hmem | hmem
    · exact hmeets.inquiries.unconcerned errand hmem
    · cases List.mem_singleton.mp hmem
      rfl
  | unbound hmeets =>
    rw [← List.append_assoc]
    exact .bound (hmeets.inquiries.append (inquiries_advances _ _ _)) hmeets.mayBind.advanced
      nofun nofun
  | stranded hmeets =>
    rw [← List.append_assoc]
    exact .bound (hmeets.inquiries.append (inquiries_advances _ _ _)) hmeets.mayBind.advanced
      (by simp [Unconcerned, Errand.concernsBinding]) nofun
  | bound hmeets =>
    rw [← List.append_assoc]
    refine .bound (hmeets.inquiries.append (inquiries_advances _ _ _)) hmeets.mayBind.advanced
      (by simp [Unconcerned, Errand.concernsBinding]) fun n hn => ?_
    cases hn
    exact ⟨rfl, _, rfl⟩
  | @undone met record service connected released printed reason hmeets =>
    have hafter : Unconcerned (τ := τ)
        [.looked (nodePath index) true, .opened (nodePath index) (.error reason)] := by
      simp [Unconcerned, Errand.concernsBinding]
    rw [← List.append_assoc]
    exact .undone (hmeets.inquiries.append (inquiries_advances _ _ _)) hmeets.mayBind.advanced
      hafter

section

variable {index n : UInt8} {id : BleIdentity} {errands before after : List (Errand τ)}
  {binding : Option UInt8}

/-- A binding is made for the device that is opened, and only after it was
found to be due. -/
theorem Concerns.mayBind {mac : String} {channel : UInt8} {printed : Except OsError (List Char)}
    (h : Concerns index id errands binding)
    (hsplit : errands = before ++ .ran (.bind n mac channel) printed :: after) :
    mac = id.mac ∧ MayBind id before := by
  cases h with
  | nothing hnone =>
    cases hnone _ (mem_of_split hsplit)
  | bound hbefore hmay hafter hbinding =>
    obtain ⟨rest, rfl, hmore⟩ := hbefore.split rfl hsplit
    obtain ⟨rfl, hfirst, -⟩ := split_head hmore fun hmem => nomatch hafter _ hmem
    cases hfirst
    exact ⟨rfl, by simpa using hmay⟩
  | undone hbefore hmay hafter =>
    obtain ⟨rest, rfl, hmore⟩ := hbefore.split rfl hsplit
    obtain ⟨rfl, hfirst, -⟩ := split_head hmore fun hmem => by
      rcases List.mem_append.mp hmem with hmem | hmem
      · exact nomatch hafter _ hmem
      · cases List.mem_singleton.mp hmem
    cases hfirst
    exact ⟨rfl, by simpa using hmay⟩

/-- Where a binding is made, the node of an existing one was not found. -/
theorem MayBind.not_findsNode (h : MayBind id before) {errand : Errand τ}
    (herrand : errand.concernsBinding = true) : ¬FindsNode (before ++ errand :: after) := by
  intro hfinds
  obtain ⟨first, path, others, hsplit, hfirst⟩ := hfinds
  -- the node would have been found before the binding or after it
  rcases split_append hsplit with ⟨rest, rfl, -⟩ | ⟨rest, rfl, hrest⟩
  · exact h.absent path (by simp)
  · cases rest with
    | nil =>
      obtain ⟨rfl, -⟩ := List.cons.inj hrest
      cases herrand
    | cons _ rest =>
      obtain ⟨rfl, -⟩ := List.cons.inj hrest
      rw [hfirst _ (List.mem_append_right _ List.mem_cons_self)] at herrand
      cases herrand

/-- Where the node of an existing binding is found, none is made. -/
theorem Concerns.unconcerned (h : Concerns index id errands binding) (hfinds : FindsNode errands) :
    Unconcerned errands ∧ binding = none := by
  cases h with
  | nothing hnone => exact ⟨hnone, rfl⟩
  | bound hbefore hmay hafter hbinding => exact absurd hfinds (hmay.not_findsNode rfl)
  | undone hbefore hmay hafter => exact absurd hfinds (hmay.not_findsNode rfl)

-- ============================================================ releasing

theorem stands_append {more : List (Errand τ)} :
    stands n (errands ++ more) = more.foldl (standsAfter n) (stands n errands) :=
  List.foldl_append

/-- What does not concern bindings leaves them as they were. -/
theorem Unconcerned.stands (h : Unconcerned errands) (standing : Bool) :
    errands.foldl (standsAfter n) standing = standing := by
  induction errands with
  | nil => rfl
  | cons errand rest ih =>
    obtain ⟨herrand, hrest⟩ := List.forall_mem_cons.mp h
    have hsame : standsAfter n standing errand = standing := by
      cases errand with
      | ran call printed => cases call <;> first | rfl | cases herrand
      | _ => rfl
    rw [List.foldl_cons, hsame]
    exact ih hrest

/-- A binding that goes with the channel stands. -/
theorem Concerns.stands (h : Concerns index id errands binding) (hbinding : binding = some n)
    (standing : Bool) : errands.foldl (standsAfter n) standing = true := by
  cases h with
  | nothing hnone => cases hbinding
  | bound hbefore hmay hafter hmade =>
    obtain ⟨rfl, text, rfl⟩ := hmade n hbinding
    rw [List.foldl_append, List.foldl_cons, hafter.stands]
    simp [standsAfter, Errand.bound?]
  | undone hbefore hmay hafter => cases hbinding

/-- A binding that is released at once was made just before. -/
theorem Concerns.releases {printed : Except OsError (List Char)}
    (h : Concerns index id errands binding)
    (hsplit : errands = before ++ .ran (.release n) printed :: after) (standing : Bool) :
    before.foldl (standsAfter n) standing = true := by
  cases h with
  | nothing hnone =>
    cases hnone _ (mem_of_split hsplit)
  | bound hbefore hmay hafter hbinding =>
    obtain ⟨rest, rfl, hmore⟩ := hbefore.split rfl hsplit
    obtain ⟨rfl, hfirst, -⟩ := split_head hmore fun hmem => nomatch hafter _ hmem
    cases hfirst
  | @undone first others channel text released hbefore hmay hafter =>
    obtain ⟨rest, rfl, hmore⟩ := hbefore.split rfl hsplit
    cases rest with
    | nil => cases (List.cons.inj hmore).1
    | cons _ rest =>
      obtain ⟨rfl, hlast⟩ := List.cons.inj hmore
      rcases split_append hlast with ⟨more, rfl, -⟩ | ⟨more, rfl, hreleased⟩
      · exact nomatch hafter _ (List.mem_append_right _ List.mem_cons_self)
      · obtain ⟨rfl, hfirst, -⟩ := split_head hreleased List.not_mem_nil
        cases hfirst
        rw [List.append_nil, List.foldl_append, List.foldl_cons, hafter.stands]
        simp [standsAfter, Errand.bound?]

/-- Closing a channel releases the binding that goes with it, and no other. -/
theorem Closes.releases {channel : Channel τ} {printed : Except OsError (List Char)}
    (h : Closes channel errands)
    (hsplit : errands = before ++ .ran (.release n) printed :: after) :
    channel.bound = some n ∧ Unconcerned before := by
  cases h with
  | foreign => simp [List.singleton_eq_append_iff] at hsplit
  | released =>
    cases before with
    | nil => cases (List.cons.inj hsplit).1
    | cons _ before =>
      obtain ⟨rfl, hmore⟩ := List.cons.inj hsplit
      obtain ⟨rfl, hfirst, -⟩ := split_head hmore List.not_mem_nil
      cases hfirst
      exact ⟨rfl, by simp [Unconcerned, Errand.concernsBinding]⟩

/-- Nothing is released with a channel that has no binding of its own. -/
theorem Closes.unconcerned {channel : Channel τ} (h : Closes channel errands)
    (hbound : channel.bound = none) : Unconcerned errands := by
  cases h with
  | foreign => simp [Unconcerned, Errand.concernsBinding]
  | released => cases hbound

end

-- ============================================================ the history

/-- The releases so far were all in order if those before were and those of
the last passage are. -/
theorem releases_snoc {passages : List (Passage BleIdentity (Errand τ))}
    {passage : Passage BleIdentity (Errand τ)}
    (hpassages : ∀ before n printed after,
      passages.flatMap Passage.errands = before ++ .ran (.release n) printed :: after →
      stands n before = true)
    (hpassage : ∀ before n printed after,
      passage.errands = before ++ .ran (.release n) printed :: after →
      before.foldl (standsAfter n) (stands n (passages.flatMap Passage.errands)) = true)
    (before : List (Errand τ)) (n : UInt8) (printed : Except OsError (List Char))
    (after : List (Errand τ))
    (hsplit : (passages ++ [passage]).flatMap Passage.errands
      = before ++ .ran (.release n) printed :: after) : stands n before = true := by
  rw [List.flatMap_append, List.flatMap_singleton] at hsplit
  rcases split_append hsplit with ⟨rest, hrest, -⟩ | ⟨rest, rfl, hrest⟩
  · exact hpassages before n printed rest hrest
  · rw [stands_append]
    exact hpassage rest n printed after hrest

/-- What is released stands, and so does the binding of the channel that is
held. -/
theorem History.stands {index : UInt8} {passages : List (Passage BleIdentity (Errand τ))}
    {held : Option (Channel τ)} (h : History index passages held) :
    (∀ before n printed after,
        passages.flatMap Passage.errands = before ++ .ran (.release n) printed :: after →
        stands n before = true)
      ∧ ∀ n, held.bind Channel.bound = some n →
        stands n (passages.flatMap Passage.errands) = true := by
  induction h with
  | nothing =>
    refine ⟨fun before n printed after hsplit => ?_, nofun⟩
    simp at hsplit
  | idle hbefore hasked herrands ih =>
    refine ⟨releases_snoc ih.1 fun before n printed after hsplit => ?_, fun n hheld => ?_⟩
    · cases herrands _ (mem_of_split hsplit)
    · rw [List.flatMap_append, List.flatMap_singleton, stands_append, herrands.unconcerned.stands]
      exact ih.2 n hheld
  | opened hbefore hopens ih =>
    refine ⟨releases_snoc ih.1 fun before n printed after hsplit => ?_, fun n hheld => ?_⟩
    · exact hopens.concerns.releases hsplit _
    · rw [List.flatMap_append, List.flatMap_singleton, stands_append]
      exact hopens.concerns.stands hheld _
  | refused hbefore hopens ih =>
    refine ⟨releases_snoc ih.1 fun before n printed after hsplit => ?_, nofun⟩
    exact hopens.concerns.releases hsplit _
  | closed hbefore hcloses ih =>
    refine ⟨releases_snoc ih.1 fun before n printed after hsplit => ?_, nofun⟩
    obtain ⟨hbound, hquiet⟩ := hcloses.releases hsplit
    rw [hquiet.stands]
    exact ih.2 n hbound

/-- A passage and those after it, up to the next attempt to open a device. -/
def span (passage : Passage BleIdentity (Errand τ))
    (later : List (Passage BleIdentity (Errand τ))) :
    List (Passage BleIdentity (Errand τ)) :=
  passage :: later.takeWhile fun next => !next.asked.isConnect

/-- One more passage belongs to the span if it does not open a device, and
none before it does. -/
theorem mem_span_snoc {passage during next : Passage BleIdentity (Errand τ)}
    {later : List (Passage BleIdentity (Errand τ))}
    (hmem : during ∈ span passage (later ++ [next])) :
    during ∈ span passage later
      ∨ during = next ∧ next.asked.isConnect = false
        ∧ ∀ other ∈ later, other.asked.isConnect = false := by
  unfold span at hmem ⊢
  rcases List.mem_cons.mp hmem with rfl | hmem
  · exact .inl List.mem_cons_self
  · rw [List.takeWhile_append] at hmem
    split at hmem
    · next hall =>
      -- none of the others opens a device, so the last passage decides
      have hself := (List.takeWhile_prefix _).eq_of_length hall
      have hnone : ∀ other ∈ later, other.asked.isConnect = false := by
        simpa using List.takeWhile_eq_self_iff.mp hself
      rcases List.mem_append.mp hmem with hmem | hmem
      · rw [hself]
        exact .inl (List.mem_cons_of_mem _ hmem)
      · rw [List.takeWhile_cons] at hmem
        split at hmem
        · next hnext =>
          exact .inr ⟨List.mem_singleton.mp hmem, by simpa using hnext, hnone⟩
        · cases hmem
    · exact .inl (List.mem_cons_of_mem _ hmem)

/-- As long as a channel to a device that was bound already is held, nothing
is done about bindings. -/
theorem History.reuses {index : UInt8} {passages : List (Passage BleIdentity (Errand τ))}
    {held : Option (Channel τ)} (h : History index passages held)
    {earlier later : List (Passage BleIdentity (Errand τ))}
    {passage : Passage BleIdentity (Errand τ)} (hsplit : passages = earlier ++ passage :: later)
    (hasked : passage.asked.isConnect = true) (hfinds : FindsNode passage.errands) :
    (∀ during ∈ span passage later, Unconcerned during.errands)
      ∧ ((∀ next ∈ later, next.asked.isConnect = false) → held.bind Channel.bound = none) := by
  induction h generalizing later with
  | nothing => simp at hsplit
  | idle hbefore hidle herrands ih =>
    rcases split_append hsplit with ⟨rest, hrest, rfl⟩ | ⟨rest, -, hlast⟩
    · obtain ⟨hduring, hheld⟩ := ih hrest
      refine ⟨fun during hmem => ?_, fun hnone => hheld fun next hmem => ?_⟩
      · rcases mem_span_snoc hmem with hmem | ⟨rfl, -, -⟩
        · exact hduring during hmem
        · exact herrands.unconcerned
      · exact hnone next (List.mem_append_left _ hmem)
    · obtain ⟨-, rfl, -⟩ := split_head hlast List.not_mem_nil
      rw [hidle] at hasked
      cases hasked
  | opened hbefore hopens ih =>
    rcases split_append hsplit with ⟨rest, hrest, rfl⟩ | ⟨rest, -, hlast⟩
    · -- the device is opened anew
      refine ⟨fun during hmem => ?_, fun hnone => ?_⟩
      · rcases mem_span_snoc hmem with hmem | ⟨-, hnext, -⟩
        · exact (ih hrest).1 during hmem
        · cases hnext
      · cases hnone _ (List.mem_append_right _ (List.mem_singleton_self _))
    · obtain ⟨-, rfl, rfl⟩ := split_head hlast List.not_mem_nil
      obtain ⟨hquiet, hbinding⟩ := hopens.concerns.unconcerned hfinds
      refine ⟨fun during hmem => ?_, fun _ => hbinding⟩
      cases List.mem_singleton.mp hmem
      exact hquiet
  | refused hbefore hopens ih =>
    rcases split_append hsplit with ⟨rest, hrest, rfl⟩ | ⟨rest, -, hlast⟩
    · refine ⟨fun during hmem => ?_, fun _ => rfl⟩
      rcases mem_span_snoc hmem with hmem | ⟨-, hnext, -⟩
      · exact (ih hrest).1 during hmem
      · cases hnext
    · obtain ⟨-, rfl, rfl⟩ := split_head hlast List.not_mem_nil
      obtain ⟨hquiet, hbinding⟩ := hopens.concerns.unconcerned hfinds
      refine ⟨fun during hmem => ?_, fun _ => rfl⟩
      cases List.mem_singleton.mp hmem
      exact hquiet
  | @closed passages channel errands hbefore hcloses ih =>
    rcases split_append hsplit with ⟨rest, hrest, rfl⟩ | ⟨rest, -, hlast⟩
    · obtain ⟨hduring, hheld⟩ := ih hrest
      refine ⟨fun during hmem => ?_, fun _ => rfl⟩
      rcases mem_span_snoc hmem with hmem | ⟨rfl, -, hnone⟩
      · exact hduring during hmem
      · -- the channel that is closed has no binding of its own
        have hforeign : channel.bound = none := hheld hnone
        exact hcloses.unconcerned hforeign
    · obtain ⟨-, rfl, -⟩ := split_head hlast List.not_mem_nil
      cases hasked

/-- Bindings are made only when a device is opened, and only if they may
be. -/
theorem History.mayBind {index : UInt8} {passages : List (Passage BleIdentity (Errand τ))}
    {held : Option (Channel τ)} (h : History index passages held)
    {passage : Passage BleIdentity (Errand τ)} (hmem : passage ∈ passages)
    {before after : List (Errand τ)} {n channel : UInt8} {mac : String}
    {printed : Except OsError (List Char)}
    (hsplit : passage.errands = before ++ .ran (.bind n mac channel) printed :: after) :
    ∃ id outcome, passage.asked = .connect id outcome ∧ mac = id.mac ∧ MayBind id before := by
  induction h with
  | nothing => cases hmem
  | idle hbefore hidle herrands ih =>
    rcases List.mem_append.mp hmem with hmem | hmem
    · exact ih hmem
    · cases List.mem_singleton.mp hmem
      cases herrands _ (mem_of_split hsplit)
  | opened hbefore hopens ih | refused hbefore hopens ih =>
    rcases List.mem_append.mp hmem with hmem | hmem
    · exact ih hmem
    · cases List.mem_singleton.mp hmem
      obtain ⟨hmac, hmay⟩ := hopens.concerns.mayBind hsplit
      exact ⟨_, _, rfl, hmac, hmay⟩
  | closed hbefore hcloses ih =>
    rcases List.mem_append.mp hmem with hmem | hmem
    · exact ih hmem
    · cases List.mem_singleton.mp hmem
      have hbind := mem_of_split hsplit
      cases hcloses <;> simp at hbind

-- ============================================================= the result

/-- The discipline of bindings, on every machine and through every life.

With a chronicle kept, the printer does just what it does without one. A
binding is made only when a device is opened, for that device, after its
address was found valid, listed as paired, and bound to no node that is
there. A binding is released only while it stands: it was made, and not
released since. And from the moment when the node of an existing binding
was found until the next device is opened, no binding is made or
released. -/
theorem binding_discipline (h : Host (StateM W) τ) (s : Settings)
    (fetch : String → StateM W (Outcome PixelMatrix)) (nature : E → W → W) (w : W)
    (life : List (Happening BleIdentity E)) :
    let t := (chronicler h s fetch).live (Record.beside nature) (.fresh (w, [])) life
    (printer h s fetch).live nature (.fresh w) life = (t.1, t.2.1)
      ∧ (∀ passage ∈ t.2.2, ∀ before n mac channel printed after,
          passage.errands = before ++ .ran (.bind n mac channel) printed :: after →
          ∃ id outcome, passage.asked = .connect id outcome ∧ mac = id.mac ∧ MayBind id before)
      ∧ (∀ before n printed after,
          t.2.2.flatMap Passage.errands = before ++ .ran (.release n) printed :: after →
          stands n before = true)
      ∧ (∀ earlier passage later, t.2.2 = earlier ++ passage :: later →
          passage.asked.isConnect = true → FindsNode passage.errands →
          ∀ during ∈ passage :: later.takeWhile fun next => !next.asked.isConnect,
            ∀ errand ∈ during.errands, errand.concernsBinding = false) := by
  intro t
  have htold : Told s.rfcommDeviceIndex t := told_live h s fetch nature w life
  refine ⟨live_chronicler h s fetch nature w life, ?_, htold.stands.1, ?_⟩
  · intro passage hmem before n mac channel printed after hsplit
    exact htold.mayBind hmem hsplit
  · intro earlier passage later hsplit hasked hfinds
    exact (htold.reuses hsplit hasked hfinds).1

end ReceiptPrinter.Bluetooth
