/-
What a machine with Bluetooth tools was sent to do.

An errand is something done for the transport that can be seen from
outside: a tool was run, the table of bindings was read, it was looked
whether a node is there, a terminal was opened or closed. What is written
to a terminal is not among them.
-/
import ReceiptPrinter.Bluetooth.Backend
import ReceiptPrinter.Session.Printer
import ReceiptPrinter.Transport.Passage

namespace ReceiptPrinter.Bluetooth

/-- Something that the machine was sent to do, and how it went. -/
inductive Errand (τ : Type) where
  /-- A tool was run; it printed something, or it failed. -/
  | ran (call : Call) (printed : Except OsError (List Char))
  | readTable (contents : Except OsError (List Char))
  /-- It was looked whether there is something at a path. -/
  | looked (path : String) (found : Bool)
  | opened (path : String) (result : Except OsError τ)
  | closed (terminal : τ)

/-- The machine with a record of its errands. -/
def Host.recorded {W A τ : Type} (entry : Errand τ → A) (h : Host (StateM W) τ) :
    Host (StateM (W × List A)) τ where
  run call := Record.noting (h.run call) fun result =>
    entry (.ran call (result.bind (·.result call)))
  present path := Record.noting (h.present path) fun found => entry (.looked path found)
  bindingTable := Record.noting h.bindingTable fun contents => entry (.readTable contents)
  openTerminal path := Record.noting (h.openTerminal path) fun result =>
    entry (.opened path result)
  write terminal bytes := Record.aside (h.write terminal bytes)
  flush terminal := Record.aside (h.flush terminal)
  closeTerminal terminal := Record.noting (h.closeTerminal terminal) fun _ =>
    entry (.closed terminal)
  pause ms := Record.aside (h.pause ms)

-- ============================================================== bindings

namespace Errand

variable {τ : Type}

/-- The number of the binding that an errand has made. -/
def bound? : Errand τ → Option UInt8
  | ran (.bind index _ _) (.ok _) => some index
  | _ => none

/-- The number of the binding that an errand was to release; it does not
matter whether that succeeded. -/
def released? : Errand τ → Option UInt8
  | ran (.release index) _ => some index
  | _ => none

/-- Whether an errand has to do with making or releasing bindings. -/
def concernsBinding : Errand τ → Bool
  | ran (.bind _ _ _) _ | ran (.release _) _ => true
  | _ => false

end Errand

section

variable {τ : Type}

/-- How often a binding was made. -/
def timesBound (index : UInt8) (errands : List (Errand τ)) : Nat :=
  errands.countP (·.bound? = some index)

/-- How often a binding was released. -/
def timesReleased (index : UInt8) (errands : List (Errand τ)) : Nat :=
  errands.countP (·.released? = some index)

/-- Whether a binding stands after an errand. -/
def standsAfter (index : UInt8) (stands : Bool) (errand : Errand τ) : Bool :=
  if errand.bound? = some index then true
  else if errand.released? = some index then false
  else stands

/-- Whether a binding was made, and not released since. -/
def stands (index : UInt8) (errands : List (Errand τ)) : Bool :=
  errands.foldl (standsAfter index) false

/-- Whether the last errand of a row was to look in vain for the node of the
binding that was made just before. -/
def strands (index : UInt8) (errands : List (Errand τ)) : Bool :=
  match errands.reverse with
  | .looked _ false :: last :: _ => last.bound? = some index
  | _ => false

/-- The node that a listing binds to an address; a listing that could not be
had binds none. -/
def named? (mac : String) : Except OsError (List Char) → Option String
  | .ok listing => binding? listing mac.toList
  | .error _ => none

/-- The channel on which a device is taken to offer a serial line, by the
description of its services; without a description, or if there is no channel
in it, that is the channel of devices that do not tell theirs. -/
def offeredChannel : Except OsError (List Char) → UInt8
  | .ok description => (serviceChannel? description).getD fallbackChannel
  | .error _ => fallbackChannel

/-- After these errands a binding may be made for a device. -/
structure MayBind (id : BleIdentity) (errands : List (Errand τ)) : Prop where
  mac : isMac id.mac.toList = true
  paired : ∃ listing : List Char,
    (.ran .listPaired (.ok listing) ∈ errands ∨ .ran .listPairedOld (.ok listing) ∈ errands)
      ∧ ∃ record ∈ deviceList listing, record.identity = .ble id
  /-- Both tables were consulted, and the nodes that they name for the
  address are not there. -/
  unbound : ∃ table listing : Except OsError (List Char),
    .readTable table ∈ errands ∧ .ran .listBindings listing ∈ errands
      ∧ ∀ path, named? id.mac table = some path ∨ named? id.mac listing = some path →
          .looked path false ∈ errands
  absent : ∀ path, .looked path true ∉ errands

/-- Whether the node of an existing binding was found: it was there before
anything was done about bindings. -/
def FindsNode (errands : List (Errand τ)) : Prop :=
  ∃ before path after, errands = before ++ .looked path true :: after
    ∧ ∀ errand ∈ before, errand.concernsBinding = false

end

-- ============================================================== printers

/-- The printer on a machine. -/
def printer {m : Type → Type} [Monad m] {τ : Type} (h : Host m τ) (s : Settings)
    (fetch : String → m (Outcome PixelMatrix)) : Printer m BleIdentity (Channel τ) Empty :=
  ⟨backend h s, s, fetch⟩

/-- The printer on a machine, with a chronicle of the machine's errands. -/
def chronicler {W τ : Type} (h : Host (StateM W) τ) (s : Settings)
    (fetch : String → StateM W (Outcome PixelMatrix)) :
    Printer (StateM (W × List (Passage BleIdentity (Errand τ)))) BleIdentity (Channel τ) Empty :=
  ⟨(backend (h.recorded id) s).chronicled, s, fun locator => Record.aside (fetch locator)⟩

end ReceiptPrinter.Bluetooth
