/-
What the errands of an attempt to open a device tell.

The machine is asked for one thing after another, and how far the attempt
comes depends on what it answers. The predicates here say what was answered,
by looking at the errands only: which listing of paired devices counts,
whether the node of an existing binding was found, and whether a binding was
made and its node is there.
-/
import ReceiptPrinter.Bluetooth.Errand

namespace ReceiptPrinter.Bluetooth

variable {τ : Type}

/-- The tool that an errand has run. -/
def Errand.call? : Errand τ → Option Call
  | ran call _ => some call
  | _ => none

/-- The tools that were run, in order. -/
def calls (errands : List (Errand τ)) : List Call := errands.filterMap Errand.call?

/-- A tool was run, and it failed. -/
def Failed (call : Call) (errands : List (Errand τ)) : Prop :=
  ∃ reason, .ran call (.error reason) ∈ errands

/-- The listing of paired devices that counts: that of the tool, or, if it
has failed, that of the older tool. -/
def Listed (listing : List Char) (errands : List (Errand τ)) : Prop :=
  (.ran .listPaired (.ok listing) ∈ errands ∧ ∀ printed, .ran .listPairedOld printed ∉ errands)
    ∨ (Failed .listPaired errands ∧ .ran .listPairedOld (.ok listing) ∈ errands)

/-- Neither tool could list the paired devices. -/
def Unlisted (errands : List (Errand τ)) : Prop :=
  Failed .listPaired errands ∧ Failed .listPairedOld errands

/-- The node of an existing binding was found: the system's table or the
tool's listing names it for the address, and it was there before anything was
done about bindings. -/
structure FoundAt (mac path : String) (errands : List (Errand τ)) : Prop where
  named : ∃ source, (.readTable source ∈ errands ∨ .ran .listBindings source ∈ errands)
    ∧ named? mac source = some path
  present : ∃ before after, errands = before ++ .looked path true :: after
    ∧ ∀ errand ∈ before, errand.concernsBinding = false

/-- A binding was made for the address, and then it was looked whether its
node is there. -/
def Bound (index : UInt8) (mac : String) (there : Bool) (errands : List (Errand τ)) : Prop :=
  ∃ before channel printed after, errands = before ++
    .ran (.bind index mac channel) (.ok printed) :: .looked (nodePath index) there :: after

/-- There is no open node at the end: no existing binding was found, and none
could be made whose node is there; or the node that was found or made could
not be opened. -/
def Unreached (index : UInt8) (mac : String) (errands : List (Errand τ)) : Prop :=
  ((∀ path, ¬FoundAt mac path errands)
      ∧ ((∃ channel, Failed (.bind index mac channel) errands) ∨ Bound index mac false errands))
    ∨ ∃ path reason,
        (FoundAt mac path errands ∨ (Bound index mac true errands ∧ path = nodePath index))
          ∧ .opened path (.error reason) ∈ errands

end ReceiptPrinter.Bluetooth
