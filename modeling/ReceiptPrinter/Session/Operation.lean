/-
Everything that a caller can ask of a printer, and what is answered.

A run is a row of operations, each carried to its end before the next one
begins. It also says what happens when devices are unplugged: the
connection to a device goes with the device.
-/
import ReceiptPrinter.Event.Basic
import ReceiptPrinter.Session.Job

namespace ReceiptPrinter

/-- Something asked of a printer. -/
inductive Operation (ι : Type) where
  | init
  | list
  | select (id : ι)
  | close
  | closeIf (id : ι)
  | print (job : Job)
  | status

/-- What is answered to an operation. -/
inductive Reply where
  | done
  | devices (records : List DeviceRecord)
  | device (record : DeviceRecord)
  | closed (wasBound : Bool)
  | status (shown : SessionStatus)
  deriving DecidableEq, Repr

def Reply.toJson : Reply → Json
  | done => .null
  | devices records => .array (records.map DeviceRecord.toJson)
  | device record => record.toJson
  | closed wasBound => .bool wasBound
  | status shown => shown.toJson

namespace Printer

variable {m : Type → Type} [Monad m] {ι κ ρ : Type} [DecidableEq ι]

/-- Carries out an operation. -/
def perform (p : Printer m ι κ ρ) : Operation ι → Step m ι κ ρ Reply
  | .init => do
    p.init
    return .done
  | .list => return .devices (← p.list)
  | .select id => return .device (← p.select id)
  | .close => do
    p.close
    return .done
  | .closeIf id => return .closed (← p.closeIf id)
  | .print job => do
    p.print job
    return .done
  | .status => return .status (← status)

/-- The outcome of an operation, and the session afterwards. -/
def run (p : Printer m ι κ ρ) (operation : Operation ι) :
    StateT (Session ι κ ρ) m (Outcome Reply) :=
  ExceptT.run (p.perform operation)

/-- The outcomes of operations done one after another. -/
def runAll (p : Printer m ι κ ρ) :
    List (Operation ι) → StateT (Session ι κ ρ) m (List (Outcome Reply))
  | [] => return []
  | operation :: rest => do
    let outcome ← p.run operation
    return outcome :: (← p.runAll rest)

/-- Gives up the connection to every device that an event says is gone. -/
def follow (p : Printer m ι κ ρ) : List Event → StateT (Session ι κ ρ) m Unit
  | [] => return
  | .deviceDetached device :: rest => do
    match p.backend.narrow (.usb device) with
    | some id => discard (p.run (.closeIf id))
    | none => pure ()
    p.follow rest
  | _ :: rest => p.follow rest

end Printer

end ReceiptPrinter
