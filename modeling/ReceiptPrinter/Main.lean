/-
The command line program.

It has files and terminals, but no way to run other programs and no
sockets. So Bluetooth printers can only be reached through bindings that
are there already, and a host is never reached.
-/
import ReceiptPrinter.CommandLine.Run

namespace ReceiptPrinter.CommandLine

/-- The number of an error with a file. Where a file is opened, the numbers
are counted down from zero. -/
def errorNumber? : IO.Error → Option Nat
  | .noFileOrDirectory _ n _ | .inappropriateType _ n _ | .invalidArgument _ n _ =>
    some n.toInt32.toInt.natAbs
  | _ => none

/-- Why the system refused something. -/
def osError (e : IO.Error) : OsError :=
  match errorNumber? e with
  | some 2 => .notFound
  | some 20 => .notDirectory
  | some 21 => .isDirectory
  | some 22 => .nameWithNul
  | some 36 => .nameTooLong
  | _ => .other (toString e)

/-- Does something that the system can refuse. -/
def guarded {α : Type} (act : IO α) : IO (Except OsError α) :=
  try
    return .ok (← act)
  catch e =>
    return .error (osError e)

def readFile (path : String) : IO (Except OsError Bytes) :=
  guarded do return (← IO.FS.readBinFile path).toList

/-- The machine's Bluetooth tools and terminals. -/
def bluetoothHost : Bluetooth.Host IO IO.FS.Handle where
  run _ := return .error .notFound
  present path := do return (← guarded (IO.FS.Handle.mk path .read)).isOk
  bindingTable := do
    match ← readFile "/proc/net/rfcomm" with
    | .ok bytes => return Settings.fileText bytes
    | .error reason => return .error reason
  openTerminal path := guarded (IO.FS.Handle.mk path .write)
  write terminal bytes := guarded (terminal.write ⟨bytes.toArray⟩)
  flush terminal := guarded terminal.flush
  closeTerminal _ := return
  pause ms := IO.sleep ms.toUInt32

/-- The machine's network, out of reach. -/
def netHost : Net.Host IO Empty where
  connect _ _ := return .error (.refused (.other "Network is unreachable (os error 101)"))
  write socket := socket.elim
  flush socket := socket.elim
  shutdown socket := socket.elim
  search := return

/-- The machine. -/
def desk : Desk IO IO.FS.Handle Empty where
  machine := ⟨bluetoothHost, netHost, ⟨readFile, fun _ => return none⟩⟩
  lan := return ⟨some none, fun _ _ => false⟩

end ReceiptPrinter.CommandLine

open ReceiptPrinter in
/-- Runs the command line, and ends with its code. -/
def main (words : List String) : IO UInt32 := do
  let report ← CommandLine.run CommandLine.desk words
  for line in report.out do IO.println line
  match report.err with
  | some line => IO.eprintln line
  | none => pure ()
  return report.code.toUInt32
