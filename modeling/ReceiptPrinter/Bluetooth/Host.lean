/-
What the Bluetooth transport needs of the machine it runs on.

Pairing, service lookup and serial bindings are in the hands of command
line tools; a bound device is a terminal under `/dev`. The host runs the
tools and gives access to the terminals, with effects in some monad.
-/
import ReceiptPrinter.Device.Mac
import ReceiptPrinter.OsError
import ReceiptPrinter.Text.Basic
import ReceiptPrinter.Text.Lossy

namespace ReceiptPrinter.Bluetooth

/-- The service class of serial lines over Bluetooth. -/
def serialPortProfile : String := "00001101-0000-1000-8000-00805f9b34fb"

/-- The short form of the service class. -/
def serialPortClass : String := "0x1101"

/-- A tool with its arguments. -/
inductive Call where
  /-- Describes the adapter. -/
  | describe
  /-- Lists the paired devices. -/
  | listPaired
  /-- Lists the paired devices, in the words of older tools. -/
  | listPairedOld
  | connect (mac : String)
  /-- Looks up on which channel a device offers a serial line. -/
  | findService (mac : String)
  | listBindings
  | bind (index : UInt8) (mac : String) (channel : UInt8)
  | release (index : UInt8)
  deriving DecidableEq, Repr

namespace Call

/-- The tool. -/
def program : Call → String
  | describe | listPaired | listPairedOld | connect _ => "bluetoothctl"
  | findService _ => "sdptool"
  | listBindings | bind _ _ _ | release _ => "rfcomm"

/-- The arguments of the tool. -/
def arguments : Call → List String
  | describe => ["show"]
  | listPaired => ["devices", "Paired"]
  | listPairedOld => ["paired-devices"]
  | connect mac => ["connect", mac]
  | findService mac => ["search", "--bdaddr", mac, serialPortClass]
  | listBindings => ["-a"]
  | bind index mac channel => ["bind", toString index.toNat, mac, toString channel.toNat]
  | release index => ["release", toString index.toNat]

/-- The command line. -/
def line (c : Call) : String := String.intercalate " " (c.program :: c.arguments)

end Call

/-- How a tool ended. -/
inductive Exit where
  | status (code : Nat)
  | signal (number : Nat)
  deriving DecidableEq, Repr

namespace Exit

/-- The names of the signals, from number one on. -/
def signalNames : List String :=
  ["HUP", "INT", "QUIT", "ILL", "TRAP", "ABRT", "BUS", "FPE", "KILL", "USR1", "SEGV", "USR2",
   "PIPE", "ALRM", "TERM", "STKFLT", "CHLD", "CONT", "STOP", "TSTP", "TTIN", "TTOU", "URG",
   "XCPU", "XFSZ", "VTALRM", "PROF", "WINCH", "IO", "PWR", "SYS"]

/-- How a tool ended, in words. -/
def text : Exit → String
  | status code => s!"exit status: {code}"
  | signal 0 => "signal: 0"
  | signal (number + 1) =>
    let shown := s!"signal: {number + 1}"
    match signalNames[number]? with
    | some name => s!"{shown} (SIG{name})"
    | none => shown

end Exit

/-- What a tool left behind. -/
structure Output where
  out : Bytes
  err : Bytes
  exit : Exit
  deriving DecidableEq, Repr

/-- What a tool printed, or why it failed: a tool succeeds only with the
status zero. -/
def Output.result (o : Output) (call : Call) : Except OsError (List Char) :=
  if o.exit = .status 0 then .ok (Text.lossy o.out)
  else
    let complaint := String.ofList (Text.trim (Text.lossy o.err))
    .error (.other s!"{call.line} exited with {o.exit.text}: {complaint}")

/-- A machine with Bluetooth tools. Its open terminals are of the type
`τ`. -/
structure Host (m : Type → Type) (τ : Type) where
  run : Call → m (Except OsError Output)
  /-- Whether there is something at a path. -/
  present : String → m Bool
  /-- The system's own table of serial bindings. -/
  bindingTable : m (Except OsError (List Char))
  /-- Opens a terminal for writing, without any processing of what is
  written. -/
  openTerminal : String → m (Except OsError τ)
  write : τ → Bytes → m (Except OsError Unit)
  flush : τ → m (Except OsError Unit)
  closeTerminal : τ → m Unit
  /-- Waits for some milliseconds. -/
  pause : Nat → m Unit

/-- Runs a tool, and gives what it printed. -/
def Host.call {m : Type → Type} [Monad m] {τ : Type} (h : Host m τ) (call : Call) :
    m (Except OsError (List Char)) := do
  match ← h.run call with
  | .ok output => return output.result call
  | .error reason => return .error reason

/-- The same machine among other effects. -/
def Host.map {m n : Type → Type} {τ : Type} (lift : {α : Type} → m α → n α) (h : Host m τ) :
    Host n τ where
  run call := lift (h.run call)
  present path := lift (h.present path)
  bindingTable := lift h.bindingTable
  openTerminal path := lift (h.openTerminal path)
  write terminal bytes := lift (h.write terminal bytes)
  flush terminal := lift (h.flush terminal)
  closeTerminal terminal := lift (h.closeTerminal terminal)
  pause ms := lift (h.pause ms)

end ReceiptPrinter.Bluetooth
