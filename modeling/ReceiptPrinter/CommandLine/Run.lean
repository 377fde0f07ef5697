/-
Doing what the command line asks for.

A print command selects the printer, does the job, and gives the connection
up again, whether the job succeeded or not. What is printed on the screen
comes out as lines.
-/
import ReceiptPrinter.CommandLine.Request
import ReceiptPrinter.Registry
import ReceiptPrinter.Scan.Scanner

namespace ReceiptPrinter.CommandLine

/-- What a run needs: the machine, and a look at its network. -/
structure Desk (m : Type → Type) (τ σ : Type) where
  machine : Machine m τ σ
  lan : m Scan.Lan

/-- Reads a file of the machine. -/
def Desk.readFile {m : Type → Type} {τ σ : Type} (desk : Desk m τ σ) :
    String → m (Except OsError Bytes) :=
  desk.machine.sources.readFile

/-- How a run ended. -/
structure Report where
  code : Nat
  /-- The lines on the standard output. -/
  out : List String
  /-- The first line on the error output. -/
  err : Option String
  deriving DecidableEq, Repr

/-- The width of the column with device names. -/
def nameColumn : Nat := 28

/-- A device on a line: its name, filled up to the column's width, and its
identity. -/
def recordLine (record : DeviceRecord) : String :=
  record.name ++ String.ofList (List.replicate (nameColumn - record.name.length) ' ') ++ " " ++
    record.identity.text

def recordLines (records : List DeviceRecord) : List String :=
  if records.isEmpty then ["No devices found."] else records.map recordLine

/-- A text in which each backslash with an `n` behind it is a line feed. -/
def withLineFeeds : List Char → List Char
  | '\\' :: 'n' :: rest => '\n' :: withLineFeeds rest
  | c :: rest => c :: withLineFeeds rest
  | [] => []

section

variable {m : Type → Type} [Monad m] {τ σ : Type}

/-- A step of a run, which may fail. -/
abbrev RunM (m : Type → Type) (τ σ α : Type) := ExceptT PrinterError (StateT (Sessions τ σ) m) α

/-- An effect of the machine that can fail. -/
def attempt {α : Type} (x : m (Outcome α)) : RunM m τ σ α := ExceptT.mk (StateT.lift x)

/-- An operation on the printer of a transport. -/
def operate (r : Registry m τ σ) (kind : TransportKind) (operation : Operation DeviceIdentity) :
    RunM m τ σ Reply :=
  ExceptT.mk (r.run kind operation)

/-- Selects the printer that is meant, and gives its transport. -/
def connect (r : Registry m τ σ) (target : Target) : RunM m τ σ TransportKind := do
  let device ← ExceptT.mk (pure target.identity)
  discard (operate r device.transport (.select device))
  return device.transport

/-- Does a job and gives the connection up; then it matters whether the job
succeeded. -/
def finish (r : Registry m τ σ) (kind : TransportKind) (job : Job) : RunM m τ σ (List String) := do
  let outcome ← ExceptT.lift (r.run kind (.print job))
  discard (operate r kind .close)
  discard (ExceptT.mk (pure outcome))
  return ["Printed successfully!"]

/-- The devices that a search of the network finds. -/
def search (desk : Desk m τ σ) (s : Settings) (noNetwork : PrinterError) :
    RunM m τ σ (List String) := do
  let lan ← ExceptT.lift (StateT.lift desk.lan)
  let (phase, _) := Scan.Phase.idle.advance (.ofSettings s) lan .fresh
  match phase.result with
  | some found => return recordLines (found.map Net.recordOf)
  | none => throw noNetwork

/-- Does what was asked for, and gives the lines for the screen. -/
def perform (desk : Desk m τ σ) (s : Settings) (request : Request) : RunM m τ σ (List String) := do
  let r : Registry m τ σ := ⟨s, desk.machine⟩
  match request with
  | .list .net _ => search desk s (.adapterNotReady Scan.noAddress)
  | .list kind _ =>
    match ← operate r kind .list with
    | .devices records => return recordLines records
    | _ => return []
  | .scan => search desk s (.adapterNotReady "no local network address")
  | .printRaw target (.base64 payload) => finish r (← connect r target) (.raw payload)
  | .printRaw target (.file path) =>
    let kind ← connect r target
    let content ← attempt (return OsError.outcome (← desk.readFile path))
    finish r kind (.bytes content)
  | .printText target text bill =>
    let text := String.ofList (withLineFeeds text.toList)
    finish r (← connect r target) (.markup text (if bill then .bill else .text))
  | .printImage target locator max => finish r (← connect r target) (.image locator max)
  | .printQr target text size => finish r (← connect r target) (.qr text size)

/-- The settings of a run: those in the file that was named. -/
def settings (desk : Desk m τ σ) (config : Option String) : m (Outcome Settings) := do
  match config with
  | none => return .ok .default
  | some path =>
    return (Settings.load path (← desk.readFile path)).mapError Settings.LoadError.error

/-- Does what a command line that was understood asks for. -/
def invoke (desk : Desk m τ σ) (call : Invocation) : m (Report × Sessions τ σ) := do
  match ← settings desk call.config with
  | .error e => return (⟨1, [], some s!"Error: {e.message}"⟩, .fresh)
  | .ok s =>
    let (outcome, sessions) ← (perform desk s call.request).run.run .fresh
    match outcome with
    | .ok lines => return (⟨0, lines, none⟩, sessions)
    | .error e => return (⟨1, [], some s!"Error: {e.message}"⟩, sessions)

/-- Runs a command line. -/
def run (desk : Desk m τ σ) (words : List String) : m Report := do
  match parse words with
  | .error .version => return ⟨0, [version], none⟩
  | .error .help => return ⟨0, [about], none⟩
  | .error (.fault fault) => return ⟨2, [], some fault.message⟩
  | .ok call => return (← invoke desk call).1

end

end ReceiptPrinter.CommandLine
