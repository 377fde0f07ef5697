/-
A host whose tools follow a script.

The script says for every command line what the tool prints and how it
ends, and whether it makes or removes a link to a device. Under `/dev`
there is one terminal, the null device, and what the tools have linked.
The terminal accepts everything; waiting takes no time.
-/
import ReceiptPrinter.Bluetooth.Host

namespace ReceiptPrinter.Bluetooth.Script

/-- What a tool does on one command line. -/
structure Act where
  output : Output
  /-- Where the new device link leads, if one is made. -/
  creates : Option String
  /-- Whether the device link is removed. -/
  removes : Bool

/-- The scripted machine. -/
structure Scene where
  /-- What happens on each command line. -/
  acts : List (String × Act)
  /-- The path of the terminal. -/
  terminal : String
  /-- The links under `/dev`, each with its target. -/
  links : List (String × String)
  /-- The tools run so far. -/
  calls : List Call
  /-- What the terminal has received. -/
  received : Bytes

namespace Scene

/-- A machine on which nothing has happened yet. -/
def fresh (acts : List (String × Act)) (terminal : String) : Scene := ⟨acts, terminal, [], [], []⟩

/-- A machine that lists its paired devices as given, and on which the first
binding can be made for one of them. -/
def pairedWith (listing mac : String) : Scene :=
  .fresh
    [("bluetoothctl show", ⟨⟨utf8 "Powered: yes".toList, [], .status 0⟩, none, false⟩),
     ("bluetoothctl devices Paired", ⟨⟨utf8 listing.toList, [], .status 0⟩, none, false⟩),
     ((Call.bind 0 mac 1).line, ⟨⟨[], [], .status 0⟩, some "/dev/pts/0", false⟩)]
    "/dev/pts/0"

/-- The first word of a command line. -/
def programOf (line : String) : List Char := line.toList.takeWhile (· != ' ')

/-- Whether a tool is there at all: the script has a line for it. -/
def installed (s : Scene) (program : String) : Bool :=
  s.acts.any fun entry => programOf entry.1 == program.toList

/-- What a tool does on a command line that the script does not have. -/
def unknownCommand : Act := ⟨⟨[], utf8 "unknown command".toList, .status 1⟩, none, false⟩

/-- The path of the device link that a tool deals with; its number is the
tool's second argument. -/
def linkOf (call : Call) : String := "/dev/rfcomm" ++ (call.arguments[1]?).getD ""

/-- The links after a tool has done its work. -/
def linksAfter (act : Act) (call : Call) (links : List (String × String)) :
    List (String × String) :=
  let others := links.filter (·.1 != linkOf call)
  match act.creates with
  | some target => (linkOf call, target) :: others
  | none => if act.removes then others else links

/-- Runs a tool. -/
def run (s : Scene) (call : Call) : Except OsError Output × Scene :=
  if s.installed call.program then
    let act := (s.acts.lookup call.line).getD unknownCommand
    (.ok act.output,
     { s with calls := s.calls ++ [call], links := linksAfter act call s.links })
  else (.error .notFound, s)

/-- Where a path leads. -/
def target (s : Scene) (path : String) : String := (s.links.lookup path).getD path

def openTerminal (s : Scene) (path : String) : Except OsError Unit :=
  let target := s.target path
  if target == s.terminal then .ok ()
  else if target == "/dev/null" then .error .notTerminal
  else if target == "/dev/" then .error .isDirectory
  else .error .notFound

/-- Whether there is something at a path. -/
def present (s : Scene) (path : String) : Bool :=
  match s.openTerminal path with
  | .error .notFound => false
  | _ => true

end Scene

/-- The machine as a host. -/
def host : Host (StateM Scene) Unit where
  run call := fun s => s.run call
  present path := fun s => (s.present path, s)
  bindingTable := return .error .notFound
  openTerminal path := fun s => (s.openTerminal path, s)
  write _ bytes := fun s => (.ok (), { s with received := s.received ++ bytes })
  flush _ := return .ok ()
  closeTerminal _ := return
  pause _ := return

end ReceiptPrinter.Bluetooth.Script
