/-
The words of a command line.

An option is two dashes and a name; its value follows, or stands behind an
equals sign. All other words are arguments, in the order in which the
command has them. After a lone pair of dashes there are no more options.

A value is checked when the next word has turned out to be understood, or
at the end. So a word that nobody knows is complained about before the
value in front of it.
-/
import ReceiptPrinter.CommandLine.Usage
import ReceiptPrinter.Text.Basic

namespace ReceiptPrinter.CommandLine

/-- A check of values, given what they are shown as. -/
abbrev Check := String → String → Option UsageFault

/-- Every value is good. -/
def anything : Check := fun _ _ => none

structure OptionSpec where
  name : String
  /-- What its value is called; none if it has none. -/
  value : Option String
  check : Check

def OptionSpec.shown (o : OptionSpec) : String :=
  match o.value with
  | some value => s!"--{o.name} <{value}>"
  | none => s!"--{o.name}"

structure ArgumentSpec where
  name : String
  shown : String
  check : Check

/-- A command: its options, and its arguments in order. -/
structure CommandSpec where
  options : List OptionSpec
  arguments : List ArgumentSpec

/-- A value that has been given but not checked. -/
structure Pending where
  name : String
  shown : String
  value : String
  check : Check

/-- The words understood so far. -/
structure Words where
  /-- The options and arguments given, with their values, in order. -/
  given : List (String × String)
  pending : Option Pending
  /-- The option whose value comes next. -/
  waiting : Option OptionSpec
  /-- The arguments still to come. -/
  arguments : List ArgumentSpec
  /-- Whether there are no more options. -/
  literal : Bool

/-- What a command line asks for beside commands. -/
inductive Halt where
  | fault (fault : UsageFault)
  | help
  | version

namespace Words

/-- Before the first word of a command. -/
def start (spec : CommandSpec) : Words := ⟨[], none, none, spec.arguments, false⟩

/-- The value of an option or argument. -/
def value? (w : Words) (name : String) : Option String := w.given.lookup name

/-- Whether an option or argument was given. -/
def has (w : Words) (name : String) : Bool := (w.value? name).isSome

/-- Checks the value that has not been checked. -/
def settle (w : Words) : Except Halt Words :=
  match w.pending with
  | none => .ok w
  | some p =>
    match p.check p.shown p.value with
    | none => .ok { w with pending := none, given := w.given ++ [(p.name, p.value)] }
    | some fault => .error (.fault fault)

/-- Takes a value for an option. -/
def takeValue (w : Words) (o : OptionSpec) (value : String) : Words :=
  { w with pending := some ⟨o.name, o.shown, value, o.check⟩, waiting := none }

/-- Takes a word as the next argument. -/
def takeArgument (w : Words) (word : String) : Except Halt Words :=
  match w.arguments with
  | [] => .error (.fault (.unexpectedArgument word))
  | a :: rest => do
    let w ← w.settle
    return { w with pending := some ⟨a.name, a.shown, word, a.check⟩, arguments := rest }

/-- Takes an option, with a value behind an equals sign or none. -/
def takeOption (spec : CommandSpec) (w : Words) (name : String) (attached : Option String) :
    Except Halt Words := do
  if name == "help" then
    discard w.settle
    throw .help
  match spec.options.find? (·.name == name) with
  | none => throw (.fault (.unexpectedArgument s!"--{name}"))
  | some o =>
    let w ← w.settle
    if w.has name then throw (.fault (.repeated o.shown))
    match o.value, attached with
    | none, none => return { w with given := w.given ++ [(name, "")] }
    | none, some value => throw (.fault (.unexpectedValue value o.shown))
    | some _, some value => return w.takeValue o value
    | some _, none => return { w with waiting := some o }

/-- Takes the next word. -/
def take (spec : CommandSpec) (w : Words) (word : String) : Except Halt Words :=
  match w.literal, word.toList with
  | true, _ => w.takeArgument word
  | false, ['-', '-'] =>
    match w.waiting with
    | some o => .error (.fault (.missingValue o.shown))
    | none => .ok { w with literal := true }
  | false, '-' :: '-' :: name =>
    match w.waiting, Text.splitOnce? '=' name with
    | some o, _ =>
      if (spec.options.any (·.name == String.ofList (name.takeWhile (· != '=')))) then
        .error (.fault (.missingValue o.shown))
      else .error (.fault (.unexpectedArgument ("--" ++ String.ofList (name.takeWhile (· != '=')))))
    | none, some (name, value) =>
      w.takeOption spec (String.ofList name) (some (String.ofList value))
    | none, none => w.takeOption spec (String.ofList name) none
  | false, '-' :: letter :: _ =>
    if letter == 'h' then .error .help
    else .error (.fault (.unexpectedArgument s!"-{letter}"))
  | false, _ =>
    match w.waiting with
    | some o => .ok (w.takeValue o word)
    | none => w.takeArgument word

/-- Takes all words of a command. -/
def takeAll (spec : CommandSpec) (words : List String) : Except Halt Words := do
  let w ← words.foldlM (fun w word => w.take spec word) (start spec)
  match w.waiting with
  | some o => throw (.fault (.missingValue o.shown))
  | none => w.settle

end Words

end ReceiptPrinter.CommandLine
