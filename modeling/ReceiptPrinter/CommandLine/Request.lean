/-
What the command line can ask for.

There is a command for every sort of print job, and two that look for
printers. A print command says which printer is meant, by exactly one of
address, USB numbers or host. The settings file may be named before the
command or after it.
-/
import ReceiptPrinter.CommandLine.Syntax
import ReceiptPrinter.Device.Identity
import ReceiptPrinter.Text.Basic

namespace ReceiptPrinter.CommandLine

-- ================================================================ values

/-- A whole number with an optional sign, between bounds; `size` tells the
bounds of the word it must fit in first. -/
def integer? (low high : Int) (text : String) : Except ValueFault Int :=
  let (negative, digits) := match text.toList with
    | '-' :: rest => (true, rest)
    | '+' :: rest => (false, rest)
    | chars => (false, chars)
  if text.isEmpty then .error .emptyNumber
  else
    match Text.digits? digits with
    | none => .error .notNumber
    | some n =>
      let n : Int := if negative then -n else n
      if n < low then .error .tooSmall else if high < n then .error .tooLarge else .ok n

/-- The bounds of signed words. -/
def wordLow : Int := Int64.minValue.toInt

/-- The bound of signed words. -/
def wordHigh : Int := Int64.maxValue.toInt

def port? (text : String) : Except ValueFault UInt16 := do
  let n ← integer? wordLow wordHigh text
  if n < 0 ∨ 65535 < n then throw (.outside n 0 65535)
  return n.toNat.toUInt16

/-- Seconds. They take no sign. -/
def seconds? (text : String) : Except ValueFault Nat := do
  if text.toList.head? == some '-' then throw .notNumber
  return (← integer? 0 (UInt64.size - 1) text).toNat

/-- A size in dots. -/
def dots? (text : String) : Except ValueFault Int := integer? wordLow wordHigh text

def transport? (text : String) : Except ValueFault TransportKind :=
  match TransportKind.ofText text with
  | .ok kind => .ok kind
  | .error e => .error (.other e.message)

/-- The check that a value can be read. -/
def readable {α : Type} (read : String → Except ValueFault α) : Check := fun shown value =>
  match read value with
  | .ok _ => none
  | .error fault => some (.invalidValue value shown fault)

/-- The check that a path is not empty. -/
def isPath : Check := fun shown value => if value.isEmpty then some (.missingValue shown) else none

-- ============================================================== requests

/-- Which printer is meant. -/
structure Target where
  mac : Option String
  usb : Option String
  host : Option String
  port : UInt16
  deriving DecidableEq, Repr

/-- Raw bytes to print. -/
inductive Payload where
  | base64 (text : String)
  | file (path : String)
  deriving DecidableEq, Repr

/-- What is asked for. -/
inductive Request where
  | list (kind : TransportKind) (wait : Nat)
  | scan
  | printRaw (target : Target) (payload : Payload)
  | printText (target : Target) (text : String) (bill : Bool)
  | printImage (target : Target) (locator : String) (max : Option Int)
  | printQr (target : Target) (text : String) (size : Option Int)
  deriving DecidableEq, Repr

/-- A command line that was understood. -/
structure Invocation where
  /-- The settings file. -/
  config : Option String
  request : Request
  deriving DecidableEq, Repr

/-- The device that is meant. -/
def Target.identity (t : Target) : Outcome DeviceIdentity :=
  match t.mac, t.usb, t.host with
  | some mac, none, none => (BleIdentity.parse mac).map .ble
  | none, some usb, none => (UsbIdentity.ofText usb).map .usb
  | none, none, some host => .ok (.net ⟨host, t.port⟩)
  | _, _, _ =>
    .error (.invalidArgument "choose a printer with exactly one of --mac, --usb or --host")

-- ============================================================== commands

/-- The settings file. -/
def configOption : OptionSpec := ⟨"config", some "FILE", isPath⟩

/-- The options that name a printer. -/
def targetOptions : List OptionSpec :=
  [⟨"mac", some "MAC", anything⟩, ⟨"usb", some "VID:PID", anything⟩,
   ⟨"host", some "HOST", anything⟩, ⟨"port", some "PORT", readable port?⟩]

/-- What the top level takes. -/
def topSpec : CommandSpec := ⟨[configOption, ⟨"version", none, anything⟩], []⟩

/-- A command that is not a print command. -/
def plainSpec (options : List OptionSpec) (arguments : List ArgumentSpec) : CommandSpec :=
  ⟨configOption :: options, arguments⟩

def printSpec (options : List OptionSpec) (arguments : List ArgumentSpec) : CommandSpec :=
  plainSpec (targetOptions ++ options) arguments

/-- What the commands take. -/
def specOf? (command : String) : Option CommandSpec :=
  match command with
  | "list" =>
    some (plainSpec [⟨"wait", some "WAIT", readable seconds?⟩]
      [⟨"transport", "<TRANSPORT>", readable transport?⟩])
  | "scan" => some (plainSpec [] [])
  | "print-raw" =>
    some (printSpec [⟨"file", some "FILE", isPath⟩] [⟨"base64", "[BASE64]", anything⟩])
  | "print-text" =>
    some (printSpec [⟨"bill", none, anything⟩] [⟨"text", "<TEXT>", anything⟩])
  | "print-image" =>
    some (printSpec [⟨"max-dimension", some "MAX_DIMENSION", readable dots?⟩]
      [⟨"locator", "<LOCATOR>", anything⟩])
  | "print-qr" =>
    some (printSpec [⟨"size", some "SIZE", readable dots?⟩] [⟨"text", "<TEXT>", anything⟩])
  | _ => none

/-- The options and arguments that exclude each other. -/
def exclusions : List (String × String) :=
  [("mac", "usb"), ("mac", "host"), ("usb", "host"), ("file", "base64")]

/-- An option or argument as it is shown. -/
def CommandSpec.shown (spec : CommandSpec) (name : String) : String :=
  match spec.options.find? (·.name == name), spec.arguments.find? (·.name == name) with
  | some o, _ => o.shown
  | none, some a => a.shown
  | none, none => name

/-- The first option or argument that excludes others that were given. -/
def conflict? (spec : CommandSpec) (w : Words) : Option UsageFault :=
  (w.given.map (·.1)).findSome? fun name =>
    let others := exclusions.filterMap fun (a, b) =>
      if a == name && w.has b then some b else if b == name && w.has a then some a else none
    if others.isEmpty then none else some (.conflict (spec.shown name) (others.map spec.shown))

/-- Whether everything that a command needs was given. -/
def isComplete (command : String) (w : Words) : Bool :=
  let port := !w.has "port" || w.has "host"
  match command with
  | "list" => w.has "transport"
  | "scan" => true
  | "print-raw" => port && (w.has "base64" || w.has "file")
  | "print-image" => port && w.has "locator"
  | _ => port && w.has "text"

/-- The printer that was named. -/
def targetOf (w : Words) : Target where
  mac := w.value? "mac"
  usb := w.value? "usb"
  host := w.value? "host"
  port := ((w.value? "port").bind fun text => (port? text).toOption).getD NetIdentity.defaultPort

/-- A size that was given. -/
def dotsOf (w : Words) (name : String) : Option Int :=
  (w.value? name).bind fun text => (dots? text).toOption

/-- How long a search may take unless told otherwise, in seconds. -/
def defaultWait : Nat := 30

/-- The request of a command whose words are complete and good. -/
def requestOf (command : String) (w : Words) : Request :=
  let text := fun name => (w.value? name).getD ""
  match command with
  | "list" =>
    .list ((transport? (text "transport")).toOption.getD .net)
      (((w.value? "wait").bind fun s => (seconds? s).toOption).getD defaultWait)
  | "scan" => .scan
  | "print-raw" =>
    .printRaw (targetOf w)
      (match w.value? "file" with
        | some path => .file path
        | none => .base64 (text "base64"))
  | "print-image" => .printImage (targetOf w) (text "locator") (dotsOf w "max-dimension")
  | "print-qr" => .printQr (targetOf w) (text "text") (dotsOf w "size")
  | _ => .printText (targetOf w) (text "text") (w.has "bill")

-- =============================================================== parsing

/-- Reads the words of a command. -/
def parseCommand (command : String) (words : List String) (config : Option String) :
    Except Halt Invocation :=
  match specOf? command with
  | none =>
    .error (if command == "help" then .help else .fault (.unknownCommand command))
  | some spec => do
    let w ← Words.takeAll spec words
    match conflict? spec w with
    | some fault => throw (.fault fault)
    | none =>
      if isComplete command w then
        return ⟨(w.value? "config").or config, requestOf command w⟩
      else throw (.fault .missingArguments)

/-- Reads words up to a command, and then the command. -/
def parseFrom : Words → List String → Except Halt Invocation
  | w, [] => do
    match w.waiting with
    | some o => throw (.fault (.missingValue o.shown))
    | none =>
      let w ← w.settle
      throw (.fault (if w.given.isEmpty then .nothing else .missingCommand))
  | w, word :: rest => do
    let isOption := !w.literal && word.toList.head? == some '-' && word != "-"
    if w.waiting.isNone && !isOption then
      let w ← w.settle
      parseCommand word rest (w.value? "config")
    else if word == "-V" || word == "--version" then throw .version
    else parseFrom (← w.take topSpec word) rest

/-- Reads a command line. -/
def parse (words : List String) : Except Halt Invocation := parseFrom (.start topSpec) words

end ReceiptPrinter.CommandLine
