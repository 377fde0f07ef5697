/-
What can be wrong with a command line.

Only the first line of a complaint is given here.
-/

namespace ReceiptPrinter.CommandLine

/-- Why a value is not taken. -/
inductive ValueFault where
  | emptyNumber
  | notNumber
  | tooLarge
  | tooSmall
  | outside (n low high : Int)
  | other (text : String)
  deriving DecidableEq, Repr

/-- The wording of a value's fault. -/
def ValueFault.message : ValueFault → String
  | emptyNumber => "cannot parse integer from empty string"
  | notNumber => "invalid digit found in string"
  | tooLarge => "number too large to fit in target type"
  | tooSmall => "number too small to fit in target type"
  | outside n low high => s!"{n} is not in {low}..={high}"
  | other text => text

/-- Why a command line is not understood. Options and arguments are named as
they are shown. -/
inductive UsageFault where
  | unexpectedArgument (text : String)
  | unexpectedValue (value shown : String)
  | missingValue (shown : String)
  | invalidValue (value shown : String) (fault : ValueFault)
  | repeated (shown : String)
  /-- Given together with others that it excludes. -/
  | conflict (shown : String) (others : List String)
  | missingArguments
  | unknownCommand (text : String)
  | missingCommand
  /-- Nothing was given at all. -/
  | nothing
  deriving DecidableEq, Repr

def programName : String := "rollo"

/-- The program in one line. -/
def about : String := "Rollo - ESC/POS receipt printer utility"

/-- The version line. -/
def version : String := programName ++ " 0.1.0"

/-- The first line of a complaint. -/
def UsageFault.message : UsageFault → String
  | unexpectedArgument text => s!"error: unexpected argument '{text}' found"
  | unexpectedValue value shown =>
    s!"error: unexpected value '{value}' for '{shown}' found; no more were expected"
  | missingValue shown => s!"error: a value is required for '{shown}' but none was supplied"
  | invalidValue value shown fault =>
    s!"error: invalid value '{value}' for '{shown}': {fault.message}"
  | repeated shown => s!"error: the argument '{shown}' cannot be used multiple times"
  | conflict shown [other] => s!"error: the argument '{shown}' cannot be used with '{other}'"
  | conflict shown _ => s!"error: the argument '{shown}' cannot be used with:"
  | missingArguments => "error: the following required arguments were not provided:"
  | unknownCommand text => s!"error: unrecognized subcommand '{text}'"
  | missingCommand => s!"error: '{programName}' requires a subcommand but one was not provided"
  | nothing => about

end ReceiptPrinter.CommandLine
