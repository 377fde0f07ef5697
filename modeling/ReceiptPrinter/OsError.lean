/-
Errors of the operating system, as far as they reach a user.
-/
import ReceiptPrinter.Error

namespace ReceiptPrinter

/-- Why the operating system refused something. -/
inductive OsError where
  | notFound
  | notDirectory
  | isDirectory
  | notTerminal
  | nameTooLong
  | nameWithNul
  | connectionRefused
  | invalidUtf8
  /-- Some other reason, in its own words. -/
  | other (text : String)
  deriving DecidableEq, Repr

/-- The wording of an error. -/
def OsError.message : OsError → String
  | notFound => "No such file or directory (os error 2)"
  | notDirectory => "Not a directory (os error 20)"
  | isDirectory => "Is a directory (os error 21)"
  | notTerminal => "Inappropriate ioctl for device (os error 25)"
  | nameTooLong => "File name too long (os error 36)"
  | nameWithNul => "file name contained an unexpected NUL byte"
  | connectionRefused => "Connection refused (os error 111)"
  | invalidUtf8 => "stream did not contain valid UTF-8"
  | other text => text

/-- The outcome of something that only the operating system can refuse. -/
def OsError.outcome {α : Type} : Except OsError α → Outcome α
  | .ok a => .ok a
  | .error reason => .error (.ioFailure reason.message)

end ReceiptPrinter
