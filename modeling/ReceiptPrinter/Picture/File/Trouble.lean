/-
What keeps a picture file from being read, whatever its format, and how large
a picture may be. A reader of any format stops at the first fault (`require`).
-/

namespace ReceiptPrinter

/-- The most bytes that the samples of a picture may take. -/
def mostMemory : Nat := 512 * 1024 * 1024

/-- The most bytes that can be counted. -/
def mostBytes : Nat := UInt64.size - 1

/-- Why a file of some format is not read. -/
inductive Trouble where
  /-- The file does not have all the bytes that it should have. -/
  | cutShort
  /-- The file ends where something has to follow. -/
  | endsEarly
  /-- Something that should be text is none. -/
  | notText
  /-- The picture would take too much memory. -/
  | tooLarge
  /-- The file is not as the format wants it. -/
  | form (complaint : String)
  /-- The file has something that is allowed, but cannot be read. -/
  | feature (name : String)
  deriving DecidableEq, Repr

/-- The wording of a trouble with a file of a format. -/
def Trouble.message (format : String) : Trouble → String
  | cutShort => "failed to fill whole buffer"
  | endsEarly => "unexpected end of file"
  | notText => "stream did not contain valid UTF-8"
  | tooLarge => "Memory limit exceeded"
  | form complaint => s!"Format error decoding {format}: {complaint}"
  | feature name => s!"The decoder for {format} does not support the format features {name}"

/-- Stops for a fault unless a condition holds. -/
def require {ε : Type} (condition : Bool) (fault : ε) : Except ε Unit :=
  if condition then .ok () else .error fault

end ReceiptPrinter
