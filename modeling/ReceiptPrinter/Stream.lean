/-
A print job on its way to a channel.

A job is a list of chunks. A channel is given the chunks one by one, in
order, and nothing of another job between them; what the printer sees is
their concatenation. A chunk may be empty.
-/
import ReceiptPrinter.Bytes

namespace ReceiptPrinter

/-- A print job: the chunks in the order in which they are written. -/
structure Stream where
  chunks : List Bytes
  deriving DecidableEq, Repr

namespace Stream

/-- The job that writes nothing. -/
def empty : Stream := ⟨[]⟩

/-- A job of one chunk. -/
def single (chunk : Bytes) : Stream := ⟨[chunk]⟩

/-- The job that writes one chunk more. -/
def push (s : Stream) (chunk : Bytes) : Stream := ⟨s.chunks ++ [chunk]⟩

/-- What the printer receives. -/
def bytes (s : Stream) : Bytes := s.chunks.flatten

/-- The number of bytes the printer receives. -/
def length (s : Stream) : Nat := s.bytes.length

/-- Whether the printer receives nothing, be there empty chunks or not. -/
def isEmpty (s : Stream) : Bool := s.length == 0

end Stream

end ReceiptPrinter
