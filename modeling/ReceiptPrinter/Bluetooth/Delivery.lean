/-
What the terminal of a channel is given.

The bytes of a job come to the terminal in pieces. A transcript says of every
piece whether the terminal took it, and of every flush how it went; what was
received is what the pieces that were taken hold.
-/
import ReceiptPrinter.Bluetooth.Host
import ReceiptPrinter.Record

namespace ReceiptPrinter.Bluetooth

/-- Something that a terminal was asked, and how it went. -/
inductive Delivery (τ : Type) where
  | wrote (terminal : τ) (piece : Bytes) (result : Except OsError Unit)
  | flushed (terminal : τ) (result : Except OsError Unit)

/-- The machine with a transcript of what its terminals were asked. -/
def Host.transcribed {W τ : Type} (h : Host (StateM W) τ) :
    Host (StateM (W × List (Delivery τ))) τ where
  run call := Record.aside (h.run call)
  present path := Record.aside (h.present path)
  bindingTable := Record.aside h.bindingTable
  openTerminal path := Record.aside (h.openTerminal path)
  write terminal bytes := Record.noting (h.write terminal bytes) (.wrote terminal bytes)
  flush terminal := Record.noting (h.flush terminal) (.flushed terminal)
  closeTerminal terminal := Record.aside (h.closeTerminal terminal)
  pause ms := Record.aside (h.pause ms)

namespace Delivery

variable {τ : Type}

/-- The bytes that the terminal received. -/
def received : Delivery τ → Bytes
  | wrote _ piece (.ok _) => piece
  | _ => []

/-- Whether a piece was not taken. -/
def isRefusal : Delivery τ → Bool
  | wrote _ _ (.error _) => true
  | _ => false

/-- A piece that was taken. -/
def took (terminal : τ) (piece : Bytes) : Delivery τ := wrote terminal piece (.ok ())

end Delivery

/-- What the terminal has received by a row of deliveries. -/
def received {τ : Type} (transcript : List (Delivery τ)) : Bytes :=
  transcript.flatMap Delivery.received

end ReceiptPrinter.Bluetooth
