/-
What a run sends its machine to do.

A run of the command line uses the Bluetooth tools, the network and the
files of its machine. The record of a run has them all in one row, so that
it can be told whether everything that was opened has been closed again
when the run is over.
-/
import ReceiptPrinter.Bluetooth.Errand
import ReceiptPrinter.CommandLine.Run

namespace ReceiptPrinter

/-- Something done on the network, and how it went. -/
inductive Net.Errand (σ : Type) where
  | connected (address : String) (result : Except ConnectFault σ)
  | shut (socket : σ)

/-- The network with a record of its connections. -/
def Net.Host.recorded {W A σ : Type} (entry : Net.Errand σ → A) (h : Net.Host (StateM W) σ) :
    Net.Host (StateM (W × List A)) σ where
  connect address ms := Record.noting (h.connect address ms) fun result =>
    entry (.connected address result)
  write socket bytes := Record.aside (h.write socket bytes)
  flush socket := Record.aside (h.flush socket)
  shutdown socket := Record.noting (h.shutdown socket) fun _ => entry (.shut socket)
  search := Record.aside h.search

namespace Machine

/-- Something that a machine was sent to do, and how it went. -/
inductive Errand (τ σ : Type) where
  | bluetooth (errand : Bluetooth.Errand τ)
  | net (errand : Net.Errand σ)
  /-- A file was read. -/
  | read (path : String) (contents : Except OsError Bytes)

namespace Errand

variable {τ σ : Type}

/-- Whether a terminal or a socket was opened. -/
def opens : Errand τ σ → Bool
  | bluetooth (.opened _ (.ok _)) | net (.connected _ (.ok _)) => true
  | _ => false

/-- Whether a terminal or a socket was closed. -/
def closes : Errand τ σ → Bool
  | bluetooth (.closed _) | net (.shut _) => true
  | _ => false

/-- What was opened after the errands `before` has been closed again by the
errands `after`: the socket is shut; the terminal is closed, and a binding
that was made for it is released. -/
def Settled (before after : List (Errand τ σ)) : Errand τ σ → Prop
  | bluetooth (.opened _ (.ok terminal)) =>
    .bluetooth (.closed terminal) ∈ after
      ∧ ∀ n mac channel printed,
          .bluetooth (.ran (.bind n mac channel) (.ok printed)) ∈ before →
          ∃ released, .bluetooth (.ran (.release n) released) ∈ after
  | net (.connected _ (.ok socket)) => .net (.shut socket) ∈ after
  | _ => True

end Errand

/-- Whether everything that was opened has been closed again. -/
def AllSettled {τ σ : Type} (errands : List (Errand τ σ)) : Prop :=
  ∀ before errand after, errands = before ++ errand :: after → errand.Settled before after

variable {W τ σ : Type}

/-- The machine with a record of its errands. -/
def recorded (machine : Machine (StateM W) τ σ) :
    Machine (StateM (W × List (Errand τ σ))) τ σ where
  bluetooth := machine.bluetooth.recorded .bluetooth
  net := machine.net.recorded .net
  sources :=
    { readFile := fun path => Record.noting (machine.sources.readFile path) (.read path)
      request := fun url => Record.aside (machine.sources.request url) }

end Machine

namespace CommandLine

variable {W τ σ : Type}

/-- The desk with a record of the machine's errands. -/
def Desk.recorded (desk : Desk (StateM W) τ σ) :
    Desk (StateM (W × List (Machine.Errand τ σ))) τ σ where
  machine := desk.machine.recorded
  lan := Record.aside desk.lan

/-- The last errand was to read the file with the raw bytes, which could not
be read, right after the connection to the printer had been opened. -/
def CutShort (request : Request) (errands : List (Machine.Errand τ σ)) : Prop :=
  ∃ target path reason before opening, request = .printRaw target (.file path)
    ∧ errands = before ++ [opening, .read path (.error reason)] ∧ opening.opens = true

end CommandLine

end ReceiptPrinter
