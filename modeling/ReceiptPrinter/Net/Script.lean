/-
A network that follows a script.

Some addresses listen, every other one refuses. What arrives is kept by
connection. A search looks at a local network of its own, and ends before
anything else happens.
-/
import ReceiptPrinter.Net.Backend
import ReceiptPrinter.Scan.Scanner

namespace ReceiptPrinter.Net.Script

/-- The scripted network. -/
structure Scene where
  /-- The addresses that listen. -/
  listening : List String
  /-- What has arrived, by connection. -/
  received : List Bytes
  plan : Scan.Plan
  lan : Scan.Lan
  station : Scan.Station

namespace Scene

/-- A network on which nothing has happened yet. -/
def fresh (listening : List String) (plan : Scan.Plan) (lan : Scan.Lan) : Scene :=
  ⟨listening, [], plan, lan, .fresh⟩

/-- Connects to an address. Connections are numbered from zero. -/
def connect (s : Scene) (address : String) : Except ConnectFault Nat × Scene :=
  if s.listening.contains address then
    (.ok s.received.length, { s with received := s.received ++ [[]] })
  else (.error (.refused .connectionRefused), s)

def write (s : Scene) (connection : Nat) (bytes : Bytes) : Scene :=
  { s with received := s.received.modify connection (· ++ bytes) }

/-- Starts a search, and lets it end. -/
def search (s : Scene) : Scene :=
  { s with station := (s.station.trigger.2).settle s.plan s.lan }

end Scene

/-- The network as a host. -/
def host : Host (StateM Scene) Nat where
  connect address _ := fun s => s.connect address
  write connection bytes := fun s => (.ok (), s.write connection bytes)
  flush _ := return .ok ()
  shutdown _ := return
  search := fun s => ((), s.search)

end ReceiptPrinter.Net.Script
