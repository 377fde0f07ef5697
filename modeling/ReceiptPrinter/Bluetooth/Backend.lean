/-
The Bluetooth transport.

A paired device is reached through a terminal that is bound to its address.
If there is such a binding already, it is used and left alone afterwards.
Otherwise the transport looks up the device's serial channel, connects and
makes a binding of its own, which it releases when the channel closes. The
lookup and the connecting are best effort: only the binding itself counts.
-/
import ReceiptPrinter.Bluetooth.Host
import ReceiptPrinter.Bluetooth.Listing
import ReceiptPrinter.Settings
import ReceiptPrinter.Transport.Backend

namespace ReceiptPrinter.Bluetooth

-- ============================================================== refusals

/-- Why the transport cannot do what it was asked. -/
inductive Refusal where
  /-- The adapter cannot be asked. -/
  | unreachable (reason : OsError)
  /-- There is no adapter, or it is switched off. -/
  | powerOff
  | unlisted (reason : OsError)
  | malformed (mac : String)
  | unpaired (mac : String)
  | unbound (reason : OsError)
  /-- A binding was made, but its device node is not there. -/
  | nodeMissing (path : String)
  | unopened (path : String) (reason : OsError)
  deriving DecidableEq, Repr

def Refusal.error : Refusal → PrinterError
  | unreachable reason => .adapterNotReady s!"Failed to run bluetoothctl: {reason.message}"
  | powerOff => .adapterNotReady "Bluetooth adapter missing or powered off"
  | unlisted reason => .adapterNotReady s!"Failed to list paired devices: {reason.message}"
  | malformed mac => (BleIdentity.NotMac.mk mac).error
  | unpaired mac => .deviceNotFound s!"{mac} is not paired"
  | unbound reason => .connectionFailed s!"rfcomm bind failed: {reason.message}"
  | nodeMissing path => .connectionFailed s!"Device {path} was not created"
  | unopened path reason => .connectionFailed s!"Failed to open {path}: {reason.message}"

-- =============================================================== finding

/-- The channel of devices that do not tell theirs. -/
def fallbackChannel : UInt8 := 1

/-- How long it takes until a new binding can be used, in milliseconds. -/
def settleMs : Nat := 500

/-- The device node of a binding. -/
def nodePath (index : UInt8) : String := s!"/dev/rfcomm{index.toNat}"

section

variable {m : Type → Type} [Monad m] {τ : Type} (h : Host m τ)

/-- Checks that there is an adapter and that it is switched on. -/
def prepare : m (Except Refusal Unit) := do
  match ← h.call .describe with
  | .error reason => return .error (.unreachable reason)
  | .ok description => return if isPowered description then .ok () else .error .powerOff

/-- The paired devices. Older tools are asked in their own words. -/
def paired : m (Except Refusal (List DeviceRecord)) := do
  match ← h.call .listPaired with
  | .ok listing => return .ok (deviceList listing)
  | .error _ =>
    match ← h.call .listPairedOld with
    | .ok listing => return .ok (deviceList listing)
    | .error reason => return .error (.unlisted reason)

/-- The device node that a listing binds to an address, if it is there. -/
def presentBinding? (listing : Except OsError (List Char)) (mac : String) : m (Option String) := do
  match listing with
  | .error _ => return none
  | .ok listing =>
    match binding? listing mac.toList with
    | none => return none
    | some path => return if ← h.present path then some path else none

/-- The device node of an existing binding. The system's table is looked at
first, then the tool's listing. -/
def existingBinding? (mac : String) : m (Option String) := do
  match ← presentBinding? h (← h.bindingTable) mac with
  | some path => return some path
  | none => presentBinding? h (← h.call .listBindings) mac

/-- The channel on which a device offers a serial line, as far as can be
found out. -/
def serialChannel (mac : String) : m UInt8 := do
  match ← h.call (.findService mac) with
  | .ok description => return (serviceChannel? description).getD fallbackChannel
  | .error _ => return fallbackChannel

-- =============================================================== opening

/-- An open terminal. -/
structure Channel (τ : Type) where
  path : String
  terminal : τ
  /-- The binding to release when the channel closes. -/
  bound : Option UInt8

/-- Binds a device to a node, and gives the node's path. -/
def makeBinding (index : UInt8) (mac : String) (channel : UInt8) :
    m (Except Refusal String) := do
  discard (h.call (.connect mac))
  h.pause settleMs
  match ← h.call (.bind index mac channel) with
  | .error reason => return .error (.unbound reason)
  | .ok _ =>
    h.pause settleMs
    let path := nodePath index
    return if ← h.present path then .ok path else .error (.nodeMissing path)

/-- The device node for an address: an existing binding, or a new one. With
it goes the number of the binding that was made. -/
def node (index : UInt8) (mac : String) : m (Except Refusal (String × Option UInt8)) := do
  match ← existingBinding? h mac with
  | some path => return .ok (path, none)
  | none =>
    match ← makeBinding h index mac (← serialChannel h mac) with
    | .ok path => return .ok (path, some index)
    | .error refusal => return .error refusal

/-- Releases a binding that was made here. It does not matter whether that
succeeds. -/
def releaseBinding : Option UInt8 → m Unit
  | some index => discard (h.call (.release index))
  | none => return

/-- Opens a device node. A binding made for it is released if that
fails. -/
def openNode (path : String) (bound : Option UInt8) : m (Except Refusal (Channel τ)) := do
  match ← h.openTerminal path with
  | .ok terminal => return .ok ⟨path, terminal, bound⟩
  | .error reason =>
    releaseBinding h bound
    return .error (.unopened path reason)

/-- Opens a paired device, and gives its record. -/
def connect (index : UInt8) (id : BleIdentity) : m (Except Refusal (DeviceRecord × Channel τ)) :=
  ExceptT.run do
    unless isMac id.mac.toList do throw (.malformed id.mac)
    let devices ← ExceptT.mk (paired h)
    let some record := devices.find? (·.identity == .ble id) | throw (.unpaired id.mac)
    let (path, bound) ← ExceptT.mk (node h index id.mac)
    let channel ← ExceptT.mk (openNode h path bound)
    return (record, channel)

-- =============================================================== writing

/-- A chunk in pieces of at most `size` bytes. -/
def pieces (size : Nat) (chunk : Bytes) : List Bytes :=
  if chunk.length ≤ size ∨ size = 0 then [chunk]
  else chunk.take size :: pieces size (chunk.drop size)
termination_by chunk.length
decreasing_by
  rename_i h
  simp only [List.length_drop]
  omega

/-- Writes pieces in order until one fails, with a pause after each. -/
def writePieces (terminal : τ) (delay : Nat) : List Bytes → m (Except OsError Unit)
  | [] => return .ok ()
  | piece :: rest => do
    match ← h.write terminal piece with
    | .error reason => return .error reason
    | .ok () =>
      unless delay = 0 do h.pause delay
      writePieces terminal delay rest

/-- Writes a chunk. Only a chunk that has to be split is written with
pauses. -/
def writeChunk (terminal : τ) (size delay : Nat) (chunk : Bytes) : m (Except OsError Unit) :=
  if chunk.length ≤ size then h.write terminal chunk
  else writePieces h terminal delay (pieces size chunk)

/-- Closes a channel and releases its binding. -/
def closeChannel (channel : Channel τ) : m Unit := do
  discard (h.flush channel.terminal)
  h.closeTerminal channel.terminal
  releaseBinding h channel.bound

end

-- ============================================================= transport

/-- The most bytes that are written at once. -/
def pieceSize (s : Settings) : Nat := max s.bluetoothChunkSize 1

/-- The transport on a host. Nobody is ever asked for access. -/
def backend {m : Type → Type} [Monad m] {τ : Type} (h : Host m τ) (s : Settings) :
    Backend m BleIdentity (Channel τ) Empty where
  kind := .ble
  narrow := DeviceIdentity.ble?
  prepare := return (← prepare h).mapError Refusal.error
  devices := return (← paired h).mapError Refusal.error
  connect id := do
    match ← connect h s.rfcommDeviceIndex id with
    | .ok (record, channel) => return .ok (record, .channel channel)
    | .error refusal => return .error refusal.error
  poll request := request.elim
  write channel chunk :=
    return OsError.outcome
      (← writeChunk h channel.terminal (pieceSize s) s.bluetoothChunkDelayMs chunk)
  flush channel := return OsError.outcome (← h.flush channel.terminal)
  close channel := closeChannel h channel

end ReceiptPrinter.Bluetooth
