/-
Errors of printing operations.

Every operation that can fail answers with a `PrinterError`: one of eight
variants, seven of which carry the particulars as text. Callers that only
branch on the sort of trouble look at `PrinterError.kind`; the two variants
about bad input, `encodingFailed` and `invalidArgument`, share one kind.
-/

namespace ReceiptPrinter

/-- The sort of trouble, as far as a caller branches on it. -/
inductive ErrorKind where
  | adapterNotReady
  | permissionDenied
  | deviceNotFound
  | connectionFailed
  | notConnected
  | encodingFailed
  | ioFailure
  deriving DecidableEq, Repr

/-- Why an operation failed. -/
inductive PrinterError where
  /-- The radio, bus or socket layer is missing or switched off. -/
  | adapterNotReady (detail : String)
  /-- Access to the device was refused, or has not been granted yet. -/
  | permissionDenied (detail : String)
  /-- No device with the wanted identity is known. -/
  | deviceNotFound (detail : String)
  /-- The device is known but no channel to it could be opened. -/
  | connectionFailed (detail : String)
  /-- No device has been selected. -/
  | notConnected
  /-- The picture or symbol to print could not be produced. -/
  | encodingFailed (detail : String)
  /-- The caller passed something malformed. -/
  | invalidArgument (detail : String)
  /-- An open channel failed. -/
  | ioFailure (detail : String)
  deriving DecidableEq, Repr

namespace ErrorKind

/-- The name by which hosts know the kind. -/
def name : ErrorKind → String
  | adapterNotReady => "AdapterNotReady"
  | permissionDenied => "PermissionDenied"
  | deviceNotFound => "DeviceNotFound"
  | connectionFailed => "ConnectionFailed"
  | notConnected => "NotConnected"
  | encodingFailed => "EncodingFailed"
  | ioFailure => "IoFailure"

/-- The stable code of the kind. -/
def code : ErrorKind → String
  | adapterNotReady => "ERR_ADAPTER_NOT_READY"
  | permissionDenied => "ERR_PERMISSION"
  | deviceNotFound => "ERR_NOT_FOUND"
  | connectionFailed => "ERR_CONNECT"
  | notConnected => "ERR_NO_CONN"
  | encodingFailed => "ERR_ENCODING"
  | ioFailure => "ERR_IO"

end ErrorKind

/-- What a host is told about a failure: its kind and one line of text. -/
structure Failure where
  kind : ErrorKind
  message : String
  deriving DecidableEq, Repr

namespace PrinterError

/-- The variant's name. -/
def name : PrinterError → String
  | adapterNotReady _ => "AdapterNotReady"
  | permissionDenied _ => "PermissionDenied"
  | deviceNotFound _ => "DeviceNotFound"
  | connectionFailed _ => "ConnectionFailed"
  | notConnected => "NotConnected"
  | encodingFailed _ => "EncodingFailed"
  | invalidArgument _ => "InvalidArgument"
  | ioFailure _ => "IoFailure"

/-- The variant with the given name; `detail` is dropped where there is no
room for it. -/
def ofName? (name detail : String) : Option PrinterError :=
  match name with
  | "AdapterNotReady" => some (adapterNotReady detail)
  | "PermissionDenied" => some (permissionDenied detail)
  | "DeviceNotFound" => some (deviceNotFound detail)
  | "ConnectionFailed" => some (connectionFailed detail)
  | "NotConnected" => some notConnected
  | "EncodingFailed" => some (encodingFailed detail)
  | "InvalidArgument" => some (invalidArgument detail)
  | "IoFailure" => some (ioFailure detail)
  | _ => none

/-- The kind of an error. Bad arguments count as encoding failures. -/
def kind : PrinterError → ErrorKind
  | adapterNotReady _ => .adapterNotReady
  | permissionDenied _ => .permissionDenied
  | deviceNotFound _ => .deviceNotFound
  | connectionFailed _ => .connectionFailed
  | notConnected => .notConnected
  | encodingFailed _ => .encodingFailed
  | invalidArgument _ => .encodingFailed
  | ioFailure _ => .ioFailure

/-- The line of text that stands for the error. -/
def message : PrinterError → String
  | adapterNotReady detail => s!"Adapter not ready: {detail}"
  | permissionDenied detail => s!"Permission denied: {detail}"
  | deviceNotFound detail => s!"Device not found: {detail}"
  | connectionFailed detail => s!"Connection failed: {detail}"
  | notConnected => "Connection is not built, select a device first"
  | encodingFailed detail => s!"Encoding failed: {detail}"
  | invalidArgument detail => s!"Invalid argument: {detail}"
  | ioFailure detail => s!"I/O failure: {detail}"

/-- The pair that is handed to a host. -/
def failure (e : PrinterError) : Failure := ⟨e.kind, e.message⟩

end PrinterError

/-- The result of an operation that can fail. -/
abbrev Outcome := Except PrinterError

end ReceiptPrinter
