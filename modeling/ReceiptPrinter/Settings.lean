/-
The tunables of every transport.

Every setting has a default, so a settings file holds only what it changes.
Sizes may be asked for per job; a request counts only if it is positive.
-/
import ReceiptPrinter.Device.Identity
import ReceiptPrinter.Json.Record
import ReceiptPrinter.OsError

namespace ReceiptPrinter

open Json (Reader Shape Scalar)

/-- The tunables. Times are in milliseconds. -/
structure Settings where
  /-- The larger side of a printed picture, in dots. -/
  imageMaxDimension : Int
  /-- The side of a printed QR code, in dots. -/
  qrSize : Int
  /-- The ports probed on every host during a scan, in this order. -/
  scanPorts : List UInt16
  probeTimeoutMs : Nat
  /-- The hosts probed at once during a scan. -/
  scanConcurrency : Nat
  netConnectTimeoutMs : Nat
  usbTransferTimeoutMs : Nat
  /-- The most bytes handed to a Bluetooth line at once. -/
  bluetoothChunkSize : Nat
  bluetoothChunkDelayMs : Nat
  /-- The number of the device node that a new Bluetooth binding gets. -/
  rfcommDeviceIndex : UInt8
  deriving DecidableEq, Repr

namespace Settings

def default : Settings where
  imageMaxDimension := 200
  qrSize := 250
  scanPorts := [NetIdentity.defaultPort]
  probeTimeoutMs := 100
  scanConcurrency := 32
  netConnectTimeoutMs := 5000
  usbTransferTimeoutMs := 100000
  bluetoothChunkSize := 4096
  bluetoothChunkDelayMs := 2
  rfcommDeviceIndex := 0

/-- A request if it is positive, otherwise the configured value. -/
def positiveOr (configured : Int) : Option Int → Int
  | some requested => if 0 < requested then requested else configured
  | none => configured

/-- The larger side of a picture for which `requested` was asked. -/
def imageDimension (s : Settings) (requested : Option Int) : Int :=
  positiveOr s.imageMaxDimension requested

/-- The side of a QR code for which `requested` was asked. -/
def qrSide (s : Settings) (requested : Option Int) : Int := positiveOr s.qrSize requested

-- ================================================================= JSON

/-- The settings as a JSON object. -/
def toJson (s : Settings) : Json :=
  .object
    [("image_max_dimension", .number (.int s.imageMaxDimension)),
     ("qr_size", .number (.int s.qrSize)),
     ("scan_ports", .array (s.scanPorts.map fun port => Json.nat port.toNat)),
     ("probe_timeout_ms", Json.nat s.probeTimeoutMs),
     ("scan_concurrency", Json.nat s.scanConcurrency),
     ("net_connect_timeout_ms", Json.nat s.netConnectTimeoutMs),
     ("usb_transfer_timeout_ms", Json.nat s.usbTransferTimeoutMs),
     ("bluetooth_chunk_size", Json.nat s.bluetoothChunkSize),
     ("bluetooth_chunk_delay_ms", Json.nat s.bluetoothChunkDelayMs),
     ("rfcomm_device_index", Json.nat s.rfcommDeviceIndex.toNat)]

/-- Settings under construction: their values so far, and the names of the
fields given. -/
structure Draft where
  settings : Settings
  given : List String

def field {α : Type} (name : String) (s : Scalar α) (store : Settings → α → Settings) :
    Json.Field Draft :=
  Json.Field.scalar name (·.given.contains name) s fun draft a =>
    ⟨store draft.settings a, name :: draft.given⟩

/-- Signed words of 64 bits. -/
def signedWord : Scalar Int := Scalar.word "i64" Int64.minValue.toInt Int64.maxValue.toInt

def milliseconds : Scalar Nat := Scalar.unsigned "u64" 64

def count : Scalar Nat := Scalar.unsigned "usize" 64

/-- How settings are written. -/
def shape : Shape Draft where
  title := "struct PrinterSettings"
  fields :=
    [field "image_max_dimension" signedWord fun s n => { s with imageMaxDimension := n },
     field "qr_size" signedWord fun s n => { s with qrSize := n },
     Json.Field.scalars "scan_ports" (·.given.contains "scan_ports") (Scalar.unsigned "u16" 16)
       fun draft ports =>
         ⟨{ draft.settings with scanPorts := ports.map Nat.toUInt16 }, "scan_ports" :: draft.given⟩,
     field "probe_timeout_ms" milliseconds fun s n => { s with probeTimeoutMs := n },
     field "scan_concurrency" count fun s n => { s with scanConcurrency := n },
     field "net_connect_timeout_ms" milliseconds fun s n => { s with netConnectTimeoutMs := n },
     field "usb_transfer_timeout_ms" milliseconds fun s n => { s with usbTransferTimeoutMs := n },
     field "bluetooth_chunk_size" count fun s n => { s with bluetoothChunkSize := n },
     field "bluetooth_chunk_delay_ms" milliseconds fun s n => { s with bluetoothChunkDelayMs := n },
     field "rfcomm_device_index" (Scalar.unsigned "u8" 8)
       fun s n => { s with rfcommDeviceIndex := n.toUInt8 }]
  lenient := true

/-- Settings; what is not given has its default. -/
def reader : Reader Settings := return (← shape.read ⟨default, []⟩).settings

-- ================================================================= files

/-- Why settings could not be loaded from a file. -/
inductive LoadError where
  | unreadable (path : String) (reason : OsError)
  | malformed (path : String) (fault : Json.Failure) (text : List Char)

/-- The error of a file that could not be loaded. -/
def LoadError.error : LoadError → PrinterError
  | unreadable path reason => .invalidArgument s!"Failed to read {path}: {reason.message}"
  | malformed path fault text =>
    .invalidArgument s!"Invalid settings in {path}: {fault.report text}"

/-- A file's bytes as text. -/
def fileText (bytes : Bytes) : Except OsError (List Char) :=
  match String.fromUTF8? ⟨bytes.toArray⟩ with
  | some text => .ok text.toList
  | none => .error .invalidUtf8

/-- The settings in the file at `path`, which reads as `contents`. -/
def load (path : String) (contents : Except OsError Bytes) : Except LoadError Settings :=
  match contents.bind fileText with
  | .error reason => .error (.unreadable path reason)
  | .ok text =>
    match Reader.document reader text with
    | .ok s => .ok s
    | .error fault => .error (.malformed path fault text)

end Settings

end ReceiptPrinter
