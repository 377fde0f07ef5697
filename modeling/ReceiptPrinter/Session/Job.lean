/-
The print jobs.

Raw bytes and marked-up text are written as one chunk. Pictures and QR
codes are prepared only after it has been checked that they could be
written, so that nothing is fetched in vain; then they are written as one
job. Raw payloads come as base64; a bad one is refused before anything
else is looked at.
-/
import ReceiptPrinter.Base64
import ReceiptPrinter.Markup.Convert
import ReceiptPrinter.Qr.Picture
import ReceiptPrinter.Raster.Encode
import ReceiptPrinter.Session.Printer

namespace ReceiptPrinter

/-- A print job as callers ask for it. -/
inductive Job where
  | bytes (content : Bytes)
  /-- Bytes in base64. -/
  | raw (payload : String)
  | markup (text : String) (trailer : Markup.Trailer)
  /-- The picture that a locator names; the larger side may be given. -/
  | image (locator : String) (max : Option Int)
  /-- A QR code; the side may be given. -/
  | qr (text : String) (size : Option Int)

/-- Whether a job is costly to prepare. It is then checked first whether the
job could be written at all. -/
def Job.isCostly : Job → Bool
  | bytes _ | raw _ | markup _ _ => false
  | image _ _ | qr _ _ => true

/-- The error of a payload that is not base64. -/
def Base64.Fault.error (fault : Base64.Fault) : PrinterError :=
  .invalidArgument s!"invalid base64 payload: {fault.message}"

/-- The bytes of a raw payload. -/
def payloadBytes (payload : String) : Outcome Bytes :=
  match Base64.decodeText payload.toList with
  | .ok content => .ok content
  | .error fault => .error fault.error

/-- A QR code as a print job. -/
def qrStream (text : String) (size : Int) : Outcome Stream := do
  Raster.encode (← Qr.encode (utf8 text.toList) size) size

namespace Printer

variable {m : Type → Type} [Monad m] {ι κ ρ : Type}

/-- Fetches a picture and makes it a stream, at most `max` dots on a side. -/
def imageStream (p : Printer m ι κ ρ) (locator : String) (max : Option Int) :
    m (Outcome Stream) := do
  match ← p.fetch locator with
  | .ok picture => return Raster.encode picture (p.settings.imageDimension max)
  | .error e => return .error e

/-- What a job writes. -/
def stream (p : Printer m ι κ ρ) : Job → m (Outcome Stream)
  | .bytes content => return .ok (.single content)
  | .raw payload => return (payloadBytes payload).map .single
  | .markup text trailer => return .ok (.single (Markup.convert text.toList trailer))
  | .image locator max => p.imageStream locator max
  | .qr text size => return qrStream text (p.settings.qrSide size)

/-- Does a print job. -/
def print (p : Printer m ι κ ρ) (job : Job) : Step m ι κ ρ Unit := do
  if job.isCostly then p.preflight
  p.write (← attempt (p.stream job))

end Printer

end ReceiptPrinter
