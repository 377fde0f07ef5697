/-
Fetching pictures.

A locator that begins like a web address is downloaded, and redirects are
followed, ten at most. Every other locator is the path of a file, with or
without `file://` in front of it. Whatever goes wrong, the picture could
not be produced.
-/
import ReceiptPrinter.Error
import ReceiptPrinter.Fetch.Status
import ReceiptPrinter.Fetch.Url
import ReceiptPrinter.OsError
import ReceiptPrinter.Picture.File.Format

namespace ReceiptPrinter.Fetch

/-- What a server answers. -/
structure Response where
  status : Nat
  location : Option (List Char)
  body : Bytes

/-- Where pictures come from. -/
structure Sources (m : Type → Type) where
  readFile : String → m (Except OsError Bytes)
  /-- Asks a server; none if it cannot be reached. -/
  request : Url → m (Option Response)

-- ================================================================ faults

/-- Why nothing could be downloaded. -/
inductive DownloadFault where
  | malformed
  /-- No request can be made of the address. -/
  | unsendable (url : Url)
  | unreachable (url : Url)
  | tooManyRedirects (url : Url)
  | refused (status : Nat)
  deriving DecidableEq, Repr

/-- The wording of a fault. -/
def DownloadFault.message : DownloadFault → String
  | malformed => "builder error"
  | unsendable url => s!"builder error for url ({String.ofList url.text})"
  | unreachable url => s!"error sending request for url ({String.ofList url.text})"
  | tooManyRedirects url => s!"error following redirect for url ({String.ofList url.text})"
  | refused status => "HTTP " ++ statusText status

/-- Why there is no picture. -/
inductive Fault where
  | download (locator : String) (fault : DownloadFault)
  | decode (fault : PictureFault)
  | read (path : String) (reason : OsError)
  | load (path : String) (fault : PictureFault)
  deriving DecidableEq, Repr

def Fault.error : Fault → PrinterError
  | download locator fault => .encodingFailed s!"Failed to download {locator}: {fault.message}"
  | decode fault => .encodingFailed s!"Failed to decode image: {fault.message}"
  | read path reason => .encodingFailed s!"Failed to load {path}: {reason.message}"
  | load path fault => .encodingFailed s!"Failed to load {path}: {fault.message}"

-- ============================================================== fetching

/-- The most redirects that are followed. -/
def mostRedirects : Nat := 10

/-- Where a response sends its caller, if it does. -/
def Response.next? (r : Response) (url : Url) : Option Url :=
  if isRedirect r.status then r.location.bind url.join? else none

section

variable {m : Type → Type} [Monad m] (sources : Sources m)

/-- What a server sends. If it sends its caller to another address,
`redirected` goes on there. -/
def receive (url : Url) (redirected : Url → m (Except DownloadFault Bytes)) :
    m (Except DownloadFault Bytes) := do
  match ← sources.request url with
  | none => return .error (.unreachable url)
  | some response =>
    match response.next? url with
    | some next => redirected next
    | none =>
      return if isSuccess response.status then .ok response.body
        else .error (.refused response.status)

/-- Downloads what is at an address, with so many redirects left. -/
def downloadFrom : Nat → Url → m (Except DownloadFault Bytes)
  | 0, url => receive sources url fun _ => return .error (.tooManyRedirects url)
  | left + 1, url => receive sources url (downloadFrom left)

def download (locator : String) : m (Except Fault DecodedImage) := do
  match Url.parse? locator.toList with
  | none => return .error (.download locator .malformed)
  | some url =>
    if !url.isSendable then return .error (.download locator (.unsendable url))
    match ← downloadFrom sources mostRedirects url with
    | .error fault => return .error (.download locator fault)
    | .ok body => return (PictureFormat.read body).mapError .decode

/-- Loads a picture file. The format goes by its name. A directory can be
opened, so there the name is looked at before there is an error. -/
def load (path : String) : m (Except Fault DecodedImage) := do
  let content ← sources.readFile path
  match content, PictureFormat.ofPath path.toList with
  | .ok _, .error fault | .error .isDirectory, .error fault => return .error (.load path fault)
  | .ok bytes, .ok format => return (format.decode bytes).mapError (.load path)
  | .error reason, _ => return .error (.read path reason)

/-- The picture that a locator names. -/
def fetch (locator : String) : m (Except Fault DecodedImage) :=
  let starts := fun (start : String) => (Text.afterStart? start.toList locator.toList).isSome
  if starts "http://" || starts "https://" then download sources locator
  else
    match Text.afterStart? "file://".toList locator.toList with
    | some path => load sources (String.ofList path)
    | none => load sources locator

/-- The picture that a locator names, as a pixel matrix. -/
def picture (locator : String) : m (Outcome PixelMatrix) := do
  match ← fetch sources locator with
  | .ok image => return .ok image.toMatrix
  | .error fault => return .error fault.error

end

end ReceiptPrinter.Fetch
