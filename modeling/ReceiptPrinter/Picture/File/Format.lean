/-
Picture files of any format.

The format of bytes without a name shows in how they begin; the format of a
file goes by the ending of its name, in any letter case.
-/
import ReceiptPrinter.Picture.File.Bmp
import ReceiptPrinter.Picture.File.Farbfeld
import ReceiptPrinter.Picture.File.Foreign
import ReceiptPrinter.Picture.File.Png
import ReceiptPrinter.Picture.File.Pnm
import ReceiptPrinter.Text.Basic
import ReceiptPrinter.Text.Upper

namespace ReceiptPrinter

/-- A format of picture files. -/
inductive PictureFormat where
  | png
  | pnm
  | bmp
  | farbfeld
  /-- A format that is recognised, but not read. -/
  | foreign (format : ForeignFormat)
  deriving DecidableEq, Repr

/-- Why there is no picture. -/
inductive PictureFault where
  | unknownFormat
  /-- The ending of a file's name is that of no format. -/
  | unknownEnding (ending : List Char)
  | png (fault : Png.Fault)
  | pnm (fault : Pnm.Fault)
  | bmp (fault : Bmp.Fault)
  | farbfeld (fault : Farbfeld.Fault)
  | foreign (format : ForeignFormat) (fault : ForeignFault)
  deriving DecidableEq, Repr

namespace PictureFormat

-- ================================================================= bytes

/-- The format that bytes show by how they begin. -/
def ofBytes? (bytes : Bytes) : Option PictureFormat :=
  if Png.signature.isPrefixOf bytes then some png
  else if Farbfeld.magic.isPrefixOf bytes then some farbfeld
  else
    match bytes with
    | 0x42 :: 0x4D :: _ => some bmp
    | 0x50 :: second :: _ => if 0x31 ≤ second ∧ second ≤ 0x37 then some pnm else none
    | _ => (ForeignFormat.ofBytes? bytes).map foreign

/-- Reads bytes of a format. -/
def decode (format : PictureFormat) (bytes : Bytes) : Except PictureFault DecodedImage :=
  match format with
  | png => (Png.decode bytes).mapError .png
  | pnm => (Pnm.decode bytes).mapError .pnm
  | bmp => (Bmp.decode bytes).mapError .bmp
  | farbfeld => (Farbfeld.decode bytes).mapError .farbfeld
  | foreign format => .error (.foreign format (format.fault bytes))

/-- Reads bytes of the format that they show. -/
def read (bytes : Bytes) : Except PictureFault DecodedImage :=
  match ofBytes? bytes with
  | some format => format.decode bytes
  | none => .error .unknownFormat

-- ================================================================= names

/-- The last part of a path that names something. -/
def lastName (path : List Char) : List Char :=
  let parts := (Text.splitAt '/' path).filter fun part => !part.isEmpty && part != ['.']
  (parts.getLast?).getD []

/-- The ending of a file's name: what follows the last dot, unless that is
the name's first character. The way to the folder above has none. -/
def ending? (path : List Char) : Option (List Char) :=
  let name := lastName path
  if name = ['.', '.'] then none
  else
    match Text.splitOnce? '.' name.reverse with
    | some (ending, before) => if before.isEmpty then none else some ending.reverse
    | none => none

/-- The format that an ending in small letters stands for. -/
def ofEnding? : String → Option PictureFormat
  | "png" | "apng" => some png
  | "pbm" | "pam" | "ppm" | "pgm" | "pnm" => some pnm
  | "bmp" => some bmp
  | "ff" => some farbfeld
  | "jpg" | "jpeg" | "jfif" => some (foreign .jpeg)
  | "gif" => some (foreign .gif)
  | "webp" => some (foreign .webp)
  | "tif" | "tiff" => some (foreign .tiff)
  | "tga" => some (foreign .tga)
  | "dds" => some (foreign .dds)
  | "ico" => some (foreign .ico)
  | "hdr" => some (foreign .hdr)
  | "exr" => some (foreign .openExr)
  | "avif" => some (foreign .avif)
  | "qoi" => some (foreign .qoi)
  | _ => none

/-- The format that a file's name tells. -/
def ofPath (path : List Char) : Except PictureFault PictureFormat :=
  match ending? path with
  | none | some [] => .error .unknownFormat
  | some ending =>
    match ofEnding? (String.ofList (Text.lowerAscii ending)) with
    | some format => .ok format
    | none => .error (.unknownEnding ending)

end PictureFormat

/-- The wording of a fault. -/
def PictureFault.message : PictureFault → String
  | unknownFormat => "The image format could not be determined"
  | unknownEnding ending =>
    "The file extension \x60." ++ String.ofList (Text.shownName ending) ++
      "\x60 was not recognized as an image format"
  | png fault => fault.trouble.message "Png"
  | pnm fault => fault.trouble.message "Pnm"
  | bmp fault => fault.trouble.message "Bmp"
  | farbfeld fault => fault.trouble.message "Farbfeld"
  | foreign format fault => format.message fault

end ReceiptPrinter
