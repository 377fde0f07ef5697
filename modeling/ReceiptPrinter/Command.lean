/-
The printer's command language, as far as this library speaks it.

A command is an escape byte, a selector and parameters; whatever is not
part of a command is printed. Sixteen-bit parameters go low byte first.
-/
import ReceiptPrinter.Bytes

namespace ReceiptPrinter.Command

-- ========================================================== single bytes

/-- Opens most commands. -/
def esc : UInt8 := 0x1B

/-- Opens the commands of the double-byte character sets. -/
def fs : UInt8 := 0x1C

/-- Opens the commands of the extended set. -/
def gs : UInt8 := 0x1D

/-- Prints the line buffer and feeds one line. -/
def lf : UInt8 := 0x0A

-- ======================================================= fixed sequences

/-- Line spacing of one 24-dot band. -/
def setLineSpace24 : Bytes := [esc, 0x33, 24]

/-- Line spacing of 32 dots, which restores text spacing after a picture. -/
def setLineSpace32 : Bytes := [esc, 0x33, 32]

/-- The printer's own default line spacing. -/
def defaultLineSpacing : Bytes := [esc, 0x32]

/-- Centred output; the parameter is the digit one. -/
def centerAlign : Bytes := [esc, 0x61, 0x31]

/-- Announces one band of a picture, 24 dots high at double density. -/
def selectBitImageMode : Bytes := [esc, 0x2A, 33]

def lineFeed : Bytes := [lf]

/-- Clears the print buffer and every mode. -/
def reset : Bytes := [esc, 0x40]

/-- Cuts the paper. -/
def cut : Bytes := [esc, 0x69]

-- ============================================================ parameters

/-- Sounds the buzzer. -/
def beep (times duration : UInt8) : Bytes := [esc, 0x42, times, duration]

def feedLines (n : Nat) : Bytes := List.replicate n lf

/-- A sixteen-bit parameter, low byte first. -/
def wordLowFirst (value : UInt16) : Bytes := [value.toUInt8, (value >>> 8).toUInt8]

end ReceiptPrinter.Command
