/-
Trailers in JSON: an object, or an array, of three truth values.
-/
import ReceiptPrinter.Json.Record
import ReceiptPrinter.Markup.Convert

namespace ReceiptPrinter.Markup.Trailer

open Json (Reader Shape Scalar)

/-- A trailer as a JSON object. -/
def toJson (t : Trailer) : Json :=
  .object [("beep", .bool t.beep), ("cut", .bool t.cut), ("tailingLine", .bool t.tailingLine)]

/-- A trailer under construction. -/
structure Fields where
  beep : Option Bool
  cut : Option Bool
  tailingLine : Option Bool

/-- How a trailer is written. -/
def shape : Shape Fields where
  title := "struct PrintOptions"
  fields :=
    [Json.Field.scalar "beep" (·.beep.isSome) Scalar.bool
       fun fields b => { fields with beep := some b },
     Json.Field.scalar "cut" (·.cut.isSome) Scalar.bool
       fun fields b => { fields with cut := some b },
     Json.Field.scalar "tailingLine" (·.tailingLine.isSome) Scalar.bool
       fun fields b => { fields with tailingLine := some b }]
  lenient := false

def reader : Reader Trailer := do
  let fields ← shape.read ⟨none, none, none⟩
  return ⟨fields.beep.getD false, fields.cut.getD false, fields.tailingLine.getD false⟩

end ReceiptPrinter.Markup.Trailer
