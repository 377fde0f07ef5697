/-
Devices in JSON.

A device is an object with a `transport` member that names the transport
and the members of its identity beside it; an identity on its own has no
such member. The member may stand anywhere among the others, so the whole
object is taken into memory before the identity is made of it.
-/
import ReceiptPrinter.Device.Identity
import ReceiptPrinter.Json.Record

namespace ReceiptPrinter

open Json (Reader Shape Scalar)

-- ============================================================= transport

namespace TransportKind

/-- A transport is written as its name. -/
def toJson (kind : TransportKind) : Json := .string kind.name

def names : Scalar TransportKind := Scalar.oneOf (all.map fun kind => (kind.name, kind))

/-- Nothing but `null`. -/
def nothing : Reader Unit := Reader.placed do
  match ← Reader.glance with
  | .null => return ()
  | found => Reader.complain (Json.wrongType found "unit")

/-- A transport: its name, or an object with the name as its only key and
nothing as its value. -/
def reader : Reader TransportKind := do
  match ← Reader.peekToken with
  | none => Reader.failAtNext .eofInValue
  | some '"' => Reader.scalar names
  | some '{' =>
    Reader.skip
    let kind ← Reader.scalar names
    Reader.colon
    nothing
    match ← Reader.peekToken with
    | none => Reader.failHere .eofInObject
    | some '}' => Reader.skip; return kind
    | some _ => Reader.failHere .expectedValue
  | some _ => Reader.failAtNext .expectedValue

end TransportKind

-- ============================================================ identities

namespace BleIdentity

/-- The members of a Bluetooth identity. -/
def members (id : BleIdentity) : List (String × Json) := [("mac", .string id.mac)]

/-- How a Bluetooth identity is written. -/
def shape : Shape (Option String) where
  title := "struct BleIdentityWire"
  fields := [Json.Field.scalar "mac" Option.isSome Scalar.text fun _ mac => some mac]
  lenient := false

def ofFields (fields : Option String) : BleIdentity := ofText (fields.getD "")

end BleIdentity

namespace UsbIdentity

def members (id : UsbIdentity) : List (String × Json) :=
  [("vendorId", Json.nat id.vendorId.toNat), ("productId", Json.nat id.productId.toNat)]

/-- A USB identity under construction. -/
structure Fields where
  vendorId : Option Nat
  productId : Option Nat

/-- How a USB identity is written. -/
def shape : Shape Fields where
  title := "struct UsbIdentity"
  fields :=
    [Json.Field.scalar "vendorId" (·.vendorId.isSome) (Scalar.unsigned "u16" 16)
       fun fields n => { fields with vendorId := some n },
     Json.Field.scalar "productId" (·.productId.isSome) (Scalar.unsigned "u16" 16)
       fun fields n => { fields with productId := some n }]
  lenient := false

def ofFields (fields : Fields) : UsbIdentity :=
  ⟨(fields.vendorId.getD 0).toUInt16, (fields.productId.getD 0).toUInt16⟩

end UsbIdentity

namespace NetIdentity

/-- The members of a network identity. -/
def members (id : NetIdentity) : List (String × Json) :=
  [("host", .string id.host), ("port", Json.nat id.port.toNat)]

/-- A network identity under construction. -/
structure Fields where
  host : Option String
  port : Option Nat

/-- How a network identity is written. -/
def shape : Shape Fields where
  title := "struct NetIdentity"
  fields :=
    [Json.Field.scalar "host" (·.host.isSome) Scalar.text
       fun fields s => { fields with host := some s },
     Json.Field.scalar "port" (·.port.isSome) (Scalar.unsigned "u16" 16)
       fun fields n => { fields with port := some n }]
  lenient := false

def ofFields (fields : Fields) : NetIdentity :=
  ⟨fields.host.getD "", (fields.port.getD 0).toUInt16⟩

end NetIdentity

/-- A Bluetooth identity on its own. -/
def BleIdentity.reader : Reader BleIdentity := return ofFields (← shape.read none)

/-- A USB identity on its own. -/
def UsbIdentity.reader : Reader UsbIdentity := return ofFields (← shape.read ⟨none, none⟩)

/-- A network identity on its own. -/
def NetIdentity.reader : Reader NetIdentity := return ofFields (← shape.read ⟨none, none⟩)

-- =============================================================== devices

namespace DeviceIdentity

def members (id : DeviceIdentity) : List (String × Json) :=
  ("transport", id.transport.toJson) ::
    match id with
    | ble id => id.members
    | usb id => id.members
    | net id => id.members

def toJson (id : DeviceIdentity) : Json := .object id.members

/-- The device on a transport that the remaining members or elements make. -/
def ofParts (kind : TransportKind) (parts : Json) : Except Json.Cause DeviceIdentity :=
  match kind with
  | .ble => return ble (BleIdentity.ofFields (← BleIdentity.shape.ofValue none parts))
  | .usb => return usb (UsbIdentity.ofFields (← UsbIdentity.shape.ofValue ⟨none, none⟩ parts))
  | .net => return net (NetIdentity.ofFields (← NetIdentity.shape.ofValue ⟨none, none⟩ parts))

/-- The brackets that may be open inside a device. -/
def innerDepth : Nat := Reader.depthLimit - 1

/-- The remaining members of a device: the transport, once it has been seen,
and all others in order. -/
def readMembers : Nat → Bool → Option TransportKind →
    Reader (TransportKind × List (String × Json))
  | 0, _, _ => Reader.failAtNext .expectedValue
  | fuel + 1, first, kind => do
    if ← Reader.hasKey first then
      let key ← Reader.key
      if key = "transport" then
        if kind.isSome then Reader.complain (Json.duplicateField "transport")
        Reader.colon
        readMembers fuel false (some (← Reader.scalar TransportKind.names))
      else
        Reader.colon
        let v ← Reader.value innerDepth
        let (kind, others) ← readMembers fuel false kind
        return (kind, (key, v) :: others)
    else
      match kind with
      | some kind => return (kind, [])
      | none => Reader.complain (Json.missingField "transport")

/-- The elements of a device: the transport, then all others. -/
def readElements : Reader (TransportKind × List Json) := do
  if ← Reader.hasElement true then
    let kind ← Reader.scalar TransportKind.names
    let fuel := 2 * (← Reader.rest).length + 2
    return (kind, ← Reader.elementsWithin fuel innerDepth false)
  else Reader.complain (Json.missingField "transport")

/-- The transport of a device and its other parts. -/
def readParts : Reader (TransportKind × Json) := Reader.placed do
  match ← Reader.peekToken with
  | some '[' =>
    Reader.skip
    let (kind, others) ← Reader.closedBy Reader.closeArray readElements
    return (kind, .array others)
  | some '{' =>
    Reader.skip
    let fuel := (← Reader.rest).length + 1
    let (kind, others) ← Reader.closedBy Reader.closeObject (readMembers fuel true none)
    return (kind, .object others)
  | _ =>
    Reader.complain (Json.wrongType (← Reader.glance) "internally tagged enum DeviceIdentity")

def reader : Reader DeviceIdentity := do
  let (kind, parts) ← readParts
  match ofParts kind parts with
  | .ok id => return id
  | .error cause => Reader.complain cause

end DeviceIdentity

/-- A record as a JSON object: the name, then the members of the device. -/
def DeviceRecord.toJson (record : DeviceRecord) : Json :=
  .object (("name", .string record.name) :: record.identity.members)

end ReceiptPrinter
