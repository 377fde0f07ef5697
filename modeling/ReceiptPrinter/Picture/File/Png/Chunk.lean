/-
The chunks of a PNG file.

A chunk is its length, its name, its content, and a check sum of name and
content. `Front.read` reads all chunks before the data of the picture:
header, palette and transparency, and others that do not matter here. A
chunk that a reader need not know is passed over if anything is wrong with
it. `dataOf` collects the data, which may be spread over several chunks.
-/
import ReceiptPrinter.Picture.File.Png.Header

namespace ReceiptPrinter.Png

-- ============================================================ check sums

/-- Divides a remainder by the check polynomial, one bit further. -/
def checkBit (r : UInt32) : UInt32 :=
  if r &&& 1 = 1 then (r >>> 1) ^^^ 0xEDB88320 else r >>> 1

/-- The remainder behind another byte. -/
def checkByte (r : UInt32) (b : UInt8) : UInt32 :=
  (List.range 8).foldl (fun r _ => checkBit r) (r ^^^ b.toUInt32)

def checkSum (bytes : Bytes) : UInt32 := bytes.foldl checkByte 0xFFFFFFFF ^^^ 0xFFFFFFFF

-- ================================================================ chunks

/-- Length and name of the next chunk, and what follows them. -/
def chunkHead (bytes : Bytes) : Except Fault (Nat × ChunkName × Bytes) :=
  if bytes.length < 8 then .error .cutShort
  else .ok (Bytes.bigEndian (bytes.take 4), (bytes.drop 4).take 4, bytes.drop 8)

/-- The check sum that is stated next, if it is the right one for a chunk;
what follows it. -/
def afterCheck (name : ChunkName) (content bytes : Bytes) : Except Fault Bytes :=
  let stated := (Bytes.bigEndian (bytes.take 4)).toUInt32
  let computed := checkSum (name ++ content)
  if bytes.length < 4 then .error .cutShort
  else if stated ≠ computed then .error (.checkSum name stated computed)
  else .ok (bytes.drop 4)

/-- What is known before the data of the picture. -/
structure Front where
  header : Option Header
  palette : Option Bytes
  /-- The samples of the transparent colour, or the alpha values of the
  palette. -/
  clear : Option (List Nat)

namespace Front

/-- The samples of the transparent colour. At a lower depth only their low
bytes count; a colour of sixteen bits to a sample must have exactly as many
as a pixel. -/
def clearColour? (depth count : Nat) (content : Bytes) : Option (List Nat) :=
  if content.length < 2 * count then none
  else
    let sample := fun i => Bytes.bigEndian ((content.drop (2 * i)).take 2)
    let samples := (List.range count).map sample
    if depth < 16 then some (samples.map (· % 256))
    else if content.length = 2 * count then some samples
    else some []

/-- What a transparency chunk says. It must come behind the palette, and
only the first one counts. -/
def withClear (front : Front) (content : Bytes) : Front :=
  if front.clear.isSome then front
  else
    match front.header with
    | none => front
    | some h =>
      match h.colour with
      | .palette =>
        if front.palette.isNone then front
        else { front with clear := some (content.map UInt8.toNat) }
      | .direct .gray => { front with clear := clearColour? h.depth 1 content }
      | .direct .rgb => { front with clear := clearColour? h.depth 3 content }
      | .direct _ => front

/-- What is known behind another chunk. -/
def withChunk (front : Front) (name : ChunkName) (content : Bytes) : Except Fault Front :=
  if name == chunkName "IHDR" then
    if front.header.isSome then .error (.secondChunk name)
    else (Header.ofContent content).map fun h => { front with header := some h }
  else if name == chunkName "PLTE" then
    if front.palette.isSome then .error (.secondChunk name)
    else .ok { front with palette := some content }
  else if name == chunkName "tRNS" then .ok (front.withClear content)
  else if name == chunkName "IEND" then .error .noData
  else if isCritical name then .error (.unknownChunk name)
  else .ok front

/-- Reads chunks up to the first one with data, at most `fuel`: the header,
what else is known, the length of the data, and what follows. -/
def readFrom : Nat → Front → Bytes → Except Fault (Header × Front × Nat × Bytes)
  | 0, _, _ => .error .cutShort
  | fuel + 1, front, bytes => do
    let (length, name, bytes) ← chunkHead bytes
    match front.header with
    | none => require (name == chunkName "IHDR") (.early name)
    | some h =>
      if name == chunkName "IDAT" then return (h, front, length, bytes)
      require (name != chunkName "fdAT") (.restart name)
    require (length ≤ bytes.length) .cutShort
    let content := bytes.take length
    match afterCheck name content (bytes.drop length) with
    | .ok rest => readFrom fuel (← front.withChunk name content) rest
    | .error fault =>
      require (fault != .cutShort && !isCritical name) fault
      readFrom fuel front (bytes.drop (length + 4))

/-- Reads the chunks before the data. -/
def read (bytes : Bytes) : Except Fault (Header × Front × Nat × Bytes) :=
  readFrom (bytes.length + 1) ⟨none, none, none⟩ bytes

end Front

-- ================================================================== data

/-- Data of a picture in pieces, and the fault with which they end, if they
do not end as they should. -/
structure DataRun where
  pieces : List Bytes
  fault : Option Fault

/-- The data chunks from the content of one on, at most `fuel`. The data
are at their end when a chunk of another name begins. -/
def dataOf : Nat → Nat → Bytes → DataRun
  | 0, _, _ => ⟨[], some .cutShort⟩
  | fuel + 1, length, bytes =>
    let content := bytes.take length
    if bytes.length < length then ⟨[content], some .cutShort⟩
    else
      let next := do chunkHead (← afterCheck (chunkName "IDAT") content (bytes.drop length))
      match next with
      | .error fault => ⟨[content], some fault⟩
      | .ok (length, name, bytes) =>
        if name != chunkName "IDAT" then ⟨[content], none⟩
        else
          let rest := dataOf fuel length bytes
          { rest with pieces := content :: rest.pieces }

end ReceiptPrinter.Png
