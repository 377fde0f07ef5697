/-
Web addresses.

An address is kept in its one normal form: blanks at the ends are gone, the
host is in normal form, the port is left out if it is the usual one, dot
segments are resolved, and characters that may not stand in an address are
written as the hex digits of their bytes. A user name is sent apart from
the address, and so it is left out if it can be read.
-/
import ReceiptPrinter.Fetch.Host
import ReceiptPrinter.Text.Basic
import ReceiptPrinter.Text.Upper

namespace ReceiptPrinter.Fetch

/-- A web address in normal form. -/
structure Url where
  secure : Bool
  /-- User name and password with the mark behind them, if they are not
  text. -/
  user : List Char
  host : List Char
  /-- The port, unless it is the usual one. -/
  port : Option Nat
  /-- The path, with the slash that it begins with. -/
  path : List Char
  query : Option (List Char)
  fragment : Option (List Char)
  deriving DecidableEq, Repr

-- ============================================================== escaping

/-- A byte as a percent sign and two hex digits. -/
def escapeByte (b : UInt8) : List Char :=
  ['%', upperHexDigit (b.toNat / 16), upperHexDigit (b.toNat % 16)]

/-- A text in which the characters of a set, control characters and all
beyond ASCII are escaped. -/
def escape (set : List Char) (text : List Char) : List Char :=
  text.flatMap fun c =>
    if c.toNat < 0x20 ∨ 0x7E < c.toNat ∨ set.contains c then
      (String.utf8EncodeChar c).flatMap escapeByte
    else [c]

/-- What is escaped in a fragment. -/
def fragmentSet : List Char := [' ', '"', '<', '>', '\x60']

/-- What is escaped in a path. -/
def pathSet : List Char := fragmentSet ++ ['#', '?', '\x7B', '\x7D']

/-- What is escaped in a query. -/
def querySet : List Char := [' ', '"', '#', '<', '>', '\x27']

/-- What is escaped in a user name and in a password. -/
def userSet : List Char := pathSet ++ "/:;=@[\\]^|".toList

-- =============================================================== parsing

/-- Whether a character ends the part with the host. -/
def endsHost (c : Char) : Bool := c == '/' || c == '\\' || c == '?' || c == '#'

/-- Whether a character separates path segments. -/
def isSlash (c : Char) : Bool := c == '/' || c == '\\'

/-- The text without blanks and control characters at its ends, and without
line breaks and tabs. -/
def clean (text : List Char) : List Char :=
  let low := fun (c : Char) => decide (c.toNat ≤ 0x20)
  let trimmed := ((text.dropWhile low).reverse.dropWhile low).reverse
  trimmed.filter fun c => c != '\t' && c != '\n' && c != '\r'

/-- Whether a path segment is one dot, perhaps escaped. -/
def isDot (segment : List Char) : Bool :=
  let s := Text.lowerAscii segment
  s == ".".toList || s == "%2e".toList

/-- Whether a path segment is two dots, perhaps escaped. -/
def isTwoDots (segment : List Char) : Bool :=
  let s := Text.lowerAscii segment
  s == "..".toList || s == ".%2e".toList || s == "%2e.".toList || s == "%2e%2e".toList

/-- Whether a path segment names a drive. It is not left again. -/
def isDrive : List Char → Bool
  | [letter, mark] => letter.isAlpha && (mark == ':' || mark == '|')
  | _ => false

/-- The segments above the last one; `kept` holds all, the last one first. -/
def above : List (List Char) → List (List Char)
  | [] => []
  | last :: kept => if isDrive last then last :: kept else kept

/-- The segments of a path with the dot segments resolved; `kept` holds those
before, the last one first. -/
def resolveDots : List (List Char) → List (List Char) → List (List Char)
  | kept, [] => kept.reverse
  | kept, segment :: rest =>
    let dots := isDot segment || isTwoDots segment
    let kept := if isTwoDots segment then above kept else kept
    if dots then resolveDots (if rest.isEmpty then [] :: kept else kept) rest
    else resolveDots (escape pathSet segment :: kept) rest

/-- A path in normal form. -/
def normalPath (path : List Char) : List Char :=
  let segments := Text.splitAt '/' ((path.drop 1).map fun c => if isSlash c then '/' else c)
  (resolveDots [] segments).flatMap fun segment => '/' :: segment

/-- Host and port. The first colon outside brackets begins the port. -/
def splitPort : Bool → List Char → List Char × List Char
  | _, [] => ([], [])
  | inBrackets, c :: rest =>
    if c = ':' ∧ !inBrackets then ([], rest)
    else
      let (host, port) := splitPort (c == '[' || inBrackets && c != ']') rest
      (c :: host, port)

/-- The port that a text gives; none if it is empty or the usual one. -/
def port? (usual : Nat) (text : List Char) : Option (Option Nat) :=
  if text.isEmpty then some none
  else if text.head? == some '+' then none
  else (Text.natBelow? 65536 text).map fun n => if n = usual then none else some n

/-- Whether an escaped text stands for text. -/
def isReadable (text : List Char) : Bool :=
  let bytes := Host.unescape (utf8 text)
  utf8 (Text.lossy bytes) == bytes

/-- What stays of a user name and a password in the address, given the text
before their mark: all if the name cannot be read, or if there is no name
and the password cannot be read. -/
def keptUser (text : List Char) : List Char :=
  let (name, password) := (Text.splitOnce? ':' text).getD (text, [])
  let name := escape userSet name
  let password := escape userSet password
  if name.isEmpty && password.isEmpty then []
  else if isReadable name && !(name.isEmpty && !isReadable password) then []
  else name ++ (if password.isEmpty then [] else ':' :: password) ++ ['@']

/-- The texts before and behind the last mark of user names. -/
def splitUser (authority : List Char) : List Char × List Char :=
  match Text.splitOnce? '@' authority.reverse with
  | some (after, before) => (before.reverse, after.reverse)
  | none => ([], authority)

/-- Reads an address behind the slashes of its scheme. -/
def afterScheme? (secure : Bool) (text : List Char) : Option Url := do
  let text := text.dropWhile isSlash
  let (user, place) := splitUser (text.takeWhile fun c => !endsHost c)
  let (host, port) := splitPort false place
  let host ← Host.normal? host
  let port ← port? (if secure then 443 else 80) port
  let tail := text.dropWhile fun c => !endsHost c
  let (tail, fragment) := match Text.splitOnce? '#' tail with
    | some (before, after) => (before, some (escape fragmentSet after))
    | none => (tail, none)
  let (path, query) := match Text.splitOnce? '?' tail with
    | some (before, after) => (before, some (escape querySet after))
    | none => (tail, none)
  return ⟨secure, keptUser user, host, port, normalPath path, query, fragment⟩

namespace Url

/-- The scheme with its colon. -/
def scheme (secure : Bool) : List Char := if secure then "https:".toList else "http:".toList

/-- Reads an address. -/
def parse? (text : List Char) : Option Url :=
  let text := clean text
  match Text.afterStart? (scheme false) (Text.lowerAscii text) with
  | some rest => afterScheme? false (text.drop (text.length - rest.length))
  | none =>
    match Text.afterStart? (scheme true) (Text.lowerAscii text) with
    | some rest => afterScheme? true (text.drop (text.length - rest.length))
    | none => none

/-- The address up to its host and port. -/
def origin (u : Url) : List Char :=
  scheme u.secure ++ "//".toList ++ u.user ++ u.host ++
    match u.port with
    | some n => ':' :: (toString n).toList
    | none => []

/-- The address as a text. -/
def text (u : Url) : List Char :=
  u.origin ++ u.path ++ (u.query.map ('?' :: ·)).getD [] ++ (u.fragment.map ('#' :: ·)).getD []

/-- The longest address that can be put into a request. -/
def longest : Nat := 65534

/-- Whether a request can be made of an address. -/
def isSendable (u : Url) : Bool := Host.isSendable u.host && u.text.length ≤ longest

/-- The address that a reference on a page means. -/
def join? (base : Url) (reference : List Char) : Option Url :=
  let reference := clean reference
  let query := (base.query.map ('?' :: ·)).getD []
  match reference with
  | [] => parse? (base.origin ++ base.path ++ query)
  | '#' :: _ => parse? (base.origin ++ base.path ++ query ++ reference)
  | '?' :: _ => parse? (base.origin ++ base.path ++ reference)
  | c :: rest =>
    if isSlash c then
      match rest with
      | d :: _ =>
        if isSlash d then parse? (scheme base.secure ++ reference)
        else parse? (base.origin ++ reference)
      | [] => parse? (base.origin ++ reference)
    else if (reference.takeWhile fun c => !endsHost c).contains ':' then parse? reference
    else
      let folder := (base.path.reverse.dropWhile (· != '/')).reverse
      parse? (base.origin ++ folder ++ reference)

end Url

end ReceiptPrinter.Fetch
