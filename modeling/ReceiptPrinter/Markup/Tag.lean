/-
The tags of receipt markup.

Letters select an alignment (`L`, `C`, `R`) or a size (`B`, `M`, `D`); a
size may be combined with centring by a `C` in front. A tag is written in
angle brackets, a closing tag with a slash. Closing an alignment emits
nothing, because every line starts out left-aligned; closing a size
restores the normal one.
-/
import ReceiptPrinter.Command

namespace ReceiptPrinter.Markup

/-- Where a line stands. -/
inductive Align where
  | left
  | center
  | right
  deriving DecidableEq, Repr

/-- How large letters are. -/
inductive Size where
  /-- Double width and height. -/
  | big
  /-- Double height. -/
  | medium
  /-- Double width. -/
  | wide
  deriving DecidableEq, Repr

/-- What a tag opens or closes. -/
inductive Style where
  | align (a : Align)
  | size (s : Size)
  | centered (s : Size)
  deriving DecidableEq, Repr

inductive Tag where
  | begins (style : Style)
  | ends (style : Style)
  deriving DecidableEq, Repr

namespace Align

def letter : Align → Char
  | left => 'L'
  | center => 'C'
  | right => 'R'

/-- The command of an alignment. -/
def bytes : Align → Bytes
  | left => [Command.esc, 0x61, 0]
  | center => [Command.esc, 0x61, 1]
  | right => [Command.esc, 0x61, 2]

end Align

namespace Size

def letter : Size → Char
  | big => 'B'
  | medium => 'M'
  | wide => 'D'

/-- The commands of a size, for single-byte and for double-byte letters. -/
def bytes : Size → Bytes
  | big => [Command.esc, 0x21, 0x30, Command.fs, 0x21, 0x0C]
  | medium => [Command.esc, 0x21, 0x10, Command.fs, 0x21, 0x08]
  | wide => [Command.esc, 0x21, 0x20, Command.fs, 0x21, 0x04]

/-- The commands of the normal size. -/
def normal : Bytes := [Command.esc, 0x21, 0, Command.fs, 0x21, 0]

end Size

namespace Style

def letters : Style → List Char
  | align a => [a.letter]
  | size s => [s.letter]
  | centered s => ['C', s.letter]

/-- What opening a style emits. -/
def opening : Style → Bytes
  | align a => a.bytes
  | size s => s.bytes
  | centered s => Align.center.bytes ++ s.bytes

/-- What closing a style emits. -/
def closing : Style → Bytes
  | align _ => []
  | size _ => Size.normal
  | centered _ => Size.normal

def all : List Style :=
  [.align .left, .align .center, .align .right, .size .big, .size .medium, .size .wide,
   .centered .big, .centered .medium, .centered .wide]

end Style

namespace Tag

/-- What stands between the angle brackets. -/
def name : Tag → List Char
  | begins style => style.letters
  | ends style => '/' :: style.letters

def written (t : Tag) : List Char := '<' :: t.name ++ ['>']

/-- What the tag emits. -/
def bytes : Tag → Bytes
  | begins style => style.opening
  | ends style => style.closing

def all : List Tag := Style.all.map .begins ++ Style.all.map .ends

/-- The tag with the given name. Letter case counts, and there is no room
for blanks. -/
def ofName? (name : List Char) : Option Tag := all.find? (·.name == name)

end Tag

end ReceiptPrinter.Markup
