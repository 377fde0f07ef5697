/-
A disk that is all in memory: files with what they hold, and how a path is
followed to one of them.

A path is followed part by part. Doubled slashes and single dots stay where
they are, two dots go one folder up, and nothing can be followed through a
file, not even by a slash behind its name.
-/
import ReceiptPrinter.Bytes
import ReceiptPrinter.OsError
import ReceiptPrinter.Text.Basic

namespace ReceiptPrinter

/-- Where a file or folder is: the names on the way, the outermost first. -/
abbrev Place := List (List Char)

/-- The place that a path leads to if nothing in it has a special meaning. -/
def Place.ofPath (path : String) : Place :=
  (Text.splitAt '/' path.toList).filter (!List.isEmpty ·)

/-- Files and folders. -/
structure Disk where
  /-- What is in which file. -/
  files : List (Place × Bytes)
  /-- The folders that hold no file, and maybe others. -/
  folders : List Place
  /-- Where paths begin that do not begin at the root. -/
  home : Place

namespace Disk

/-- What is in the file at a place. -/
def content? (disk : Disk) (place : Place) : Option Bytes := disk.files.lookup place

/-- Whether there is a folder at a place. -/
def hasFolder (disk : Disk) (place : Place) : Bool :=
  (disk.home :: disk.folders).any (place.isPrefixOf ·) ||
    disk.files.any fun (file, _) => place.isPrefixOf file && place != file

/-- The most bytes in a name. -/
def longestName : Nat := 255

/-- The most bytes in a path. -/
def longestPath : Nat := 4095

/-- Follows parts of a path from a place on. -/
def follow (disk : Disk) : Place → List (List Char) → Except OsError Place
  | place, [] => .ok place
  | place, part :: rest =>
    if (disk.content? place).isSome then .error .notDirectory
    else if part = [] ∨ part = ['.'] then disk.follow place rest
    else if part = ['.', '.'] then disk.follow place.dropLast rest
    else if longestName < (utf8 part).length then .error .nameTooLong
    else
      let next := place ++ [part]
      if (disk.content? next).isSome || disk.hasFolder next then disk.follow next rest
      else .error .notFound

/-- The place that a path leads to. -/
def find (disk : Disk) (path : String) : Except OsError Place :=
  let text := path.toList
  if text.contains '\x00' then .error .nameWithNul
  else if text.isEmpty then .error .notFound
  else if longestPath < (utf8 text).length then .error .nameTooLong
  else disk.follow (if text.head? = some '/' then [] else disk.home) (Text.splitAt '/' text)

/-- What is in the file that a path leads to. -/
def read (disk : Disk) (path : String) : Except OsError Bytes := do
  match disk.content? (← disk.find path) with
  | some bytes => return bytes
  | none => throw .isDirectory

end Disk

end ReceiptPrinter
