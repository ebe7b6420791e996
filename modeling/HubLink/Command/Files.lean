import HubLink.Config.Basic
import HubLink.Text.Segments

namespace HubLink.Command

open Text Config

/-- A file with its path and its content. -/
structure File where
  /-- Whether the path starts at the root. -/
  isRooted : Bool
  path : List String
  content : Bytes
  deriving DecidableEq

/-- The files visible to the program. A directory exists if a file is below it. -/
abbrev Files := List File

/-- The parts of a path. -/
def pathParts (path : String) : List String :=
  (segments '/' path.toList).map String.ofList

/-- Whether a path starts at the root. -/
def startsAtRoot (path : String) : Bool :=
  path.toList.head? = some '/'

/-- A file from its path as written. -/
def File.ofPath (path : String) (content : Bytes) : File where
  isRooted := startsAtRoot path
  path := (pathParts path).filter (· ≠ "")
  content := content

namespace Files

/-- The content of the file at a place. -/
def file? (files : Files) (isRooted : Bool) (place : List String) : Option Bytes :=
  (files.find? fun f => f.isRooted = isRooted && f.path = place).map (·.content)

/-- Whether a file is below a place. -/
def isDirectory (files : Files) (isRooted : Bool) (place : List String) : Bool :=
  place.isEmpty ||
    files.any fun f => f.isRooted = isRooted && place.isPrefixOf f.path && f.path ≠ place

/-- The maximum length of a file name, in bytes. -/
def maxName : Nat := 255

/-- The length from which a path is too long, in bytes. -/
def pathLimit : Nat := 4096

/-- Resolves the parts of a path above the working directory, where no file is visible. -/
def followAbove : List String → Except FileFault Bytes
  | [] => .error .isDirectory
  | part :: rest =>
    if part = "" || part = "." || part = ".." then followAbove rest
    else if maxName < (utf8 part).length then .error .nameTooLong
    else .error .notFound

/-- Resolves the parts of a path from a directory and reads the file at its end. Empty parts and `.`
are skipped, and `..` leads to the parent. -/
def follow (files : Files) (isRooted : Bool) :
    List String → List String → Except FileFault Bytes
  | _, [] => .error .isDirectory
  | place, part :: rest =>
    if part = "" || part = "." then follow files isRooted place rest
    else if part = ".." then
      if place.isEmpty && !isRooted then followAbove rest
      else follow files isRooted place.dropLast rest
    else if maxName < (utf8 part).length then .error .nameTooLong
    else
      let next := place ++ [part]
      if files.isDirectory isRooted next then follow files isRooted next rest
      else
        match files.file? isRooted next with
        | none => .error .notFound
        | some content => if rest.isEmpty then .ok content else .error .notDirectory

/-- Reads the file at a path. -/
def read (files : Files) (path : String) : Except FileFault Bytes :=
  if path.toList.any (·.toNat = 0) then .error .nulInName
  else if path = "" then .error .notFound
  else if pathLimit ≤ (utf8 path).length then .error .nameTooLong
  else files.follow (startsAtRoot path) [] (pathParts path)

end Files
end HubLink.Command
