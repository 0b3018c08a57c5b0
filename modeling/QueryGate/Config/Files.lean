-- Files that texts are read from, and what can go wrong with it. A folder
-- is a set of files with their paths; the paths of its files are the only
-- ones below it.
namespace QueryGate

/-- Why the text of a file cannot be had. -/
inductive ReadProblem where
  | notFound
  | isDirectory
  | notDirectory
  | nameTooLong
  | nulInName
  | notText
  | other (reason : String)
deriving DecidableEq, Repr

def ReadProblem.message : ReadProblem → String
  | .notFound => "No such file or directory (os error 2)"
  | .isDirectory => "Is a directory (os error 21)"
  | .notDirectory => "Not a directory (os error 20)"
  | .nameTooLong => "File name too long (os error 36)"
  | .nulInName => "file name contained an unexpected NUL byte"
  | .notText => "stream did not contain valid UTF-8"
  | .other reason => reason

/-- The text that bytes are the UTF-8 of. -/
def decodeText (bytes : ByteArray) : Except ReadProblem String :=
  match String.fromUTF8? bytes with
  | some text => .ok text
  | none => .error .notText

/-- Gives the text of the file at a path. -/
abbrev FileReader := String → Except ReadProblem String

/-! ## Folders -/

abbrev Folder := List (String × ByteArray)

/-- The names on a path, in the order in which they are followed. A slash at the end asks for a folder,
as a single dot does. -/
def pathNames (path : String) : List String :=
  let names := (path.splitOn "/").filter (· ≠ "")
  if path.endsWith "/" then names ++ ["."] else names

/-- The place above a place. Above the folder itself there is no file of it. -/
def placeAbove (place : List String) : List String :=
  if place.all (· == "..") then place ++ [".."] else place.dropLast

namespace Folder

/-- The bytes of a file. -/
def file? (f : Folder) (place : List String) : Option ByteArray :=
  (f.find? fun (path, _) => pathNames path == place).map (·.2)

/-- The place is the folder itself, one above it, or one that a file lies below. -/
def isFolder (f : Folder) (place : List String) : Bool :=
  place.all (· == "..") || f.any fun (path, _) =>
    place.isPrefixOf (pathNames path) && pathNames path != place

/-- The most bytes that a name may have. -/
def nameLimit : Nat := 255

/-- The most bytes that a path may have. -/
def pathLimit : Nat := 4095

/-- The place that names lead to. Only from a folder does a name lead on. -/
def follow (f : Folder) (place : List String) : List String → Except ReadProblem (List String)
  | [] => .ok place
  | name :: rest =>
    if f.isFolder place then
      if name = "." then f.follow place rest
      else if name = ".." then f.follow (placeAbove place) rest
      else if nameLimit < name.utf8ByteSize then .error .nameTooLong
      else f.follow (place ++ [name]) rest
    else .error (if (f.file? place).isSome then .notDirectory else .notFound)

/-- The file that is empty wherever the folder lies. -/
def nullDevice : String := "/dev/null"

/-- Any other path from the root leads out of the folder. -/
def read (f : Folder) : FileReader := fun path => do
  if path.contains '\x00' then throw .nulInName
  if path = "" then throw .notFound
  if path = nullDevice then return ""
  if pathLimit < path.utf8ByteSize then throw .nameTooLong
  let place ← f.follow (if path.startsWith "/" then [".."] else []) (pathNames path)
  if f.isFolder place then throw .isDirectory
  match f.file? place with
  | none => throw .notFound
  | some bytes => decodeText bytes

end Folder

end QueryGate
