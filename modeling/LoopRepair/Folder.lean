import LoopRepair.TextBytes
import LoopRepair.TextPieces

/-!
# Files in a folder

A folder holds files and folders by name, and a file in it is read by its path, the
names on the way with slashes between them. Reading fails where a name is missing,
where a file stands in the middle of a path, where the path ends at a folder, and
where a name or the whole path has too many bytes.
Nothing is known about what lies outside the folder but that it is a folder too.
-/
namespace LoopRepair

/-- Why a file could not be read: a failure with its number, or contents that are not
text. -/
inductive ReadFailure where
  | system (code : Nat) (text : String)
  | notText
  deriving DecidableEq, Repr

namespace ReadFailure

def notFound : ReadFailure := system 2 "No such file or directory"

def notDirectory : ReadFailure := system 20 "Not a directory"

def isDirectory : ReadFailure := system 21 "Is a directory"

def nameTooLong : ReadFailure := system 36 "File name too long"

def message : ReadFailure → String
  | .system code text => text ++ " (os error " ++ toString code ++ ")"
  | .notText => "stream did not contain valid UTF-8"

end ReadFailure

/-- A folder with no files, or a file with its contents. -/
inductive FolderEntry where
  | folder
  | file (contents : ByteArray)

/-- Entries by their paths. Every name but the last of a path names a folder. -/
structure Folder where
  entries : List (List (List Char) × FolderEntry)

namespace Folder

/-- The names of a path, empty ones included. -/
def names (path : String) : List (List Char) := TextPieces.pieces (· = '/') path.toList

def ofList (files : List (String × FolderEntry)) : Folder :=
  ⟨files.map fun f => (names f.1, f.2)⟩

/-- The bytes that a name may have. -/
def nameLimit : Nat := 255

/-- The bytes that a path may have. -/
def pathLimit : Nat := 4095

/-- What stands at a path. -/
def get? (f : Folder) (path : List (List Char)) : Option FolderEntry :=
  match f.entries.find? fun e => e.1 = path with
  | some e => some e.2
  | none => if f.entries.any fun e => path.isPrefixOf e.1 then some .folder else none

/-- A path outside the folder ends at a folder if it has no name. -/
def readOutside : List (List Char) → Except ReadFailure ByteArray
  | [] => .error .isDirectory
  | name :: rest =>
      if name = [] ∨ name = ['.'] ∨ name = ['.', '.'] then readOutside rest
      else if nameLimit < TextBytes.size name then .error .nameTooLong
      else .error .notFound

/-- Follow the names from the folder at `here`. -/
def readFrom (f : Folder) (here : List (List Char)) :
    List (List Char) → Except ReadFailure ByteArray
  | [] => .error .isDirectory
  | name :: rest =>
      if name = [] ∨ name = ['.'] then f.readFrom here rest
      else if name = ['.', '.'] then
        if here = [] then readOutside rest else f.readFrom here.dropLast rest
      else if nameLimit < TextBytes.size name then .error .nameTooLong
      else match f.get? (here ++ [name]) with
        | none => .error .notFound
        | some .folder => f.readFrom (here ++ [name]) rest
        | some (.file contents) => if rest = [] then .ok contents else .error .notDirectory

/-- The contents of the file with this path. -/
def read (f : Folder) (path : String) : Except ReadFailure ByteArray :=
  if pathLimit < path.utf8ByteSize then .error .nameTooLong
  else match names path with
  | [[]] => .error .notFound
  | [] :: rest => readOutside rest
  | all => f.readFrom [] all

end Folder
end LoopRepair
