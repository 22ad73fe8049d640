import Tracing.Http.Network
/-!
Paths into a folder of files. A path is written in normal form: without empty steps and steps to
the same place. The folder holds files alone, so a path either stays in it, only climbs, or starts
from the root, where the usual folders are.
-/

set_option autoImplicit false
set_option relaxedAutoImplicit false

namespace Tracing

abbrev Folder := List (String × Payload)

/-- A path: what it starts from, and its steps. -/
structure FilePath where
  root : String
  steps : List String
  deriving DecidableEq

namespace FilePath

def parts : List Char → List (List Char)
  | [] => [[]]
  | c :: rest =>
    match parts rest with
    | [] => [[]]
    | part :: others => if c = '/' then [] :: part :: others else (c :: part) :: others

/-- Reads a path. Two slashes in front are another root than one or than three. -/
def ofText (s : String) : FilePath :=
  let cs := s.toList
  let slashes := (cs.takeWhile (· = '/')).length
  let root := if slashes = 0 then "" else if slashes = 2 then "//" else "/"
  let steps := (parts cs).map String.ofList
  ⟨root, steps.filter fun step => step ≠ "" && step ≠ "."⟩

def text (p : FilePath) : String :=
  if p.root.isEmpty && p.steps.isEmpty then "." else p.root ++ String.intercalate "/" p.steps

def nameLimit : Nat := 255

def textLimit : Nat := 4095

end FilePath

/-- What stands at a path. -/
inductive Place where
  | file (content : Payload)
  | folder
  | nothing
  | tooLong

namespace Folder

def find? (name : String) : Folder → Option Payload
  | [] => none
  | (k, content) :: rest => if k = name then some content else find? name rest

def rootFolders : List String :=
  ["bin", "boot", "dev", "etc", "home", "lib", "media", "mnt", "opt", "proc", "root", "run", "sbin",
    "srv", "sys", "tmp", "usr", "var"]

/-- What stands at steps from the root: one of the usual folders, or the file that is always
empty. -/
def placeFromRoot : List String → Place
  | [name] => if rootFolders.contains name then .folder else .nothing
  | ["dev", "null"] => .file (.text "")
  | folder :: name :: _ =>
    if rootFolders.contains folder && FilePath.nameLimit < name.utf8ByteSize then .tooLong
    else .nothing
  | [] => .nothing

def placeInside (f : Folder) : List String → Place
  | [name] =>
    match f.find? name with
    | some content => .file content
    | none => .nothing
  | _ => .nothing

/-- What stands at a path. Steps upward lead to folders; of what is above the folder, nothing more
is known. -/
def place (f : Folder) (p : FilePath) : Place :=
  if FilePath.textLimit < p.text.utf8ByteSize then .tooLong else
  match p.steps.dropWhile (· = "..") with
  | [] => .folder
  | first :: rest =>
    if FilePath.nameLimit < first.utf8ByteSize then .tooLong
    else if !p.root.isEmpty then placeFromRoot (first :: rest)
    else if p.steps.head? = some first then f.placeInside (first :: rest)
    else .nothing

end Folder

end Tracing
