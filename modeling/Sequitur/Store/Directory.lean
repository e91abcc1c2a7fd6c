import Sequitur.Json.Decoder
import Sequitur.Json.Printer
import Sequitur.Json.Reader
import Sequitur.Tree.Basic

/-!
# The store's directory

The files in which progress is kept, as a value: a directory is a list of named entries, each a file
with its contents or a folder.  Reading a file that is not there is no error, but a folder can
neither be read nor replaced.

A file is replaced as a whole or not at all, so nobody ever sees half of one.  That it is not
replaced may have reasons that no directory shows, such as a full disk.  They are told as
`Refusals`, and wherever none are told, `Refusals.none` is assumed.  Of reading it is assumed that
the system lets everything be read that is a file.

## What is here

* `Directory`, with `Directory.read` and `Directory.replace`.
* `Refusals` — which files the system does not let be replaced.
* `Directory.readJson` and `Directory.writeJson` — values in files; what does not decode counts as
  absent.
* `StoreError`, with `StoreError.message`.
-/

set_option autoImplicit false

namespace Sequitur

/-! ## Faults -/

/-- Why the system refused to read or write a file. -/
inductive FileFault where
  | isFolder
  | notFolder
  | notFound
  | alreadyThere
  | other (text : String)
  deriving DecidableEq

/-- The fault in the words of the system. -/
def FileFault.message : FileFault → String
  | isFolder => "Is a directory (os error 21)"
  | notFolder => "Not a directory (os error 20)"
  | notFound => "No such file or directory (os error 2)"
  | alreadyThere => "File exists (os error 17)"
  | other text => text

/-- What keeps a file from being written: the path that the system names, which may be one on the
way to the file, and the fault. -/
structure Obstacle where
  path : String
  fault : FileFault
  deriving DecidableEq

/-- The writes that the system refuses while something is done, by the names of the files.  Any
write may be refused for any reason; the file then stays as it was. -/
abbrev Refusals :=
  String → Option Obstacle

/-- The system refuses nothing. -/
def Refusals.none : Refusals :=
  fun _ ↦ Option.none

/-! ## Directories -/

/-- What a name in a directory stands for. -/
inductive Entry where
  | file (contents : List Symbol)
  | folder
  deriving DecidableEq

/-- A directory: where it is and what it holds. -/
structure Directory where
  path : String
  entries : List (String × Entry) := []

namespace Directory

/-- The path of a name inside a directory; an absolute name is its own path. -/
def join (directory name : String) : String :=
  if name.startsWith "/" || directory.isEmpty then name
  else if directory.endsWith "/" then directory ++ name
  else directory ++ "/" ++ name

/-- The path of an entry. -/
def pathOf (d : Directory) (name : String) : String :=
  join d.path name

/-- What a name stands for, if anything. -/
def entry? (d : Directory) (name : String) : Option Entry :=
  d.entries.lookup name

/-- The contents of a file, none when there is no such file. -/
def read (d : Directory) (name : String) : Except FileFault (Option (List Symbol)) :=
  match d.entry? name with
  | none => .ok none
  | some (.file contents) => .ok (some contents)
  | some .folder => .error .isFolder

/-- A name set to an entry. -/
def set (d : Directory) (name : String) (e : Entry) : Directory :=
  { d with entries := d.entries.filter (fun p ↦ p.1 ≠ name) ++ [(name, e)] }

/-- A name removed. -/
def erase (d : Directory) (name : String) : Directory :=
  { d with entries := d.entries.filter fun p ↦ p.1 ≠ name }

/-- What keeps a file from being replaced, if anything does: the system refuses, or else there is a
folder in its place. -/
def obstacle? (d : Directory) (name : String) (refused : Refusals := .none) : Option Obstacle :=
  match refused name, d.entry? name with
  | some obstacle, _ => some obstacle
  | none, some .folder => some { path := d.pathOf name, fault := .isFolder }
  | none, _ => none

/-- A file made or replaced, if nothing keeps it from being so. -/
def replace (d : Directory) (name : String) (contents : List Symbol)
    (refused : Refusals := .none) : Except Obstacle Directory :=
  match d.obstacle? name refused with
  | some obstacle => .error obstacle
  | none => .ok (d.set name (.file contents))

end Directory

/-! ## Errors of the store -/

/-- Why an operation on the store failed. -/
inductive StoreError where
  | noDirectory
  | file (path : String) (fault : FileFault)
  | tree (error : TreeError)
  deriving DecidableEq

namespace StoreError

/-- The error in words. -/
def message : StoreError → String
  | noDirectory => "no store directory: set NDTUTOR_HOME or HOME"
  | file path fault => "I/O error on " ++ path ++ ": " ++ fault.message
  | tree e => "stored proof tree is invalid: " ++ e.message

/-- The words of the error that caused it, if there is one. -/
def cause? : StoreError → Option String
  | noDirectory => none
  | file _ fault => some fault.message
  | tree e => some e.message

end StoreError

/-! ## Values in files -/

namespace Directory

/-- The value kept in a file, none when there is no such file or it does not decode. -/
def readJson {α : Type} (d : Directory) (name : String) (decoder : Decoder α) :
    Except StoreError (Option α) :=
  match d.read name with
  | .error fault => .error (.file (d.pathOf name) fault)
  | .ok contents => .ok ((contents.bind Json.read?).bind (Json.decode? decoder))

/-- A value kept in a file, laid out over lines. -/
def writeJson (d : Directory) (name : String) (j : Json) (refused : Refusals := .none) :
    Except StoreError Directory :=
  match d.replace name (Symbol.ofString j.pretty) refused with
  | .error obstacle => .error (.file obstacle.path obstacle.fault)
  | .ok changed => .ok changed

end Directory

end Sequitur
