import Sequitur.Store.Operation

/-!
# Files and folders

The files and folders below one folder, as a value, so that the store can be opened and used, and
documents written, without a disk.  In a path names stand between slashes; a single dot means the
folder itself, and two dots mean the folder above, which for the outermost one is itself.

## What is here

* `FileTree`, with `FileTree.walk` — where a path leads.
* `FileTree.createFolders`, `FileTree.write`.
* `FileTree.directory` — one of its folders as a `Directory`; `FileTree.perform` — an operation of
  the store in it.
-/

set_option autoImplicit false

namespace Sequitur

/-- Files and folders, by the names on the way to them from the outermost folder. -/
structure FileTree where
  entries : List (List String × Entry) := []

namespace FileTree

/-! ## Places -/

/-- The names in a path. -/
def steps (path : String) : List String :=
  (path.splitOn "/").filter (· ≠ "")

/-- What is at a place, if anything. -/
def entry? (t : FileTree) (place : List String) : Option Entry :=
  if place.isEmpty then some .folder else t.entries.lookup place

/-- A place set to an entry. -/
def set (t : FileTree) (place : List String) (e : Entry) : FileTree :=
  { entries := t.entries.filter (fun p ↦ p.1 ≠ place) ++ [(place, e)] }

/-- The place that a name leads to from a folder. -/
def next (place : List String) (name : String) : List String :=
  if name = "." then place
  else if name = ".." then place.dropLast
  else place ++ [name]

/-- The place that names lead to.  All but the last have to lead to folders. -/
def walk (t : FileTree) (place : List String) : List String → Except FileFault (List String)
  | [] => .ok place
  | name :: names =>
    match t.entry? place with
    | none => .error .notFound
    | some (.file _) => .error .notFolder
    | some .folder => walk t (next place name) names

/-! ## Changes -/

/-- Folders made along some names where there is nothing yet, as far as that is possible. -/
def makeFolders (t : FileTree) (place : List String) :
    List String → FileTree × Except FileFault (List String)
  | [] => (t, .ok place)
  | name :: names =>
    match t.entry? (next place name) with
    | some .folder => makeFolders t (next place name) names
    | some (.file _) => (t, .error (if names.isEmpty then .alreadyThere else .notFolder))
    | none => makeFolders (t.set (next place name) .folder) (next place name) names

/-- The folder at a path, made with all folders above it where there is nothing yet.  A path that
ends in a dot has to lead to a folder that is there already. -/
def createFolders (t : FileTree) (path : String) :
    FileTree × Except FileFault (List String) :=
  let names := steps path
  if names.getLast? = some "." then
    match t.makeFolders [] (names.filter (· ≠ ".")).dropLast with
    | (made, .error fault) => (made, .error fault)
    | (made, .ok _) => (made, made.walk [] names)
  else t.makeFolders [] names

/-- A file written at a path. -/
def write (t : FileTree) (path : String) (contents : List Symbol) : Except FileFault FileTree :=
  match t.walk [] (steps path) with
  | .error fault => .error fault
  | .ok place =>
    if path.isEmpty then .error .notFound
    else if path.endsWith "/" ∨ t.entry? place = some .folder then .error .isFolder
    else .ok (t.set place (.file contents))

/-! ## The store -/

/-- A folder as a directory that is known by a path. -/
def directory (t : FileTree) (path : String) (place : List String) : Directory where
  path := path
  entries := t.entries.filterMap fun p ↦
    match p.1.getLast? with
    | some name => if p.1.dropLast = place then some (name, p.2) else none
    | none => none

/-- The tree with the entries of a folder set to those of a directory. -/
def withDirectory (t : FileTree) (place : List String) (d : Directory) : FileTree :=
  { entries := t.entries.filter (fun p ↦ p.1.isEmpty ∨ p.1.dropLast ≠ place) ++
      d.entries.map fun e ↦ (place ++ [e.1], e.2) }

/-- The answer to an operation on the store in a folder, and the tree afterwards. -/
def perform (t : FileTree) (path : String) (place : List String) (op : StoreOperation) :
    Except StoreError op.Result × FileTree :=
  let (answer, d) := op.perform (t.directory path place)
  (answer, t.withDirectory place d)

end FileTree

end Sequitur
