import Foundry.FileTree

/-!
Finding modules in directories: a directory with a package file, a file of the module's own, or a
directory without a package file, which is a module only where no other is found.
-/

namespace Foundry.Discovery

/-- Where a module lies. -/
inductive Place
  | package (dir : Path)
  | file (path : Path)
  /-- Directories that share a name, in the order in which they were searched. -/
  | shared (dirs : List Path)
deriving DecidableEq, Repr

def packageFile : String := "__init__.py"

/-- The names in a directory. -/
def listing (t : FileTree) (dir : Path) : List String :=
  if t.isDir dir then
    match t.locate dir with
    | .ok place => t.children place
    | .error _ => []
  else []

/-- What one directory holds under the name of a module. -/
def findInDir (t : FileTree) (name : String) (dir : Path) : Option Place :=
  let names := listing t dir
  let inner := dir.child name
  if names.contains name && t.isFile (inner.child packageFile) then some (.package inner)
  else if names.contains (name ++ ".py") && t.isFile (dir.child (name ++ ".py")) then
    some (.file (dir.child (name ++ ".py")))
  else if names.contains name && t.isDir inner then some (.shared [inner])
  else none

/-- The first package or file in the directories; without one, all directories of the name. -/
def find (t : FileTree) (dirs : List Path) (name : String) : Option Place :=
  let found := dirs.filterMap (findInDir t name)
  let own := found.find? fun p => match p with
    | .shared _ => false
    | _ => true
  match own with
  | some p => some p
  | none =>
    let shared := found.flatMap fun p => match p with
      | .shared ds => ds
      | _ => []
    if shared.isEmpty then none else some (.shared shared)

end Foundry.Discovery
