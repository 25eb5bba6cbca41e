import Foundry.FileTree
import Foundry.Name.Dotted

/-!
Source files under a list of roots and the modules they hold. The order is that of the roots and,
within a root, of the parts of the paths; the first file of a module counts.
-/

namespace Foundry.Discovery

open Foundry.Text

/-- Directories that hold no sources. -/
def skippedDirs : List String :=
  ["__pycache__", ".git", ".venv", "venv", ".tox", "node_modules"]

/-! ### Names of modules from paths -/

/-- The directory that relative paths start from. -/
def workingDir : List String := ["work", "here"]

/-- Parts without dots: a double dot takes back the part before it. -/
def normalParts : List String → List String → List String
  | acc, [] => acc
  | acc, p :: ps =>
    if p == "" || p == "." then normalParts acc ps
    else if p == ".." then normalParts acc.dropLast ps
    else normalParts (acc ++ [p]) ps

/-- The parts of a path from the root of the file system. -/
def absoluteParts (s : String) : List String :=
  if startsWith s "/" then normalParts [] (split '/' s)
  else normalParts workingDir (split '/' s)

def commonLength : List String → List String → Nat
  | a :: as, b :: bs => if a = b then commonLength as bs + 1 else 0
  | _, _ => 0

/-- A path as seen from a base. -/
def relative (candidate base : String) : String :=
  let start := absoluteParts base
  let path := absoluteParts candidate
  let n := commonLength start path
  match List.replicate (start.length - n) ".." ++ path.drop n with
  | [] => "."
  | ps => join "/" ps

/-- Dots taken off the end. -/
def stripDots (s : String) : String :=
  String.ofList (s.toList.reverse.dropWhile (· == '.')).reverse

/-- The module a path below a base holds: its parts joined by dots, without the extension and
without the name of a package file. -/
def moduleName (candidate base : String) : Except Fault (Option String) :=
  if candidate == "" then .error (.raised "ValueError" "no path specified")
  else
    let rel := relative candidate base
    if startsWith rel ".." then .ok none
    else
      let rel := replace rel "/" "."
      if rel == "__init__.py" then .ok none
      else
        let stem := match [".__init__.py", ".py"].find? (endsWith rel) with
          | some s => takeText rel (rel.length - s.length)
          | none => rel
        let name := stripDots stem
        .ok (if name == "" then none else some name)

/-! ### Walking the roots -/

/-- Every place below a directory whose name has the extension, `depth` levels down. -/
def placesBelow (t : FileTree) : Nat → List String → List (List String)
  | 0, _ => []
  | depth + 1, place =>
    (t.children place).flatMap fun name =>
      let here := place ++ [name]
      let own := if endsWith name ".py" then [here] else []
      match t.at? here with
      | some none => own ++ placesBelow t depth here
      | _ => own

def precedes : List String → List String → Bool
  | [], _ => true
  | _ :: _, [] => false
  | a :: as, b :: bs => a < b || (a == b && precedes as bs)

/-- A file lies in no skipped and in no hidden directory below its root. -/
def isEligible (rel : List String) : Bool :=
  rel.dropLast.all fun p => !skippedDirs.contains p && !startsWith p "."

/-- Modules with their files, and the warnings about roots. -/
structure Found where
  modules : List (String × Path)
  warnings : List String
deriving Repr

def Found.has (f : Found) (name : String) : Bool :=
  f.modules.any fun m => m.1 == name

/-- The files of one root. -/
def findUnder (t : FileTree) (f : Found) (root : Path) : Found :=
  if t.isDir root then
    match t.locate root with
    | .error _ => f
    | .ok place =>
      let rels := (placesBelow t (t.entries.length + 1) place).map (·.drop place.length)
      (rels.mergeSort precedes).foldl (fun f rel =>
        let path := root.append ⟨"", rel⟩
        if isEligible rel then
          match moduleName path.text root.text with
          | .ok (some name) =>
            if f.has name || !Name.isDotted name then f
            else { f with modules := f.modules ++ [(name, path)] }
          | _ => f
        else f) f
  else
    { f with warnings := f.warnings ++
      [s!"source root does not exist or is not a directory: {root.text}"] }

/-- The modules under a list of roots. -/
def findSources (t : FileTree) (roots : List Path) : Found :=
  roots.foldl (findUnder t) ⟨[], []⟩

end Foundry.Discovery
