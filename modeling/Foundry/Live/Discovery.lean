import Foundry.Discovery.Pattern
import Foundry.Discovery.Sources
import Foundry.Live.Evaluation

/-!
Discovery of modules to import: names as they are, and patterns that stand for the modules found
in the directories of the machine.
-/

namespace Foundry.Live

open Foundry.Discovery Foundry.Text

/-- Whether a module can be found; the packages above it are imported for that. -/
def canFind (name : String) : Run Bool := do
  if (← get).has name then return true
  let parent := beforeLastSegment name
  if parent != "" then importAbsolute parent
  let m ← get
  if parent != "" && ((m.modules.get? parent).bind Imported.parts).isNone then
    throw (.moduleNotFound name (s!"__path__ attribute not found on {quoted parent} " ++
      s!"while trying to find {quoted name}"))
  let dirs ← attempt (searchDirs m name)
  return (Discovery.find m.files dirs (lastSegment name)).isSome

/-- What a pattern is completed by: nothing, the extension, and the name of a package file. -/
def patternSuffixes : List String := ["", ".py", "/__init__.py"]

/-- The modules that paths below a directory hold, besides those that were found before. -/
def modulesAt (dir : Path) : List String → List String → Run (List String)
  | [], found => return found
  | path :: rest, found => do
    match ← attempt (moduleName path dir.text) with
    | none => modulesAt dir rest found
    | some name =>
      if contains name "__pycache__" then modulesAt dir rest found
      else if (← canFind name) && !found.contains name then
        modulesAt dir rest (found ++ [name])
      else modulesAt dir rest found

/-- The modules a pattern stands for. The working directory is looked at only where it is named. -/
def expandModules (pattern : String) : Run (List String) := do
  let m ← get
  let path := replace pattern "." "/"
  ((m.searched.filter (· != "")).map Path.ofText).foldlM (fun found dir => do
    if m.files.isDir dir then
      patternSuffixes.foldlM (fun found suffix =>
        modulesAt dir (expand m.files dir (path ++ suffix)) found) found
    else return found) []

/-- Texts without repetition, in the order of their first occurrence. -/
def distinct (names : List String) : List String :=
  names.foldl (fun acc n => if acc.contains n then acc else acc ++ [n]) []

/-- The modules that names and patterns stand for. -/
def resolveModules (names : List String) : Run (List String) := do
  let found ← names.mapM fun n => do
    if n == "" then return []
    else if isPattern n then expandModules n
    else return [n]
  return distinct found.flatten

/-- Imports the modules that names and patterns stand for. -/
def discover (names : List String) : Run (List String) := do
  let modules ← resolveModules names
  modules.forM importAbsolute
  return modules

end Foundry.Live
