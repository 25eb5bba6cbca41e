import Foundry.Fault
import Foundry.Ordered

/-!
A tree of files and directories, with the operations that a program asks of a file system and the
problems they run into.
-/

namespace Foundry

abbrev Bytes := List UInt8

/-- What lies at a place: the bytes of a file, or nothing for a directory. -/
abbrev Node := Option Bytes

/-- Files and directories by the parts of their paths. The root is always a directory. -/
structure FileTree where
  nodes : Ordered (List String) Node
deriving Repr

namespace FileTree

def empty : FileTree := ⟨Ordered.empty⟩

/-- Everything but the root. -/
def entries (t : FileTree) : List (List String × Node) :=
  t.nodes.entries

/-- What lies at a place without dots. -/
def at? (t : FileTree) (place : List String) : Option Node :=
  if place.isEmpty then some none else t.nodes.get? place

def put (t : FileTree) (place : List String) (n : Node) : FileTree :=
  ⟨t.nodes.insert place n⟩

/-- The longest name of a file. -/
def maxNameBytes : Nat := 255

/-- Follows the parts of a path from a place to its last directory; the last part may be missing.
Every part on the way has to be a directory. -/
def walk (t : FileTree) (place : List String) : List String → Except FileProblem (List String)
  | [] => .ok place
  | part :: rest =>
    match t.at? place with
    | none => .error .missing
    | some (some _) => .error .notDirectory
    | some none =>
      if part = ".." then walk t place.dropLast rest
      else if part.utf8ByteSize > maxNameBytes then .error .nameTooLong
      else walk t (place ++ [part]) rest

/-- The place of a path. -/
def locate (t : FileTree) (p : Path) : Except FileProblem (List String) :=
  t.walk [] p.parts

/-- What lies at a path. -/
def find? (t : FileTree) (p : Path) : Option Node :=
  match t.locate p with
  | .ok place => t.at? place
  | .error _ => none

def isDir (t : FileTree) (p : Path) : Bool :=
  match t.find? p with
  | some none => true
  | _ => false

def isFile (t : FileTree) (p : Path) : Bool :=
  match t.find? p with
  | some (some _) => true
  | _ => false

/-- The names in a directory. -/
def children (t : FileTree) (place : List String) : List String :=
  t.entries.filterMap fun e =>
    if e.1.length = place.length + 1 && e.1.dropLast = place then e.1.getLast? else none

/-- The bytes of a file. -/
def read (t : FileTree) (p : Path) : Except FileFault Bytes :=
  let fail := fun problem => Except.error ⟨problem, p.text, none⟩
  match t.locate p with
  | .error problem => fail problem
  | .ok place =>
    match t.at? place with
    | none => fail .missing
    | some none => fail .isDirectory
    | some (some bytes) => .ok bytes

/-- Makes one directory. -/
def makeDir (t : FileTree) (p : Path) : Except FileProblem FileTree :=
  match t.locate p with
  | .error problem => .error problem
  | .ok place =>
    match t.at? place with
    | some _ => .error .exists
    | none => .ok (t.put place none)

/-- Makes a directory with the directories above it; directories that exist are left alone. -/
def makeDirs (t : FileTree) : Nat → Path → Except (FileFault × FileTree) FileTree
  | 0, p => .error (⟨.missing, p.text, none⟩, t)
  | fuel + 1, p =>
    let finish := fun (t : FileTree) => match t.makeDir p with
      | .ok t => Except.ok t
      | .error problem =>
        if t.isDir p then .ok t else .error (⟨problem, p.text, none⟩, t)
    match t.makeDir p with
    | .error .missing =>
      if p.parts.isEmpty then .error (⟨.missing, p.text, none⟩, t)
      else
        match t.makeDirs fuel p.parent with
        | .error e => .error e
        | .ok t => finish t
    | _ => finish t

/-- Puts a file at a path, in place of a file that is there. -/
def writeFile (t : FileTree) (p : Path) (bytes : Bytes) : Except FileProblem FileTree :=
  match t.locate p with
  | .error problem => .error problem
  | .ok place =>
    match t.at? place with
    | some none => .error .isDirectory
    | _ => .ok (t.put place (some bytes))

/-- A tree of files given by their paths; a path that ends in a slash is an empty directory. -/
def ofFiles (files : List (String × Bytes)) : FileTree :=
  files.foldl (fun t (path, bytes) =>
    let p := Path.ofText path
    let dir := if Text.endsWith path "/" then p else p.parent
    let t := match t.makeDirs (p.parts.length + 1) dir with
      | .ok t => t
      | .error (_, t) => t
    if Text.endsWith path "/" then t
    else match t.writeFile p bytes with
      | .ok t => t
      | .error _ => t) empty

/-- Files of a tree that another one does not have, or has with other bytes. -/
def changesSince (t old : FileTree) : List (List String × Bytes) :=
  t.entries.filterMap fun (place, node) =>
    match node with
    | some bytes =>
      if old.nodes.get? place = some (some bytes) then none else some (place, bytes)
    | none => none

end FileTree

end Foundry
