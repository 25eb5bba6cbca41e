import Foundry.Text.Segments

/-!
File paths: parts without empty ones and single dots, below a root or relative.
-/

namespace Foundry

open Foundry.Text

/-- A path. The root is empty for a relative path, one slash or two. -/
structure Path where
  root : String
  parts : List String
deriving DecidableEq, Repr, Inhabited

namespace Path

def ofText (s : String) : Path :=
  let slashes := (s.toList.takeWhile (· == '/')).length
  let root := if slashes = 0 then "" else if slashes = 2 then "//" else "/"
  ⟨root, (split '/' s).filter fun p => p != "" && p != "."⟩

def text (p : Path) : String :=
  let s := p.root ++ join "/" p.parts
  if s == "" then "." else s

/-- A path below another one; an absolute path stays itself. -/
def append (p q : Path) : Path :=
  if q.root == "" then ⟨p.root, p.parts ++ q.parts⟩ else q

def child (p : Path) (name : String) : Path :=
  ⟨p.root, p.parts ++ [name]⟩

def parent (p : Path) : Path :=
  ⟨p.root, p.parts.dropLast⟩

/-- The last part. -/
def name (p : Path) : String :=
  p.parts.getLastD ""

end Path

end Foundry
