import Foundry.Fault
import Foundry.Ordered

/-!
The registry of a pass: accepted records grouped by their group types. Records are taken while it
collects; emission ends that, and only clearing it starts over.
-/

namespace Foundry

/-- The records of one group type by their identifiers, in order of arrival. -/
structure Group where
  name : String
  members : Ordered String Record
deriving Repr

namespace Group

def simple (g : Group) : String :=
  Name.simple g.name

def records (g : Group) : List Record :=
  g.members.values

def size (g : Group) : Nat :=
  g.members.size

/-- A second record with the same identifier is a duplicate. -/
def add (g : Group) (r : Record) : Except Rejection Group :=
  match g.members.get? r.identifier with
  | some existing => .error (.duplicate r existing)
  | none => .ok { g with members := g.members.insert r.identifier r }

end Group

structure Registry where
  groups : List Group
  phase : Phase
deriving Repr

namespace Registry

def empty : Registry := ⟨[], .collecting⟩

def get? (g : Registry) (name : String) : Option Group :=
  g.groups.find? fun x => x.name = name

/-- Number of records in all groups. -/
def count (g : Registry) : Nat :=
  g.groups.foldr (fun x n => x.size + n) 0

/-- A record joins its group, or starts it. -/
def addTo (r : Record) : List Group → Except Rejection (List Group)
  | [] => .ok [⟨r.group, Ordered.ofList [(r.identifier, r)]⟩]
  | g :: gs =>
    if g.name = r.group then (g.add r).map (· :: gs)
    else (addTo r gs).map (g :: ·)

def add (g : Registry) (r : Record) : Except Fault Registry :=
  if g.phase = .collecting then
    match addTo r g.groups with
    | .ok groups => .ok { g with groups := groups }
    | .error e => .error (.rejected e)
  else .error (.notCollecting g.phase)

/-- Emission starts from collecting only. -/
def beginEmission (g : Registry) : Except Fault Registry :=
  if g.phase = .collecting then .ok { g with phase := .emitting } else .error (.cannotEmit g.phase)

def endEmission (g : Registry) : Registry :=
  if g.phase = .emitting then { g with phase := .idle } else g

def clear (_ : Registry) : Registry := empty

end Registry

end Foundry
