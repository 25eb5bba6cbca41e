import Foundry.Ordered
import Foundry.Provider

/-!
A provider of declarations that were added by hand, in the order in which they were added.
-/

namespace Foundry

/-- Declarations by their qualified names. -/
abbrev Store := Ordered String Declaration

namespace Store

/-- A later declaration of the same name takes the place of the earlier one. -/
def add (s : Store) (d : Declaration) : Store :=
  s.insert d.qualifiedName d

def ofDeclarations (ds : List Declaration) : Store :=
  ds.foldl add Ordered.empty

/-- A name is looked for in the module it was written in first, then as it stands. -/
def resolve (s : Store) (r : Reference) : Option String :=
  let nearby := match r.scope with
    | some m => if m == "" then none else some (m ++ "." ++ r.name)
    | none => none
  match nearby.filter s.contains with
  | some n => some n
  | none => if s.contains r.name then some r.name else none

def annotated (s : Store) : List Declaration :=
  s.values.filter fun d => d.marking.isSome

/-- The provider that reads a store. -/
def provider : Provider Store where
  get n := do return (← get).get? n
  resolve r := do return (← get).resolve r
  annotated := do return (← get).annotated.map fun d => pure (some d)

end Store

end Foundry
