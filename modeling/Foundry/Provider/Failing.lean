import Foundry.Provider.Simple

/-!
A provider that fails in chosen places, for the study of passes that meet failures.
-/

namespace Foundry

/-- Which questions fail: the first `rounds` times the declarations are gone through, after the
last of them; references of certain names; declarations of certain names, which are lost or
refused. -/
structure Failures where
  rounds : Nat
  references : List String
  lost : List String
  refused : List String
deriving Repr

namespace Failures

def none : Failures := ⟨0, [], [], []⟩

/-- A store and how often its declarations were gone through. -/
structure State where
  store : Store
  rounds : Nat

def get (f : Failures) (n : String) : Query State (Option Declaration) := do
  if f.lost.contains n then throw (.raised "RuntimeError" s!"lost {n}")
  else if f.refused.contains n then throw (.rejected (.reported s!"refused {n}"))
  else return (← MonadState.get).store.get? n

def resolve (f : Failures) (r : Reference) : Query State (Option String) := do
  if f.references.contains r.name then throw (.raised "RuntimeError" s!"cannot import {r.name}")
  else return (← MonadState.get).store.resolve r

def annotated (f : Failures) : Query State (List (Query State (Option Declaration))) := do
  let s ← MonadState.get
  set { s with rounds := s.rounds + 1 }
  let visits := s.store.annotated.map fun d => pure (some d)
  if s.rounds < f.rounds then
    return visits ++ [throw (.raised "OSError" "source tree went away")]
  else return visits

def provider (f : Failures) : Provider State :=
  ⟨f.get, f.resolve, f.annotated⟩

end Failures

end Foundry
