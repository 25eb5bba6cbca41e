import Foundry.Fault

/-!
Providers of declarations. Asking one may fail and may change what it remembers.
-/

namespace Foundry

/-- A question to something that remembers and may fail. -/
abbrev Query (σ α : Type) := ExceptT Fault (StateM σ) α

/-- A source of declarations.

`annotated` gives the marked declarations one visit after the other, so that what happens between
two visits is seen by the second; a visit may also yield nothing. -/
structure Provider (σ : Type) where
  get : String → Query σ (Option Declaration)
  resolve : Reference → Query σ (Option String)
  annotated : Query σ (List (Query σ (Option Declaration)))

namespace Provider

variable {σ τ : Type}

/-- A question to a part of a larger state. -/
def lift (get : τ → σ) (set : σ → τ → τ) (q : Query σ α) : Query τ α :=
  fun t =>
    let (r, s) := q.run (get t)
    (r, set s t)

/-- A provider as a part of a larger state. -/
def onPart (get : τ → σ) (set : σ → τ → τ) (p : Provider σ) : Provider τ where
  get n := lift get set (p.get n)
  resolve r := lift get set (p.resolve r)
  annotated := do
    let visits ← lift get set p.annotated
    return visits.map (lift get set)

end Provider

end Foundry
