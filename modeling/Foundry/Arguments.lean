import Foundry.Fault

/-!
Binding of arguments to parameters, with the faults of calls that do not fit.
-/

namespace Foundry

open Foundry.Text

/-- A parameter and whether it may be left out. -/
structure Parameter where
  name : String
  isOptional : Bool
deriving DecidableEq, Repr

/-- The parameters of a function: those given by position or by name, whether any number of
further positions is taken, those given by name only, and whether other names are taken. -/
structure Signature where
  function : String
  positional : List Parameter
  takesMore : Bool
  named : List Parameter
  takesOthers : Bool
deriving DecidableEq, Repr

/-- Arguments bound to parameters, with what is left over. -/
structure Binding (α : Type) where
  bound : List (String × α)
  more : List α
  others : List (String × α)
deriving Repr

namespace Signature

def fault (message : String) : Fault :=
  .raised "TypeError" message

/-- The number of parameters that have to be given by position or name. -/
def required (s : Signature) : Nat :=
  (s.positional.filter fun p => !p.isOptional).length

/-- Names in quotes in a row, the last two joined by a word. -/
def listing : List String → String
  | [] => ""
  | [a] => quoted a
  | [a, b] => quoted a ++ " and " ++ quoted b
  | names => join ", " (names.dropLast.map quoted) ++ ", and " ++ quoted (names.getLastD "")

def plural (n : Nat) : String :=
  if n = 1 then "" else "s"

/-- Too many arguments by position. -/
def tooMany (s : Signature) (given : Nat) : Fault :=
  let count := s.positional.length
  let takes := if s.required = count then toString count else s!"from {s.required} to {count}"
  let were := if given = 1 then "was" else "were"
  fault s!"{s.function}() takes {takes} positional argument{plural count} but {given} {were} given"

def missing (s : Signature) (sort : String) (names : List String) : Fault :=
  let count := names.length
  fault (s!"{s.function}() missing {count} required {sort} argument{plural count}: " ++
    listing names)

/-- Arguments given by name, one after the other. -/
def bindNamed (s : Signature) : List (String × α) → Binding α → Except Fault (Binding α)
  | [], b => .ok b
  | (name, a) :: rest, b =>
    if (s.positional ++ s.named).any fun p => p.name = name then
      if b.bound.any fun e => e.1 = name then
        .error (fault s!"{s.function}() got multiple values for argument {quoted name}")
      else bindNamed s rest { b with bound := b.bound ++ [(name, a)] }
    else if s.takesOthers then bindNamed s rest { b with others := b.others ++ [(name, a)] }
    else .error (fault s!"{s.function}() got an unexpected keyword argument {quoted name}")

/-- The names among parameters that are bound to nothing and have to be given. -/
def lacking (b : Binding α) (ps : List Parameter) : List String :=
  (ps.filter fun p => !p.isOptional && !(b.bound.any fun e => e.1 = p.name)).map (·.name)

/-- Binds the arguments of a call: positions, then names, then what may be missing or left. -/
def bind (s : Signature) (args : List α) (named : List (String × α)) :
    Except Fault (Binding α) := do
  let count := s.positional.length
  let start : Binding α := ⟨(s.positional.map (·.name)).zip args, args.drop count, []⟩
  let b ← s.bindNamed named start
  if !b.more.isEmpty && !s.takesMore then .error (s.tooMany args.length)
  else
    match lacking b s.positional, lacking b s.named with
    | [], [] => .ok b
    | [], names => .error (s.missing "keyword-only" names)
    | names, _ => .error (s.missing "positional" names)

end Signature

end Foundry
