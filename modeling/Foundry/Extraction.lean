import Foundry.Provider

/-!
Extraction of records: the identifier and the group of an annotated declaration.
-/

namespace Foundry

open Foundry.Text

variable {σ : Type}

/-- The name a type value stands for, if it stands for any. -/
def typeName? (p : Provider σ) (scope : Option String) (type : Value) : Query σ (Option String) :=
  match type with
  | .liveClass m q => return some (m ++ "." ++ q)
  | .reference r => p.resolve r
  | .text s => if strip s == "" then return none else p.resolve ⟨strip s, scope⟩
  | _ => return none

/-- The declaration a type value stands for. -/
def typeDeclaration? (p : Provider σ) (scope : Option String) (type : Value) :
    Query σ (Option Declaration) := do
  match ← typeName? p scope type with
  | some n => if n == "" then return none else p.get n
  | none => return none

/-- The rejection of a type that names no declaration, unless the type has no text. -/
def unresolved (owner : Option Declaration) (type : Value) (cause : Option String) : Fault :=
  match describeType type with
  | .ok shown => .rejected (.typeUnresolved owner shown cause)
  | .error u => .unshown u

/-- Every fault but a rejection becomes the cause of an unresolved type. -/
def resolveGroup (p : Provider σ) (owner : Option Declaration) (type : Value) :
    Query σ String := do
  let found ← tryCatch (typeDeclaration? p (owner.map (·.name.module)) type) fun f =>
    match f with
    | .rejected r => throw (.rejected r)
    | other => throw (unresolved owner type (some other.cause))
  match found with
  | some d => return d.qualifiedName
  | none => throw (unresolved owner type none)

/-- The rejection of an identifier that is no text, unless it has no text as a value either. -/
def notText (owner : Declaration) (value : Value) : Fault :=
  match value.repr with
  | .ok shown => .rejected (.identifierNotText owner shown)
  | .error u => .unshown u

/-- The identifier of a marker: text that is not blank. -/
def identifierOf (owner : Declaration) (value : Value) : Except Fault String :=
  match value with
  | .expression source => .error (.rejected (.identifierUnevaluated owner source))
  | .none => .error (.rejected (.identifierBlank owner))
  | .text s => if strip s == "" then .error (.rejected (.identifierBlank owner)) else .ok s
  | other => .error (notText owner other)

/-- The record of an annotated declaration. -/
def Record.extract (p : Provider σ) (d : Declaration) : Query σ Record :=
  match d.marking with
  | none => throw (.unmarked d.qualifiedName)
  | some a =>
    match identifierOf d a.identifier with
    | .error f => throw f
    | .ok identifier => do
      let group ← resolveGroup p (some d) a.type
      return ⟨identifier, group, d⟩

end Foundry
