import Foundry.Name.Snake
import Foundry.Provider
import Foundry.Registry

/-!
Plans of factories: the names, the imports and the branches of a generated module, before any
text is written.
-/

namespace Foundry.Factory

open Foundry.Text

/-- The import of a top-level name, under another name where its own is taken. -/
structure Import where
  module : String
  name : String
  alias? : Option String
deriving DecidableEq, Repr

/-- The name an import binds. -/
def Import.bound (i : Import) : String :=
  match i.alias? with
  | some a => if a == "" then i.name else a
  | none => i.name

/-- One way out of the factory: the class constructed for an identifier. -/
structure Branch where
  identifier : String
  target : QualifiedName
  bound : String
deriving DecidableEq, Repr

def Branch.expression (b : Branch) : String :=
  b.bound ++ "()"

structure Plan where
  group : QualifiedName
  groupBound : String
  factoryName : String
  moduleName : String
  imports : List Import
  branches : List Branch
deriving DecidableEq, Repr

namespace Plan

def identifiers (p : Plan) : List String :=
  p.branches.map (·.identifier)

/-- The branch the factory takes for a value. -/
def select (p : Plan) (v : Value) : Option Branch :=
  p.branches.find? fun b => v.same (.text b.identifier)

end Plan

/-! ### Names of imports -/

/-- Names that are taken, and the imports made so far. -/
structure ImportTable where
  taken : List String
  imports : List Import
deriving DecidableEq, Repr

/-- The first of the name with the numbers from `n` on that is not taken. -/
def freeNumbered (taken : List String) (name : String) : Nat → Nat → String
  | 0, n => s!"{name}_{n}"
  | fuel + 1, n =>
    let candidate := s!"{name}_{n}"
    if taken.contains candidate then freeNumbered taken name fuel (n + 1) else candidate

/-- A name that is not taken: the name itself, or with a number from two on. -/
def freeName (taken : List String) (name : String) : String :=
  if taken.contains name then freeNumbered taken name (taken.length + 1) 2 else name

namespace ImportTable

def reserve (names : List String) : ImportTable := ⟨names, []⟩

def find? (t : ImportTable) (target : QualifiedName) : Option Import :=
  t.imports.find? fun i => i.module = target.module && i.name = target.topLevel

/-- The expression that names a target through an import. -/
def expression (i : Import) (target : QualifiedName) : String :=
  if target.rest == "" then i.bound else i.bound ++ "." ++ target.rest

/-- Imports the top-level name of a target, unless it is imported already. -/
def bind (t : ImportTable) (target : QualifiedName) : String × ImportTable :=
  match t.find? target with
  | some i => (expression i target, t)
  | none =>
    let name := freeName t.taken target.topLevel
    let i : Import :=
      ⟨target.module, target.topLevel, if name = target.topLevel then none else some name⟩
    (expression i target, ⟨name :: t.taken, t.imports ++ [i]⟩)

/-- Imports in the order of their modules and names. -/
def sorted (t : ImportTable) : List Import :=
  t.imports.mergeSort fun a b =>
    a.module < b.module || (a.module == b.module && (a.name < b.name || a.name == b.name))

end ImportTable

/-! ### Plans -/

/-- The name of the error a factory raises. -/
def errorName : String := "UnknownIdentifierError"

/-- How generated names are formed. -/
structure Naming where
  factorySuffix : String
  moduleSuffix : String
  package : Option String
  runtimeModule : String
deriving DecidableEq, Repr

namespace Naming

def standard : Naming := ⟨"Factory", "_factory", none, "factorygen.runtime"⟩

def factoryName (n : Naming) (group : QualifiedName) : String :=
  group.simple ++ n.factorySuffix

/-- A module beside the group's own, or in the chosen package. -/
def moduleName (n : Naming) (group : QualifiedName) : String :=
  let leaf := Name.snake group.simple ++ n.moduleSuffix
  let package := n.package.getD group.package
  if package == "" then leaf else package ++ "." ++ leaf

end Naming

/-- Branches for records, one after the other through one table. -/
def bindAll : List Record → ImportTable → List Branch × ImportTable
  | [], t => ([], t)
  | r :: rs, t =>
    let (bound, t) := t.bind r.declaration.name
    let (branches, t) := bindAll rs t
    (⟨r.identifier, r.declaration.name, bound⟩ :: branches, t)

/-- The plan for a group whose type is declared under a name. -/
def Plan.make (n : Naming) (group : QualifiedName) (records : List Record) : Plan :=
  let factoryName := n.factoryName group
  let (groupBound, table) := (ImportTable.reserve [factoryName, errorName]).bind group
  let (branches, table) := bindAll records table
  { group, groupBound, factoryName, moduleName := n.moduleName group
    imports := table.sorted, branches }

/-- The plan for a group of a registry. -/
def planGroup (p : Provider σ) (n : Naming) (g : Group) : Query σ Plan :=
  if g.members.isEmpty then throw (.emptyGroup g.name)
  else do
    match ← p.get g.name with
    | none => throw (.rejected (.planUnresolved g.name))
    | some d => return Plan.make n d.name g.records

end Foundry.Factory
