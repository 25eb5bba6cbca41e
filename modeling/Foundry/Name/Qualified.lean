import Foundry.Name.Dotted
import Foundry.Value

/-!
Qualified names: the module a class is defined in and its name within the module. A dotted text
alone cannot tell a nested class from a class of a submodule, so the two parts are kept apart.
-/

namespace Foundry

open Foundry.Text

/-- Why a value is no part of a qualified name. -/
inductive NameProblem
  | notText (field : String) (value : Value)
  | empty (field : String)
  | notDotted (field text : String)
deriving Repr

def NameProblem.message : NameProblem → String
  | .notText field value => s!"{field} must be a string (got <class '{value.typeName}'>)"
  | .empty field => s!"{field} cannot be empty"
  | .notDotted field text => s!"{field} is not a dotted identifier: {quoted text}"

structure QualifiedName where
  module : String
  qualname : String
deriving DecidableEq, Repr, Inhabited

namespace QualifiedName

/-- A value can be a part when it is text and, without the blanks around it, a dotted name. The
part is kept as it was given. -/
def part? (field : String) (value : Value) : Except NameProblem String :=
  match value with
  | .text s =>
    if strip s == "" then .error (.empty field)
    else if Name.isDotted (strip s) then .ok s
    else .error (.notDotted field s)
  | other => .error (.notText field other)

/-- The qualified name of two values; the module is looked at first. -/
def ofValues? (module qualname : Value) : Except NameProblem QualifiedName :=
  match part? "module" module with
  | .error e => .error e
  | .ok m =>
    match part? "qualname" qualname with
    | .error e => .error e
    | .ok q => .ok ⟨m, q⟩

def ofTexts? (module qualname : String) : Except NameProblem QualifiedName :=
  ofValues? (.text module) (.text qualname)

/-- The canonical text. -/
def text (n : QualifiedName) : String :=
  n.module ++ "." ++ n.qualname

def simple (n : QualifiedName) : String :=
  Name.simple n.qualname

/-- The name that an import of the module brings in. -/
def topLevel (n : QualifiedName) : String :=
  firstSegment n.qualname

/-- What is reached from the imported name on. -/
def rest (n : QualifiedName) : String :=
  afterFirstSegment n.qualname

/-- The package the module lies in, empty for a module at the top. -/
def package (n : QualifiedName) : String :=
  beforeLastSegment n.module

/-- The name of an object from its attributes: `none` for local classes and for attributes that
are no names. -/
def ofAttributes? (module qualname : Value) : Option QualifiedName :=
  match module, qualname with
  | .text m, .text q =>
    if contains q "<locals>" then none
    else match ofTexts? m q with
      | .ok n => some n
      | .error _ => none
  | _, _ => none

end QualifiedName

end Foundry
