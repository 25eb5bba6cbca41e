import Foundry.Ordered
import Foundry.Path
import Foundry.Source.Builtins
import Foundry.Source.Printer
import Foundry.Declaration
import Foundry.Text.Blank
import Foundry.Fault

/-!
The index of a set of source modules: the imports and classes each module knows at its top level,
and the definitions that can be described. Names are resolved through it.

A dotted name written in a module is read through the classes, the imports and the star imports
of the module. The result is then followed through the modules that only pass a name on, up to a
limit.
-/

namespace Foundry.Source

open Foundry.Text

/-- A parsed module with the names it knows. -/
structure Module where
  name : String
  path : Path
  isPackage : Bool
  body : List Stmt
  imports : Ordered String String
  stars : List String
  classes : Ordered String String

/-- The parts of a class statement. -/
structure ClassParts where
  bases : List Expr
  keywords : List Keyword
  body : List Stmt

/-- A class or a function that can be described. -/
structure Definition where
  module : String
  qualname : String
  line : Nat
  decorators : List Expr
  /-- Absent for a function. -/
  parts : Option ClassParts

def Definition.qualifiedName (d : Definition) : String :=
  d.module ++ "." ++ d.qualname

structure Index where
  modules : Ordered String Module
  definitions : Ordered String Definition
  annotationNames : List String

/-! ### Names in expressions -/

/-- The dotted name an expression writes: names, attributes, the part of a subscript that is
subscribed, and text. -/
def dottedName? : Expr → Option String
  | .name id => some id
  | .member value name => (dottedName? value).map fun head => head ++ "." ++ name
  | .subscript value _ => dottedName? value
  | .constant (.text s _) => if strip s == "" then none else some (strip s)
  | _ => none

/-- What a decorator applies: the function of a call, or the decorator itself. -/
def decoratorTarget : Expr → Expr
  | .call f _ _ => f
  | e => e

/-! ### Symbols of a module -/

mutual

/-- The statements of a module at its top level, those of conditional, guarded and managed blocks
among them. -/
def topLevel : List Stmt → List Stmt
  | [] => []
  | s :: rest => s :: (enclosed s ++ topLevel rest)

/-- The statements in the blocks of a statement. -/
def enclosed : Stmt → List Stmt
  | .ifElse _ body orelse => topLevel body ++ topLevel orelse
  | .tryBlock body handlers orelse final =>
    topLevel body ++ topLevelHandlers handlers ++ topLevel orelse ++ topLevel final
  | .withBlock body => topLevel body
  | _ => []

def topLevelHandlers : List Handler → List Stmt
  | [] => []
  | .mk body :: rest => topLevel body ++ topLevelHandlers rest

end

/-- The absolute name of the module an import takes names from. A level counts the packages to
leave, starting with the module's own; `none` when there are not enough of them. -/
def importSource (module : String) (isPackage : Bool) (source : Option String) (level : Nat) :
    Option String :=
  if level = 0 then source
  else
    let package := if isPackage then module else beforeLastSegment module
    let parts := if package == "" then [] else segments package
    let drop := level - 1
    if drop > parts.length then none
    else
      let base := dotted (parts.take (parts.length - drop))
      match source with
      | some s => some (if base == "" then s else base ++ "." ++ s)
      | none => if base == "" then none else some base

/-- What one statement adds to the names of a module. -/
def Module.addSymbols (m : Module) (s : Stmt) : Module :=
  match s with
  | .importNames aliases =>
    aliases.foldl (fun m a => match a.asName with
      | some n => { m with imports := m.imports.insert n a.name }
      | none =>
        let head := firstSegment a.name
        { m with imports := m.imports.insert head head }) m
  | .importFrom source aliases level =>
    match importSource m.name m.isPackage source level with
    | none => m
    | some base =>
      aliases.foldl (fun m a =>
        if a.name == "*" then { m with stars := m.stars ++ [base] }
        else
          let name := a.asName.getD a.name
          { m with imports := m.imports.insert name (base ++ "." ++ a.name) }) m
  | .classDef _ _ name _ _ _ _ =>
    { m with classes := m.classes.insert name (m.name ++ "." ++ name) }
  | _ => m

/-- A module with the names its top level binds. -/
def Module.make (name : String) (path : Path) (body : List Stmt) : Module :=
  (topLevel body).foldl Module.addSymbols
    { name, path, isPackage := path.name == "__init__.py", body
      imports := Ordered.empty, stars := [], classes := Ordered.empty }

/-! ### Resolution -/

/-- How often a name is passed on from module to module. -/
def maxHops : Nat := 17

namespace Index

def defines (x : Index) (name : String) : Bool :=
  x.definitions.contains name

/-- The longest proper start of a name that is a module, with the segments after it. -/
def splitModule (x : Index) (parts : List String) : Nat → Option (Module × String × List String)
  | 0 => none
  | i + 1 =>
    match x.modules.get? (dotted (parts.take (i + 1))) with
    | some m =>
      match parts.drop (i + 1) with
      | head :: tail => some (m, head, tail)
      | [] => none
    | none => splitModule x parts i

/-- The name of the definition a name leads to, as far as it leads to one. -/
def canonical (x : Index) : Nat → String → String
  | 0, name => name
  | hops + 1, name =>
    if x.defines name then name
    else
      let parts := segments name
      match x.splitModule parts (parts.length - 1) with
      | none => name
      | some (m, head, tail) =>
        match m.classes.get? head with
        | some c => dotted (c :: tail)
        | none =>
          match m.imports.get? head with
          | some target => canonical x hops (dotted (target :: tail))
          | none =>
            (m.stars.findSome? fun star =>
              let found := canonical x hops (dotted (star :: head :: tail))
              if x.defines found then some found else none).getD name

def canon (x : Index) (name : String) : String :=
  x.canonical maxHops name

/-- What the first segment of a name stands for in a module. -/
def headTarget (x : Index) (m : Module) (head : String) : Option String :=
  match m.classes.get? head with
  | some c => some c
  | none =>
    match m.imports.get? head with
    | some target => some target
    | none =>
      match m.stars.findSome? fun star =>
          let found := x.canon (star ++ "." ++ head)
          if x.defines found then some found else none with
      | some c => some c
      | none => if isBuiltin head then some ("builtins." ++ head) else none

/-- A name written in a module. -/
def resolveIn (x : Index) (m : Module) (name : String) : Option String :=
  (x.headTarget m (firstSegment name)).map fun base =>
    let rest := afterFirstSegment name
    x.canon (if rest == "" then base else base ++ "." ++ rest)

/-- A name written in a module that need not be known. -/
def resolveName (x : Index) (module name : String) : Option String :=
  match x.modules.get? module with
  | some m => x.resolveIn m name
  | none => if x.defines name then some (x.canon name) else none

/-- The name an expression stands for in a module; an unknown name stands for itself. -/
def resolveExpr (x : Index) (module : String) (e : Expr) : Option String :=
  (dottedName? e).map fun name =>
    match x.modules.get? module with
    | some m => (x.resolveIn m name).getD name
    | none => name

/-- The declaration a reference leads to. -/
def resolveReference (x : Index) (r : Reference) : Option String :=
  let found := match r.scope with
    | some m => (match x.resolveName m r.name with
      | some n => if n == "" then x.canon r.name else n
      | none => x.canon r.name)
    | none => x.canon r.name
  if x.defines found then some found else none

/-! ### Markers -/

/-- The value of a constant. -/
def constantValue : Constant → Value
  | .none => .none
  | .bool b => .bool b
  | .ellipsis => .ellipsis
  | .int n => .int n
  | .float f => .float f
  | .imaginary f => .imaginary f
  | .text s _ => .text s
  | .bytes bs => .bytes bs

/-- The argument of a call under a name or, before that, at a position. -/
def argument (name : String) (position : Nat) (args : List Expr) (keywords : List Keyword) :
    Option Expr :=
  match (keywords.filter fun k => k.name == some name).getLast? with
  | some k => some k.value
  | none => args[position]?

/-- The identifier of a marker: the value of a constant, the text of anything else. -/
def identifierValue : Option Expr → Except Fault Value
  | none => .ok .none
  | some (.constant c) => .ok (constantValue c)
  | some e =>
    match e.text with
    | .ok s => .ok (.expression s)
    | .error u => .error (.unshown u)

/-- The fields of a marker. -/
def readMarker (module : String) (marker : Expr) : Except Fault Marking :=
  match marker with
  | .call _ args keywords =>
    match identifierValue (argument "identifier" 0 args keywords) with
    | .error f => .error f
    | .ok identifier =>
      let type := match (argument "type" 1 args keywords).bind dottedName? with
        | some n => Value.reference ⟨n, some module⟩
        | none => .none
      .ok ⟨identifier, type⟩
  | _ => .ok ⟨.none, .none⟩

/-- The first decorator that is a factory marker. -/
def marker? (x : Index) (d : Definition) : Option Expr :=
  d.decorators.find? fun e =>
    match x.resolveExpr d.module (decoratorTarget e) with
    | some n => x.annotationNames.contains n
    | none => false

def marking? (x : Index) (d : Definition) : Except Fault (Option Marking) :=
  match x.marker? d with
  | some e => (readMarker d.module e).map some
  | none => .ok none

/-! ### Building -/

def add (x : Index) (d : Definition) : Index :=
  { x with definitions := x.definitions.insert d.qualifiedName d }

mutual

/-- Adds the definitions of a statement: classes with what they hold, and marked functions. -/
def addStmt (x : Index) (module start : String) : Stmt → Except Fault Index
  | .classDef line _ name bases keywords decorators body =>
    let d : Definition := ⟨module, start ++ name, line, decorators, some ⟨bases, keywords, body⟩⟩
    addStmts (x.add d) module (start ++ name ++ ".") body
  | .functionDef line _ name _ decorators _ =>
    let d : Definition := ⟨module, start ++ name, line, decorators, none⟩
    match x.marking? d with
    | .error f => .error f
    | .ok none => .ok x
    | .ok (some _) => .ok (x.add d)
  | _ => .ok x

def addStmts (x : Index) (module start : String) : List Stmt → Except Fault Index
  | [] => .ok x
  | s :: rest =>
    match addStmt x module start s with
    | .error f => .error f
    | .ok x => addStmts x module start rest

end

/-- The index of modules, whose names are all known before the first definition is looked at. -/
def make (modules : List Module) (annotationNames : List String) : Except Fault Index :=
  let known := Ordered.ofList (modules.map fun m => (m.name, m))
  known.values.foldl (fun acc m => match acc with
    | .error f => .error f
    | .ok x => x.addStmts m.name "" m.body)
    (.ok ⟨known, Ordered.empty, annotationNames⟩)

end Index

end Foundry.Source
