import Foundry.Live.Discovery

/-!
Declarations of live classes and functions, and the provider that finds them in imported modules.
-/

namespace Foundry.Live

open Foundry.Source Foundry.Text

/-! ### Lines of classes -/

mutual

/-- The line on which the class with a qualified name starts, the first one in the order of the
text; `start` is the qualified name of what surrounds the statements. -/
def lineOfClass (wanted start : String) : Stmt → Option Nat
  | .classDef _ line name _ _ _ body =>
    if start ++ name == wanted then some line else linesOfClass wanted (start ++ name ++ ".") body
  | .functionDef _ _ name _ _ body =>
    linesOfClass wanted (start ++ name ++ ".<locals>.") body
  | .ifElse _ body orelse =>
    (linesOfClass wanted start body).or (linesOfClass wanted start orelse)
  | .tryBlock body handlers orelse final =>
    (linesOfClass wanted start body).or ((handlersOfClass wanted start handlers).or
      ((linesOfClass wanted start orelse).or (linesOfClass wanted start final)))
  | .withBlock body => linesOfClass wanted start body
  | _ => none

def linesOfClass (wanted start : String) : List Stmt → Option Nat
  | [] => none
  | s :: rest => (lineOfClass wanted start s).or (linesOfClass wanted start rest)

def handlersOfClass (wanted start : String) : List Handler → Option Nat
  | [] => none
  | .mk body :: rest => (linesOfClass wanted start body).or (handlersOfClass wanted start rest)

end

namespace Machine

/-- Where a class was written. -/
def classLocation (m : Machine) (c : Class) : Option Location :=
  (m.modules.get? c.module).bind fun i =>
    i.file.bind fun p =>
      (linesOfClass c.qualname "" i.body).map fun l => ⟨some p, some l⟩

/-! ### Descriptions -/

/-- What a marker recorded on an object itself. -/
def marking? (m : Machine) (slot : String) (o : Object) : Option Marking :=
  let own := match o with
    | .class p => (m.heap.class? p).bind fun c => c.attributes.get? slot
    | .function p => (m.heap.function? p).bind fun f => f.attributes.get? slot
    | _ => none
  match own with
  | some (.mark k) => some k
  | _ => none

/-- Local names are told apart by the function they are local to. -/
def describedName (module qualname : String) : Except Fault QualifiedName :=
  match QualifiedName.ofAttributes? (.text module) (.text qualname) with
  | some n => .ok n
  | none =>
    (QualifiedName.ofTexts? module (replace qualname "<locals>" "locals")).mapError .name

def isPublicName (qualname : String) : Bool :=
  !contains qualname "<locals>" && Name.isPublic qualname

/-- Bases that say nothing about ancestry. -/
def isIgnoredBase (base : Nat) (c : Class) : Bool :=
  base == Place.object || base == Place.generic || protocols.contains base ||
    Heap.qualifiedName c == "abc.ABC"

/-- The bases of a class that count. -/
def countedBases (h : Heap) (c : Class) : List Class :=
  c.bases.filterMap fun b => (h.class? b).bind fun k =>
    if isIgnoredBase b k then none else some k

def kindOf (h : Heap) (place : Nat) (c : Class) : Kind :=
  if c.isProtocol then .interface
  else if h.derives place Place.enum then .enum
  else .ordinary

def describeClass (m : Machine) (slot : String) (place : Nat) (c : Class) :
    Except Fault Declaration :=
  match describedName c.module c.qualname with
  | .error f => .error f
  | .ok name =>
    let bases := countedBases m.heap c
    let kind := kindOf m.heap place c
    let interfaces := (bases.filter Class.isProtocol).map Heap.qualifiedName
    let parents := if kind = .interface then []
      else (bases.filter fun b => !b.isProtocol).map Heap.qualifiedName
    .ok {
      name, kind, interfaces
      isPublic := isPublicName c.qualname
      isAbstract := !c.abstracts.isEmpty
      superclass := parents.head?
      bases := parents
      constructors := [⟨m.heap.requiredArguments c, true⟩]
      marking := m.marking? slot (.class place)
      location := m.classLocation c }

def describeFunction (m : Machine) (slot : String) (place : Nat) (f : Function) :
    Except Fault Declaration :=
  match describedName f.module f.qualname with
  | .error e => .error e
  | .ok name =>
    .ok {
      name
      kind := .function
      isPublic := isPublicName f.qualname
      isAbstract := false
      interfaces := []
      superclass := none
      bases := []
      constructors := []
      marking := m.marking? slot (.function place)
      location := f.location }

/-- The declaration of a class or a function. -/
def describe (m : Machine) (slot : String) (o : Object) :
    Except Fault (Option Declaration) :=
  match o with
  | .class p => match m.heap.class? p with
    | some c => (m.describeClass slot p c).map some
    | none => .ok none
  | .function p => match m.heap.function? p with
    | some f => (m.describeFunction slot p f).map some
    | none => .ok none
  | _ => .ok none

/-! ### Walking modules -/

/-- The module and the qualified name of a class or a function. -/
def nameOf? (h : Heap) (o : Object) : Option (String × String) :=
  match o with
  | .class p => (h.class? p).map fun c => (c.module, c.qualname)
  | .function p => (h.function? p).map fun f => (f.module, f.qualname)
  | _ => none

/-- The classes among the attributes of an object whose names lie below its own. -/
def nestedIn (h : Heap) (o : Object) (qualname : String) : List Object :=
  match o with
  | .class p => (((h.class? p).map fun c => c.attributes.values).getD []).filter fun v =>
    Heap.isClass v && (match nameOf? h v with
      | some (_, q) => startsWith q (qualname ++ ".")
      | none => false)
  | _ => []

/-- The classes and functions among objects that belong to a module, each followed by the classes
nested in it; `depth` bounds the nesting. -/
def walk (h : Heap) (module : String) : Nat → List Object → List Object
  | 0, _ => []
  | depth + 1, os => os.flatMap fun o =>
    match nameOf? h o with
    | some (m, q) => if m = module then o :: walk h module depth (nestedIn h o q) else []
    | none => []

/-- Names get longer with every level, so no class lies deeper than there are classes. -/
def walkModule (m : Machine) (module : String) : List Object :=
  match m.modules.get? module with
  | some i =>
    walk m.heap module (m.heap.classes.size + 1) (m.heap.namesAt i.names).values
  | none => []

/-- Objects are the same when they lie at the same place. -/
def isSame : Object → Object → Bool
  | .class p, .class q => p == q
  | .function p, .function q => p == q
  | _, _ => false

/-- The marked objects of modules, each once. -/
def markedObjects (m : Machine) (slot : String) (modules : List String) : List Object :=
  (modules.flatMap m.walkModule).foldl (fun acc o =>
    if (m.marking? slot o).isNone || acc.any (isSame o) then acc else acc ++ [o]) []

end Machine

/-! ### Lookup -/

/-- An object of a chain of attributes; an attribute that holds nothing ends it. -/
def follow (o : Object) : List String → Run (Option Object)
  | [] => return some o
  | name :: rest => do
    match (← get).member? o name with
    | none => return none
    | some (.value .none) => return none
    | some o => follow o rest

/-- A module that is missing itself, or lies in a package that is. -/
def isAbsent (name : String) : Fault → Bool
  | .moduleNotFound missing _ =>
    missing != "" && (name == missing || startsWith name (missing ++ "."))
  | _ => false

/-- Tries longer module names first. -/
def lookUpFrom (parts : List String) : Nat → Run (Option Object)
  | 0 => return none
  | i + 1 => do
    let module := dotted (parts.take (i + 1))
    let isThere ← tryCatch (do importAbsolute module; return true) fun f =>
      if isAbsent module f then return false else throw f
    if isThere then
      match ← follow (.module module) (parts.drop (i + 1)) with
      | some o => return some o
      | none => lookUpFrom parts i
    else lookUpFrom parts i

/-- The object with a qualified name. -/
def lookUpName (name : String) : Run (Option Object) :=
  let parts := segments name
  lookUpFrom parts (parts.length - 1)

/-- What follows a chain of attributes without regard to what they hold. -/
def chase (m : Machine) : Option Object → List String → Option Object
  | o, [] => o
  | none, _ :: _ => none
  | some o, n :: rest => chase m (m.member? o n) rest

/-- The class a reference leads to. -/
def resolveReference (r : Reference) : Run (Option String) := do
  let found ← match r.scope with
    | none => lookUpName r.name
    | some module => do
      importAbsolute module
      let m ← get
      let head := firstSegment r.name
      let o := (m.moduleName? module head).or (m.builtin? head)
      let o := chase m o (segments r.name).tail
      let isClass := (o.map Heap.isClass).getD false
      if !isClass && contains r.name "." then lookUpName r.name else pure o
  let h := (← get).heap
  match found with
  | some (.class p) => return (h.class? p).map Heap.qualifiedName
  | _ => return none

/-! ### Provider -/

/-- What the provider remembers: the machine, and declarations by the names they were asked for. -/
structure Memory where
  machine : Machine
  described : Ordered String Declaration

/-- A step of the machine of a provider. -/
def onMachine (r : Run α) : Query Memory α :=
  Provider.lift Memory.machine (fun m s => { s with machine := m }) r

def getDeclaration (slot name : String) : Query Memory (Option Declaration) := do
  match (← get).described.get? name with
  | some d => return some d
  | none =>
    match ← onMachine (lookUpName name) with
    | none => return none
    | some o =>
      let s ← get
      match s.machine.describe slot o with
      | .error f => throw f
      | .ok none => return none
      | .ok (some d) =>
        set { s with described := s.described.insert name d }
        return some d

/-- A visit to each marked object. -/
def visits (slot : String) (modules : List String) :
    Query Memory (List (Query Memory (Option Declaration))) := do
  let m := (← get).machine
  return (m.markedObjects slot modules).map fun o => do
    match (← get).machine.describe slot o with
    | .ok d => return d
    | .error f => throw f

/-- The provider over the live classes of modules. -/
def provider (slot : String) (modules : List String) : Provider Memory where
  get := getDeclaration slot
  resolve r := onMachine (resolveReference r)
  annotated := visits slot modules

end Foundry.Live
