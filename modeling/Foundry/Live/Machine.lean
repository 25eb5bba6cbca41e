import Foundry.Discovery.Finder
import Foundry.Live.Construction
import Foundry.Live.DataClass
import Foundry.Provider
import Foundry.Source.Index
import Foundry.Source.Reading
import Foundry.Text.Encoding

/-!
The state of running code: files, the directories that modules are looked for in, the modules that
were imported, the heap, and the spans of what was done on the way.
-/

namespace Foundry.Live

open Foundry.Source Foundry.Text

/-- An imported module: the place of its names, the directories of its parts if it is a package,
its file and its text. -/
structure Imported where
  names : Nat
  parts : Option (List Path)
  file : Option Path
  body : List Stmt
  /-- Part of the library, which has more names than are listed. -/
  isKnown : Bool
  /-- Its code still runs. -/
  isLoading : Bool

structure Machine where
  files : FileTree
  /-- The directories that modules are looked for in, as they were written. -/
  searched : List String
  modules : Ordered String Imported
  heap : Heap
  spans : SpanLog

/-- Running code, which may fail and leaves its traces either way. -/
abbrev Run (α : Type) := Query Machine α

namespace Machine

/-- Adds a module of the library. -/
def addKnownModule (m : Machine) (entry : String × List (String × Object)) : Machine :=
  let (names, heap) := m.heap.addNames (namesOfKnown entry.1 entry.2)
  let parts := if knownPackages.contains entry.1 then some [] else none
  { m with
    heap := heap
    modules := m.modules.insert entry.1 ⟨names, parts, none, [], true, false⟩ }

/-- A machine that has imported the library only. -/
def start (files : FileTree) (searched : List String) : Machine :=
  knownNames.foldl addKnownModule ⟨files, searched, Ordered.empty, libraryHeap, []⟩

def roots (m : Machine) : List Path :=
  m.searched.map Path.ofText

/-- A name of a module, or what the library has under it. -/
def moduleName? (m : Machine) (module name : String) : Option Object :=
  match m.modules.get? module with
  | none => none
  | some i =>
    match (m.heap.namesAt i.names).get? name with
    | some o => some o
    | none => if i.isKnown then unlisted module name else none

def builtin? (m : Machine) (name : String) : Option Object :=
  m.moduleName? "builtins" name

/-- Attributes that every class has besides those written in it. -/
def standardAttribute? (h : Heap) (place : Nat) (name : String) : Option Object :=
  match h.class? place with
  | none => none
  | some c =>
    match name with
    | "__name__" => some (.value (.text (Name.simple c.qualname)))
    | "__qualname__" => some (.value (.text c.qualname))
    | "__module__" => some (.value (.text c.module))
    | "__class__" => some (.class c.metaclass)
    | "__base__" => (c.bases.head?).map Object.class
    | "__bases__" => some (.tuple (c.bases.map Object.class))
    | "__mro__" => some (.tuple (c.order.map Object.class))
    | "__doc__" => some (.value .none)
    | "__dict__" => some (.thing "mappingproxy")
    | _ => none

/-- Attributes of functions besides those set on them. -/
def functionAttribute? (f : Function) (name : String) : Option Object :=
  match f.attributes.get? name with
  | some o => some o
  | none =>
    match name with
    | "__name__" => some (.value (.text (Name.simple f.qualname)))
    | "__qualname__" => some (.value (.text f.qualname))
    | "__module__" => some (.value (.text f.module))
    | "__doc__" => some (.value .none)
    | _ => none

/-- An attribute of an object. -/
def member? (m : Machine) (o : Object) (name : String) : Option Object :=
  match o with
  | .module n => m.moduleName? n name
  | .class p =>
    match m.heap.member? p name with
    | some o => some o
    | none =>
      match standardAttribute? m.heap p name with
      | some o => some o
      | none => (m.heap.class? p).bind fun c => m.heap.member? c.metaclass name
  | .function p => (m.heap.function? p).bind fun f => functionAttribute? f name
  | .subscripted o => match o with
    | .class p => m.heap.member? p name
    | _ => some (.thing "object")
  | .tool _ => some (.thing "object")
  | .thing _ => some (.thing "object")
  | _ => none

/-- What is said about a missing attribute. -/
def missingAttribute (m : Machine) (o : Object) (name : String) : Fault :=
  .raised "AttributeError" (match o with
    | .module n =>
      if ((m.modules.get? n).map Imported.isLoading).getD false then
        s!"partially initialized module {quoted n} has no attribute {quoted name}" ++
          " (most likely due to a circular import)"
      else s!"module {quoted n} has no attribute {quoted name}"
    | .class p => s!"type object {quoted (m.heap.className p)} has no attribute {quoted name}"
    | o => s!"{quoted (m.heap.typeName o)} object has no attribute {quoted name}")

/-- Sets an attribute. -/
def setAttribute (m : Machine) (o : Object) (name : String) (v : Object) :
    Except Fault Machine :=
  match o with
  | .module n => match m.modules.get? n with
    | some i => .ok { m with heap := m.heap.bind i.names name v }
    | none => .ok m
  | .class p =>
    if ((m.heap.class? p).map Class.isFixed).getD true then
      .error (typeFault (s!"cannot set {quoted name} attribute of immutable type " ++
        quoted (m.heap.className p)))
    else .ok { m with heap := m.heap.updateClass p fun c =>
      { c with attributes := c.attributes.insert name v } }
  | .function p => .ok { m with heap := m.heap.updateFunction p fun f =>
      { f with attributes := f.attributes.insert name v } }
  | .value _ => .error (m.missingAttribute o name)
  | .tuple _ => .error (m.missingAttribute o name)
  | _ => .ok m

/-! ### Names -/

/-- What a name stands for. -/
def lookUp (m : Machine) (s : Surroundings) (name : String) : Option Object :=
  (s.locals :: s.enclosing ++ [s.globals]).findSome? (fun p => (m.heap.namesAt p).get? name)
    |>.or (m.builtin? name)

/-- Whether a module is there. -/
def has (m : Machine) (module : String) : Bool :=
  m.modules.contains module

end Machine

/-! ### Steps -/

/-- A step on the heap. -/
def onHeap (f : Heap → Heap) : Run Unit :=
  modify fun m => { m with heap := f m.heap }

def bindLocal (s : Surroundings) (name : String) (o : Object) : Run Unit :=
  onHeap fun h => h.bind s.locals name o

/-- A step that may fail. -/
def attempt (e : Except Fault α) : Run α :=
  match e with
  | .ok a => return a
  | .error f => throw f

def newNames (n : Names) : Run Nat := do
  let m ← get
  let (place, heap) := m.heap.addNames n
  set { m with heap := heap }
  return place

def newFunction (f : Function) : Run Object := do
  let m ← get
  let (place, heap) := m.heap.addFunction f
  set { m with heap := heap }
  return .function place

def typeError (message : String) : Run α :=
  throw (typeFault message)

/-! ### Markers and data classes -/

/-- Puts a marker on an object, inside a span. -/
def applyMarker (k : Marker) (o : Object) : Run Object := do
  let m ← get
  let (module, qualname) := match o with
    | .class p => ((m.heap.class? p).map fun c => (c.module, c.qualname)).getD ("", "")
    | .function p => ((m.heap.function? p).map fun f => (f.module, f.qualname)).getD ("", "")
    | _ => ("?", "object")
  let scope := if Heap.isClass o || Heap.isFunction o then some module else none
  let m ← attempt (m.setAttribute o Marker.standardAttribute (.mark (k.marking scope)))
  set { m with spans := m.spans ++ [k.span module qualname] }
  return o

def applyDataClass (options : DataOptions) (o : Object) : Run Object := do
  match o with
  | .class p =>
    let m ← get
    let heap ← attempt (m.heap.makeDataClass p options)
    set { m with heap := heap }
    return o
  | o => return o

/-- An option that is given as a truth value. -/
def option (named : List (String × Object)) (name : String) (default : Bool) : Bool :=
  match named.lookup name with
  | some (.value (.bool b)) => b
  | _ => default

/-- The field that the arguments of a call describe. -/
def fieldOfArguments (named : List (String × Object)) : Field where
  hasDefault := (named.lookup "default").isSome || (named.lookup "default_factory").isSome
  fromFactory := (named.lookup "default_factory").isSome
  isInitial := option named "init" true
  isNamedOnly := option named "kw_only" false
  isStored := true
  isArgument := true

/-- What stands for the text of an exception that has none. -/
def silentMessage : String := "<exception str() failed>"

/-- The message of an exception with arguments. -/
def faultMessage (h : Heap) (kind : String) (args : List Object) : String :=
  match args.map h.toValue with
  | [] => ""
  | [.text s] => if kind == "KeyError" then quoted s else s
  | [v] => v.repr.toOption.getD silentMessage
  | vs => (Value.tuple vs).repr.toOption.getD silentMessage

end Foundry.Live
