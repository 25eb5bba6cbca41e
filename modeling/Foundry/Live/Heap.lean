import Foundry.Live.Linear
import Foundry.Marker
import Foundry.Source.Syntax

/-!
Objects of running code. Classes and functions live on a heap and are told apart by their places
in it, so that one class can be reached under several names and classes can refer to each other.
-/

namespace Foundry.Live

open Foundry.Source Foundry.Text

/-- What is known about a field of a data class. -/
structure Field where
  hasDefault : Bool
  /-- The default is made anew for each instance, so the class keeps no attribute for it. -/
  fromFactory : Bool
  isInitial : Bool
  isNamedOnly : Bool
  /-- Kept on the instances; other fields are class variables or arguments only. -/
  isStored : Bool
  isArgument : Bool
deriving DecidableEq, Repr, Inhabited

/-- Options of a data class. -/
structure DataOptions where
  makesConstructor : Bool
  namedOnly : Bool
deriving DecidableEq, Repr

/-- Things a library offers to call. -/
inductive Tool
  | factory
  | marker (m : Marker)
  | dataclass (o : DataOptions)
  | field
  | abstractMethod
  | wrapper (kind : String)
  | importer
  /-- A decorator that gives back what it is applied to. -/
  | identity
  | other (name : String)
deriving Repr

inductive Object
  | value (v : Value)
  | tuple (items : List Object)
  | class (place : Nat)
  | function (place : Nat)
  | module (name : String)
  | tool (t : Tool)
  /-- A property, a static or a class method around another object. -/
  | wrapped (kind : String) (inner : Object)
  | subscripted (origin : Object)
  | mark (m : Marking)
  | field (f : Field)
  /-- Annotated names of a class in their order, with what was written behind them. -/
  | hints (entries : List (String × Object))
  | fault (kind message : String)
  /-- Anything else, known by the name of its type. -/
  | thing (kind : String)
deriving Repr

instance : Inhabited Object := ⟨.value .none⟩

/-- Names with what they are bound to, in the order in which they were bound. -/
abbrev Names := Ordered String Object

/-- Where code runs: its module with the place of its names, the names it binds, the names of the
functions around it, and the start of qualified names. -/
structure Surroundings where
  module : String
  globals : Nat
  locals : Nat
  enclosing : List Nat
  start : String
  path : Option Path
  /-- What is written behind names is not evaluated. -/
  isLazy : Bool
deriving Repr

structure Function where
  module : String
  qualname : String
  params : Params
  defaults : List (String × Object)
  body : List Stmt
  around : Surroundings
  location : Option Location
  attributes : Names
  isAbstract : Bool

structure Class where
  module : String
  qualname : String
  bases : List Nat
  /-- The class and its ancestors in the order in which they are searched. -/
  order : List Nat
  metaclass : Nat
  attributes : Names
  /-- The names left abstract. -/
  abstracts : List String
  isProtocol : Bool
  fields : Option (Ordered String Field)
  /-- Members of an enumeration. -/
  members : List String
  /-- Made by a library and not open to change. -/
  isFixed : Bool
  /-- Not to be derived from. -/
  isFinal : Bool
  /-- The ancestor that decides how instances are laid out. -/
  layout : Nat

structure Heap where
  classes : Array Class
  functions : Array Function
  names : Array Names

namespace Heap

def empty : Heap := ⟨#[], #[], #[]⟩

/-! ### Access -/

def class? (h : Heap) (place : Nat) : Option Class :=
  h.classes[place]?

def function? (h : Heap) (place : Nat) : Option Function :=
  h.functions[place]?

def namesAt (h : Heap) (place : Nat) : Names :=
  h.names[place]?.getD Ordered.empty

def addNames (h : Heap) (n : Names) : Nat × Heap :=
  (h.names.size, { h with names := h.names.push n })

def addFunction (h : Heap) (f : Function) : Nat × Heap :=
  (h.functions.size, { h with functions := h.functions.push f })

def addClass (h : Heap) (c : Class) : Nat × Heap :=
  (h.classes.size, { h with classes := h.classes.push c })

def bind (h : Heap) (place : Nat) (name : String) (o : Object) : Heap :=
  { h with names := h.names.modify place fun n => n.insert name o }

def updateClass (h : Heap) (place : Nat) (f : Class → Class) : Heap :=
  { h with classes := h.classes.modify place f }

def updateFunction (h : Heap) (place : Nat) (f : Function → Function) : Heap :=
  { h with functions := h.functions.modify place f }

/-- The class and its ancestors in their order. -/
def order (h : Heap) (place : Nat) : List Nat :=
  match h.class? place with
  | some c => c.order
  | none => []

/-- A class is another one or derives from it. -/
def derives (h : Heap) (place ancestor : Nat) : Bool :=
  (h.order place).contains ancestor

/-- The class in which an attribute is found, and the attribute. -/
def findIn (h : Heap) (order : List Nat) (name : String) : Option (Nat × Object) :=
  order.findSome? fun p => (h.class? p).bind fun c => (c.attributes.get? name).map fun o => (p, o)

/-- An attribute as found in a class or its ancestors. -/
def rawAttribute (h : Heap) (place : Nat) (name : String) : Option (Nat × Object) :=
  h.findIn (h.order place) name

/-- The attribute that a class gives out: a static method gives the function itself. -/
def member? (h : Heap) (place : Nat) (name : String) : Option Object :=
  match h.rawAttribute place name with
  | some (_, .wrapped "staticmethod" inner) => some inner
  | some (_, .wrapped "classmethod" _) => some (.thing "method")
  | some (_, o) => some o
  | none => none

def qualifiedName (c : Class) : String :=
  c.module ++ "." ++ c.qualname

def className (h : Heap) (place : Nat) : String :=
  match h.class? place with
  | some c => Name.simple c.qualname
  | none => ""

/-! ### Objects seen from outside -/

def isClass : Object → Bool
  | .class _ => true
  | _ => false

def isFunction : Object → Bool
  | .function _ => true
  | _ => false

/-- The name of the type of an object. -/
def typeName (h : Heap) : Object → String
  | .value v => v.typeName
  | .tuple _ => "tuple"
  | .class p => match h.class? p with
    | some c => h.className c.metaclass
    | none => "type"
  | .function _ => "function"
  | .module _ => "module"
  | .tool _ => "function"
  | .wrapped kind _ => kind
  | .subscripted _ => "_GenericAlias"
  | .mark _ => "FactoryAnnotation"
  | .field _ => "Field"
  | .hints _ => "dict"
  | .fault kind _ => kind
  | .thing kind => kind

mutual

/-- The value that stands for an object in a marker. -/
def toValue (h : Heap) : Object → Value
  | .value v => v
  | .tuple items => .tuple (toValues h items)
  | .class p => match h.class? p with
    | some c => .liveClass c.module c.qualname
    | none => .none
  | .function p => match h.function? p with
    | some f => .thing "function" (.ok s!"<function {f.qualname}>")
    | none => .none
  | o => .thing (h.typeName o) (.ok s!"<{h.typeName o} object>")

def toValues (h : Heap) : List Object → List Value
  | [] => []
  | o :: os => toValue h o :: toValues h os

end

/-- An object that marks a method as abstract. -/
def isAbstractMethod (h : Heap) : Object → Bool
  | .function p => match h.function? p with
    | some f => f.isAbstract
    | none => false
  | .wrapped kind inner => startsWith kind "abstract" || isAbstractMethod h inner
  | _ => false

end Heap

end Foundry.Live
