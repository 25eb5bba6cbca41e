import Foundry.Name.Qualified
import Foundry.Path

/-!
Declarations: what is known about a class, an interface, an enumeration or a function, however it
was found out.
-/

namespace Foundry

inductive Kind
  /-- A class that is neither an interface nor an enumeration. -/
  | ordinary
  | interface
  | enum
  | function
deriving DecidableEq, Repr

namespace Kind

def text : Kind → String
  | .ordinary => "class"
  | .interface => "interface"
  | .enum => "enum"
  | .function => "function"

def ofText? : String → Option Kind
  | "class" => some .ordinary
  | "interface" => some .interface
  | "enum" => some .enum
  | "function" => some .function
  | _ => none

end Kind

/-- One way to construct a class: the number of arguments it needs, and its visibility. -/
structure Constructor where
  required : Int
  isPublic : Bool
deriving DecidableEq, Repr

namespace Constructor

/-- Public and callable without arguments. -/
def isDefault (c : Constructor) : Bool :=
  c.isPublic && c.required == 0

/-- The constructor of a class that does not define one. -/
def standard : Constructor := ⟨0, true⟩

end Constructor

/-- The fields of a factory marker as they were found. -/
structure Marking where
  identifier : Value
  type : Value
deriving Repr

structure Location where
  path : Option Path
  line : Option Int
deriving DecidableEq, Repr

def Location.text (l : Location) : String :=
  match l.path with
  | none => "<unknown>"
  | some p =>
    match l.line with
    | some (.ofNat 0) => p.text
    | some n => s!"{p.text}:{n}"
    | none => p.text

structure Declaration where
  name : QualifiedName
  kind : Kind
  isPublic : Bool
  isAbstract : Bool
  interfaces : List String
  superclass : Option String
  /-- Every direct base that is no interface, in order. -/
  bases : List String
  constructors : List Constructor
  marking : Option Marking
  location : Option Location
deriving Repr

namespace Declaration

def qualifiedName (d : Declaration) : String :=
  d.name.text

/-- The bases, or the superclass where no bases are given. -/
def superclasses (d : Declaration) : List String :=
  if d.bases.isEmpty then
    match d.superclass with
    | some s => if s == "" then [] else [s]
    | none => []
  else d.bases

/-- Completes a declaration: the superclass is the first base unless given, and a name without
leading underscores is public unless said otherwise. -/
def complete (name : QualifiedName) (kind : Kind) (isPublic : Option Bool) (isAbstract : Bool)
    (interfaces : List String) (superclass : Option String) (bases : List String)
    (constructors : List Constructor) (marking : Option Marking)
    (location : Option Location) : Declaration :=
  { name, kind, isAbstract, interfaces, bases, constructors, marking, location
    isPublic := isPublic.getD (Name.isPublic name.qualname)
    superclass := superclass.or bases.head? }

def sameMarking : Option Marking → Option Marking → Bool
  | none, none => true
  | some a, some b => a.identifier.same b.identifier && a.type.same b.type
  | _, _ => false

/-- Equality of declarations, wherever they were found. -/
def same (a b : Declaration) : Bool :=
  a.name == b.name && a.kind == b.kind && a.isPublic == b.isPublic &&
    a.isAbstract == b.isAbstract && a.interfaces == b.interfaces &&
    a.superclass == b.superclass && a.bases == b.bases && a.constructors == b.constructors &&
    sameMarking a.marking b.marking

end Declaration

/-- An accepted or to be accepted member of a group. -/
structure Record where
  identifier : String
  group : String
  declaration : Declaration
deriving Repr

namespace Record

def qualifiedName (r : Record) : String :=
  r.declaration.qualifiedName

def groupSimpleName (r : Record) : String :=
  Name.simple r.group

/-- Records are equal when they would take the same place, whatever they construct. -/
def same (a b : Record) : Bool :=
  a.identifier == b.identifier && a.group == b.group

def repr (r : Record) : String :=
  s!"AnnotatedRecord(identifier={Text.quoted r.identifier}, group={Text.quoted r.group})"

end Record

end Foundry
