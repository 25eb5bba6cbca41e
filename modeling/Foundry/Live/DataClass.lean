import Foundry.Live.Definition

/-!
Data classes: the fields a class and its ancestors declare, and the constructor made from them.
-/

namespace Foundry.Live

open Foundry.Source Foundry.Text

/-- What stands behind the name of a class variable, of an argument that is not stored, and of the
mark after which fields are given by name only. -/
inductive HintRole
  | stored
  | classVariable
  | argument
  | namedOnly
deriving DecidableEq, Repr

def HintRole.of : Object → HintRole
  | .tool (.other n) => if lastSegment n == "ClassVar" then .classVariable else .stored
  | .subscripted o => HintRole.of o
  | .class p => if p == Place.initVar then .argument else .stored
  | .thing kind => if kind == "KW_ONLY" then .namedOnly else .stored
  | _ => .stored

/-- Defaults that would be shared by all instances. -/
def mutableType? : Object → Option String
  | .value (.list _) => some "list"
  | .value (.dict _) => some "dict"
  | .thing "set" => some "set"
  | _ => none

namespace Heap

/-- The field a name of a class declares. -/
def fieldOf (h : Heap) (place : Nat) (name : String) (role : HintRole) (namedOnly : Bool) :
    Except Fault Field := do
  let base ← match h.member? place name with
    | some (.field f) => pure { f with isNamedOnly := f.isNamedOnly || namedOnly }
    | some o =>
      match role, mutableType? o with
      | .stored, some t =>
        .error (.raised "ValueError" (s!"mutable default <class '{t}'> for field {name} " ++
          "is not allowed: use default_factory"))
      | _, _ => pure ⟨true, false, true, namedOnly, true, true⟩
    | none => pure ⟨false, false, true, namedOnly, true, true⟩
  return match role with
    | .classVariable => { base with isStored := false, isArgument := false }
    | .argument => { base with isStored := false }
    | _ => base

/-- The fields a class declares itself, in their order. -/
def ownFields (h : Heap) (place : Nat) :
    Bool → List (String × Object) → Except Fault (List (String × Field))
  | _, [] => .ok []
  | namedOnly, (name, hint) :: rest =>
    match HintRole.of hint with
    | .namedOnly => ownFields h place true rest
    | role =>
      match h.fieldOf place name role namedOnly with
      | .error f => .error f
      | .ok f => (ownFields h place namedOnly rest).map ((name, f) :: ·)

/-- The fields of the nearest ancestor that has fields. -/
def fieldsFrom (h : Heap) (place : Nat) : Ordered String Field :=
  ((h.order place).findSome? fun p => (h.class? p).bind Class.fields).getD Ordered.empty

/-- Fields of the ancestors, the farthest first, and then those of the class. -/
def mergeFields (h : Heap) (place : Nat) (own : List (String × Field)) : Ordered String Field :=
  let inherited := (h.order place).tail.reverse.foldl
    (fun (fields : Ordered String Field) p => fields.insertAll (h.fieldsFrom p).entries)
    Ordered.empty
  inherited.insertAll own

/-- Fields that the constructor takes. -/
def argumentsOf (fields : Ordered String Field) : List (String × Field) :=
  fields.entries.filter fun e => e.2.isInitial && e.2.isArgument

/-- A field without a default behind one with a default. -/
def misplaced? : Bool → List (String × Field) → Option String
  | _, [] => none
  | seen, (n, f) :: rest =>
    if f.hasDefault then misplaced? true rest
    else if seen then some n else misplaced? seen rest

/-- The parameters of the constructor. -/
def constructorParams (arguments : List (String × Field)) : Params :=
  let param := fun (e : String × Field) =>
    Param.mk e.1 none (if e.2.hasDefault then some (.constant .none) else none)
  .mk [] (Param.mk "self" none none :: (arguments.filter fun e => !e.2.isNamedOnly).map param)
    none ((arguments.filter fun e => e.2.isNamedOnly).map param) none

/-- The names a class annotates. -/
def hintsOf (own : Names) : List (String × Object) :=
  match own.get? "__annotations__" with
  | some (.hints hs) => hs
  | _ => []

/-- A field that no annotation belongs to. -/
def stray? (own : Names) : Option String :=
  (own.entries.find? fun (n, o) => match o with
    | .field _ => !((hintsOf own).any fun e => e.1 == n)
    | _ => false).map (·.1)

/-- What stands in for the fields among the attributes: their defaults, if they have any. -/
def withoutFields (own : Names) : Names :=
  own.filterMap fun _ o => match o with
    | .field f => if f.hasDefault && !f.fromFactory then some (.thing "object") else none
    | o => some o

/-- Makes a class a data class. -/
def makeDataClass (h : Heap) (place : Nat) (o : DataOptions) : Except Fault Heap := do
  match h.class? place with
  | none => .ok h
  | some c =>
    let own ← h.ownFields place o.namedOnly (hintsOf c.attributes)
    if let some n := stray? c.attributes then
      .error (typeFault s!"{quoted n} is a field but has no type annotation")
    let fields := h.mergeFields place own
    let arguments := argumentsOf fields
    let attributes := withoutFields c.attributes
    if o.makesConstructor then
      if let some n := misplaced? false (arguments.filter fun e => !e.2.isNamedOnly) then
        .error (typeFault s!"non-default argument {quoted n} follows default argument")
    let (attributes, h) :=
      if o.makesConstructor && !attributes.contains "__init__" then
        let (f, h) := h.addFunction (libraryFunction c.module (c.qualname ++ ".__init__")
          (constructorParams arguments))
        (attributes.insert "__init__" (.function f), h)
      else (attributes, h)
    return h.updateClass place fun c => { c with attributes, fields := some fields }

end Heap

end Foundry.Live
