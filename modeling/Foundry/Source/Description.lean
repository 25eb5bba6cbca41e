import Foundry.Provider
import Foundry.Source.Index

/-!
Declarations of source definitions: their kind, bases, abstractness and constructors, read off the
text with the help of the index.
-/

namespace Foundry.Source

open Foundry.Text

def protocolBases : List String := ["typing.Protocol", "typing_extensions.Protocol"]

def enumBases : List String :=
  ["enum.Enum", "enum.IntEnum", "enum.StrEnum", "enum.Flag", "enum.IntFlag", "enum.ReprEnum"]

/-- Bases that say nothing about ancestry. -/
def ignoredBases : List String :=
  protocolBases ++ ["builtins.object", "typing.Generic", "typing_extensions.Generic", "abc.ABC"]

def abstractDecorators : List String :=
  ["abc.abstractmethod", "abc.abstractproperty", "abc.abstractclassmethod",
   "abc.abstractstaticmethod"]

def overloadDecorators : List String := ["typing.overload", "typing_extensions.overload"]

/-- Annotations that make no field of a data class. -/
def fieldlessAnnotations : List String := ["typing.ClassVar", "dataclasses.KW_ONLY"]

/-- Parameters without a default, the first positional one apart. -/
def requiredParameters (ps : Params) : Nat :=
  let positional := ps.positional
  let lacking : Int := (positional.filter fun p => p.default.isNone).length
  let lacking := if positional.isEmpty then lacking else lacking - 1
  (lacking + (ps.kwOnly.filter fun p => p.default.isNone).length).toNat

namespace Index

/-- The names of the bases of a class, in order. -/
def bases (x : Index) (d : Definition) : List String :=
  match d.parts with
  | some c => c.bases.filterMap (x.resolveExpr d.module)
  | none => []

/-- The bases that are classes of the index. -/
def knownBases (x : Index) (d : Definition) : List Definition :=
  (x.bases d).filterMap fun b => (x.definitions.get? b).filter fun e => e.parts.isSome

/-- Known bases that were not met on the way. -/
def freshBases (x : Index) (d : Definition) (seen : List String) : List Definition :=
  (x.knownBases d).filter fun b => !seen.contains b.qualifiedName

/-- The kind of a class. A class is an interface by its own bases only, an enumeration also by
those of its ancestors. -/
def kindFrom (x : Index) : Nat → List String → Definition → Kind
  | 0, _, _ => .ordinary
  | fuel + 1, seen, d =>
    let bases := x.bases d
    if bases.any protocolBases.contains then .interface
    else if bases.any enumBases.contains then .enum
    else
      let seen := d.qualifiedName :: seen
      if (x.freshBases d seen).any fun b => kindFrom x fuel seen b = .enum then .enum else .ordinary

/-- More names than can be met on a way without repetition. -/
def bound (x : Index) : Nat :=
  x.definitions.size + 1

def kind (x : Index) (d : Definition) : Kind :=
  x.kindFrom x.bound [] d

def isInterface (x : Index) (name : String) : Bool :=
  match x.definitions.get? name with
  | some d => d.parts.isSome && x.kind d = .interface
  | none => false

/-- The names of the decorators of a statement. -/
def decoratorNames (x : Index) (module : String) (decorators : List Expr) : List String :=
  decorators.filterMap fun e => x.resolveExpr module (decoratorTarget e)

/-- Abstract methods count in classes that derive from an abstract base, from an interface or
have the metaclass of abstract classes. -/
def usesAbstractBase (x : Index) : Nat → List String → Definition → Bool
  | 0, _, _ => false
  | fuel + 1, seen, d =>
    let bases := x.bases d
    let keywords := match d.parts with
      | some c => c.keywords
      | none => []
    if bases.contains "abc.ABC" || bases.any protocolBases.contains then true
    else if keywords.any fun k =>
        k.name == some "metaclass" && x.resolveExpr d.module k.value == some "abc.ABCMeta" then true
    else
      let seen := d.qualifiedName :: seen
      (x.freshBases d seen).any (usesAbstractBase x fuel seen)

/-- The abstract and the concrete names the body of a class binds. -/
def ownMethods (x : Index) (module : String) (body : List Stmt) : List String × List String :=
  body.foldl (fun (abs, conc) s => match s with
    | .functionDef _ _ name _ decorators _ =>
      if (x.decoratorNames module decorators).any abstractDecorators.contains then
        (name :: abs, conc)
      else (abs, name :: conc)
    | .assign targets _ =>
      (abs, targets.filterMap (fun t => match t with
        | .name n => some n
        | _ => none) ++ conc)
    | .annotated (.name n) _ (some _) => (abs, n :: conc)
    | _ => (abs, conc)) ([], [])

/-- Sets of abstract names that were worked out before. -/
abbrev AbstractMemory := Ordered String (List String)

/-- Looks at each base that was not met on the way and collects its abstract names. -/
def collectFrom (step : Definition → AbstractMemory → List String × AbstractMemory)
    (seen : List String) : List Definition → List String → AbstractMemory →
      List String × AbstractMemory
  | [], acc, mem => (acc, mem)
  | b :: bs, acc, mem =>
    if seen.contains b.qualifiedName then collectFrom step seen bs acc mem
    else
      let (names, mem) := step b mem
      collectFrom step seen bs (acc ++ names) mem

/-- The names a class leaves abstract. What was found is remembered, also when a cycle cut the
search short. -/
def abstractNames (x : Index) :
    Nat → List String → Definition → AbstractMemory → List String × AbstractMemory
  | 0, _, _, mem => ([], mem)
  | fuel + 1, seen, d, mem =>
    match mem.get? d.qualifiedName with
    | some names => (names, mem)
    | none =>
      let body := match d.parts with
        | some c => c.body
        | none => []
      let (abs, conc) := x.ownMethods d.module body
      let seen := d.qualifiedName :: seen
      let (inherited, mem) :=
        collectFrom (abstractNames x fuel seen) seen (x.knownBases d) [] mem
      let names := abs ++ inherited.filter fun n => !conc.contains n
      (names, mem.insert d.qualifiedName names)

/-! ### Constructors -/

/-- The decorator that makes a class a data class. -/
def dataclassMarker? (x : Index) (d : Definition) : Option Expr :=
  d.decorators.find? fun e =>
    x.resolveExpr d.module (decoratorTarget e) == some "dataclasses.dataclass"

def isFalse : Expr → Bool
  | .constant (.bool false) => true
  | _ => false

/-- A data class whose constructor is made from its fields. -/
def hasFieldConstructor (x : Index) (d : Definition) : Bool :=
  match x.dataclassMarker? d with
  | none => false
  | some (.call _ _ keywords) =>
    !keywords.any fun k => k.name == some "init" && isFalse k.value
  | some _ => true

/-- The fields of a data class with whether each has a default. -/
abbrev Fields := Ordered String Bool

/-- What a statement of a class body does to the fields. -/
def addField (x : Index) (module : String) (fields : Fields) (s : Stmt) : Fields :=
  match s with
  | .annotated (.name n) hint value =>
    if (match x.resolveExpr module hint with
        | some a => fieldlessAnnotations.contains a
        | none => false) then fields
    else match value with
      | some (.call f _ keywords) =>
        if x.resolveExpr module f == some "dataclasses.field" then
          let option := fun (o : String) =>
            ((keywords.filter fun k => k.name == some o).getLast?).map (·.value)
          if ((option "init").map isFalse).getD false then fields.erase n
          else fields.insert n ((option "default").isSome || (option "default_factory").isSome)
        else fields.insert n true
      | some _ => fields.insert n true
      | none => fields.insert n false
  | _ => fields

/-- The fields of a data class, those of its bases first. -/
def fieldsFrom (x : Index) : Nat → List String → Definition → Fields
  | 0, _, _ => Ordered.empty
  | fuel + 1, seen, d =>
    let seen := d.qualifiedName :: seen
    let inherited := (x.knownBases d).reverse.foldl (fun (fields : Fields) b =>
      if seen.contains b.qualifiedName || (x.dataclassMarker? b).isNone then fields
      else fields.insertAll (fieldsFrom x fuel seen b).entries) Ordered.empty
    let body := match d.parts with
      | some c => c.body
      | none => []
    body.foldl (x.addField d.module) inherited

/-- The parameters of the constructor a class defines itself, the last one that is no overload. -/
def ownConstructor? (x : Index) (d : Definition) : Option Params :=
  let body := match d.parts with
    | some c => c.body
    | none => []
  (body.filterMap fun s => match s with
    | .functionDef _ _ name params decorators _ =>
      if name == "__init__" &&
          !(x.decoratorNames d.module decorators).any overloadDecorators.contains then some params
      else none
    | _ => none).getLast?

/-- The number of arguments the constructor of a class needs, if the class or an ancestor defines
one. -/
def requiredFrom (x : Index) : Nat → List String → Definition → Option Nat
  | 0, _, _ => none
  | fuel + 1, seen, d =>
    match x.ownConstructor? d with
    | some params => some (requiredParameters params)
    | none =>
      if x.hasFieldConstructor d then
        some ((x.fieldsFrom x.bound [] d).values.filter fun hasDefault => !hasDefault).length
      else
        let seen := d.qualifiedName :: seen
        (x.freshBases d seen).findSome? (requiredFrom x fuel seen)

/-! ### Declarations -/

/-- What a provider remembers: declarations and abstract names. -/
structure Memory where
  declarations : Ordered String Declaration
  abstracts : AbstractMemory

def Memory.empty : Memory := ⟨Ordered.empty, Ordered.empty⟩

/-- The declaration of a class whose name and marker are known. -/
def describeClass (x : Index) (d : Definition) (name : QualifiedName)
    (marking : Option Marking) (location : Location) (mem : AbstractMemory) :
    Declaration × AbstractMemory :=
  let bases := x.bases d
  let kind := x.kind d
  let interfaces := bases.filter x.isInterface
  let parents := if kind = .interface then []
    else bases.filter fun b => !ignoredBases.contains b && !x.isInterface b
  let (isAbstract, mem) :=
    if x.usesAbstractBase x.bound [] d then
      let (names, mem) := x.abstractNames x.bound [] d mem
      (!names.isEmpty, mem)
    else (false, mem)
  let constructor := match x.requiredFrom x.bound [] d with
    | some n => ⟨n, true⟩
    | none => Constructor.standard
  ({ name, kind, isAbstract, interfaces, marking
     isPublic := Name.isPublic d.qualname
     superclass := parents.head?
     bases := parents
     constructors := [constructor]
     location := some location }, mem)

/-- The declaration of a definition. -/
def describe (x : Index) (d : Definition) (mem : AbstractMemory) :
    Except Fault (Declaration × AbstractMemory) :=
  let location : Location := ⟨(x.modules.get? d.module).map (·.path), some d.line⟩
  match x.marking? d with
  | .error f => .error f
  | .ok marking =>
    match QualifiedName.ofTexts? d.module d.qualname with
    | .error p => .error (.name p)
    | .ok name =>
      if d.parts.isSome then .ok (x.describeClass d name marking location mem)
      else
        .ok ({ name, marking
               kind := .function
               isPublic := Name.isPublic d.qualname
               isAbstract := false
               interfaces := []
               superclass := none
               bases := []
               constructors := []
               location := some location }, mem)

/-- The declaration a name leads to, described at most once. -/
def get (x : Index) (qualifiedName : String) : Query Memory (Option Declaration) := do
  let name := x.canon qualifiedName
  match x.definitions.get? name with
  | none => return none
  | some d =>
    let mem ← MonadState.get
    match mem.declarations.get? name with
    | some found => return some found
    | none =>
      match x.describe d mem.abstracts with
      | .error f => throw f
      | .ok (found, abstracts) =>
        set (⟨mem.declarations.insert name found, abstracts⟩ : Memory)
        return some found

/-- A visit to each definition, which yields the marked ones. -/
def annotated (x : Index) : List (Query Memory (Option Declaration)) :=
  x.definitions.entries.map fun (name, d) =>
    match x.marking? d with
    | .error f => throw f
    | .ok none => return none
    | .ok (some _) => x.get name

def provider (x : Index) : Provider Memory where
  get := x.get
  resolve r := return x.resolveReference r
  annotated := return x.annotated

end Index

end Foundry.Source
