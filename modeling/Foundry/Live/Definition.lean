import Foundry.Live.Library

/-!
Making classes: the metaclass, the order of ancestors, what is left abstract, and what interfaces,
enumerations and generic classes ask of their bases.
-/

namespace Foundry.Live

open Foundry.Text

/-- A fault of types. -/
def typeFault (message : String) : Fault :=
  .raised "TypeError" message

namespace Heap

/-- The text that shows a class. -/
def shown (h : Heap) (place : Nat) : String :=
  match h.class? place with
  | some c =>
    if c.module == "builtins" then s!"<class '{c.qualname}'>" else s!"<class '{qualifiedName c}'>"
  | none => ""

/-- The metaclass that derives from those of all bases. -/
def metaclassOf (h : Heap) (start : Nat) (bases : List Nat) : Except Fault Nat :=
  bases.foldlM (fun winner b =>
    let m := ((h.class? b).map Class.metaclass).getD Place.type
    if h.derives winner m then .ok winner
    else if h.derives m winner then .ok m
    else .error (typeFault ("metaclass conflict: the metaclass of a derived class must be a " ++
      "(non-strict) subclass of the metaclasses of all its bases"))) start

/-- The layout that all bases fit. -/
def layoutOf (h : Heap) (bases : List Nat) : Except Fault Nat :=
  bases.foldlM (fun winner b =>
    match h.class? b with
    | none => .ok winner
    | some c =>
      if c.isFinal then
        .error (typeFault s!"type {quoted (h.className b)} is not an acceptable base type")
      else if h.derives winner c.layout then .ok winner
      else if h.derives c.layout winner then .ok c.layout
      else .error (typeFault "multiple bases have instance lay-out conflict")) Place.object

/-- The first element that occurs again. -/
def repeated? : List Nat → Option Nat
  | [] => none
  | p :: ps => if ps.contains p then some p else repeated? ps

/-- The order of the ancestors of a class that is about to be made. -/
def orderOf (h : Heap) (bases : List Nat) : Except Fault (List Nat) :=
  match repeated? bases with
  | some p => .error (typeFault s!"duplicate base class {h.className p}")
  | none =>
    match linearize h.classes.size bases h.order with
    | .ok o => .ok o
    | .error blocked =>
      .error (typeFault ("Cannot create a consistent method resolution\norder (MRO) for bases " ++
        join ", " (blocked.map h.className)))

/-- Names that are abstract in a class: those of its own that are, and those a base leaves
abstract and the order of ancestors still finds abstract. -/
def abstractNames (h : Heap) (order bases : List Nat) (own : Names) : List String :=
  let mine := (own.entries.filter fun e => h.isAbstractMethod e.2).map (·.1)
  let found := fun (n : String) => match own.get? n with
    | some o => some o
    | none => (h.findIn order.tail n).map (·.2)
  let inherited := bases.flatMap fun b => ((h.class? b).map Class.abstracts).getD []
  mine ++ inherited.filter fun n => !mine.contains n && (match found n with
    | some o => h.isAbstractMethod o
    | none => false)

/-- Abstract names count in classes of the metaclass for abstract classes. -/
def tracksAbstracts (h : Heap) (metaclass : Nat) : Bool :=
  h.derives metaclass Place.abstractMeta

/-! ### Interfaces -/

/-- A class that has an interface marker among its ancestors. -/
def isBelowProtocol (order : List Nat) : Bool :=
  order.any protocols.contains

/-- A base an interface may have. -/
def isProtocolBase (h : Heap) (base : Nat) : Bool :=
  base == Place.object || base == Place.generic || protocols.contains base ||
    ((h.class? base).map Class.isProtocol).getD false

/-- An interface derives from interfaces only. -/
def checkProtocol (h : Heap) (bases : List Nat) : Except Fault Unit :=
  match bases.find? fun b => !h.isProtocolBase b with
  | some b =>
    .error (typeFault s!"Protocols can only inherit from other protocols, got {h.shown b}")
  | none => .ok ()

/-- The constructor of an interface, which takes anything. -/
def protocolConstructor : Function :=
  let param := fun (n : String) => Source.Param.mk n none none
  libraryFunction "typing" "_no_init_or_replace_init"
    (.mk [] [param "self"] (some (param "args")) [] (some (param "kwargs")))

/-- An interface without a constructor of its own gets one. -/
def withProtocolConstructor (h : Heap) (order : List Nat) (own : Names) : Names × Heap :=
  match (own.get? "__init__").or ((h.findIn order.tail "__init__").map (·.2)) with
  | some (.function _) => (own, h)
  | _ =>
    let (f, h) := h.addFunction protocolConstructor
    (own.insert "__init__" (.function f), h)

/-! ### Enumerations -/

/-- A name with underscores on both sides, which makes no member. -/
def isReservedName (n : String) : Bool :=
  startsWith n "_" && endsWith n "_"

/-- Names that become members of an enumeration. -/
def memberNames (own : Names) : List String :=
  (own.entries.filter fun (n, o) => !isReservedName n && (match o with
    | .function _ => false
    | .wrapped _ _ => false
    | _ => true)).map (·.1)

/-- An enumeration with members has no descendants. -/
def checkEnum (h : Heap) (name : String) (bases : List Nat) : Except Fault Unit :=
  match bases.find? fun b => ((h.class? b).map fun c => !c.members.isEmpty).getD false with
  | some b =>
    .error (typeFault s!"<enum {quoted name}> cannot extend <enum {quoted (h.className b)}>")
  | none => .ok ()

/-! ### All classes -/

/-- What can be said before the body of a class runs: its bases and its metaclass. -/
def prepareClass (h : Heap) (name : String) (bases : List Nat) (metaclass? : Option Nat) :
    Except Fault Nat := do
  let metaclass ← h.metaclassOf (metaclass?.getD Place.type) bases
  if h.derives metaclass Place.enumMeta then h.checkEnum name bases
  return metaclass

/-- Makes a class of the names its body bound. `plainGeneric` says that the generic class itself
was written as a base. -/
def makeClass (h : Heap) (module qualname : String) (written : List Nat) (metaclass : Nat)
    (own : Names) (plainGeneric : Bool) : Except Fault (Nat × Heap) := do
  let bases := if written.isEmpty then [Place.object] else written
  let layout ← h.layoutOf bases
  let order ← h.orderOf bases
  if plainGeneric then .error (typeFault "Cannot inherit from plain Generic")
  let isProtocol := isBelowProtocol order.tail && bases.any protocols.contains
  if isProtocol then h.checkProtocol bases
  let isEnum := h.derives metaclass Place.enumMeta
  let members := if isEnum then memberNames own else []
  let own := Ordered.ofList (own.entries.map fun (n, o) =>
    if members.contains n then (n, Object.thing (Name.simple qualname)) else (n, o))
  let (own, h) := if isProtocol then h.withProtocolConstructor order own else (own, h)
  let abstracts := if h.tracksAbstracts metaclass then h.abstractNames order bases own else []
  return h.addClass
    { module, qualname, bases, order, metaclass, abstracts, isProtocol, members, layout
      attributes := own
      fields := none
      isFixed := false
      isFinal := false }

end Heap

end Foundry.Live
