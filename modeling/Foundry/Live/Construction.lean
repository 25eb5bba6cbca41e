import Foundry.Live.Definition

/-!
The arguments that constructing an instance of a class needs, as far as its methods tell.
-/

namespace Foundry.Live

open Foundry.Source

/-- Parameters that have to be given once the first one is bound; `none` where there is no first
one to bind. -/
def requiredAfterFirst : Params → Option Nat
  | .mk posOnly args vararg kwOnly _ =>
    let lacking := fun (ps : List Param) => (ps.filter fun p => p.default.isNone).length
    match posOnly ++ args, vararg with
    | _ :: rest, _ => some (lacking rest + lacking kwOnly)
    | [], some _ => some (lacking kwOnly)
    | [], none => none

namespace Heap

/-- A method that was written as a function. -/
def writtenMethod? (h : Heap) (order : List Nat) (name : String) : Option Function :=
  match h.findIn order name with
  | some (_, .function f) => h.function? f
  | some (_, .wrapped "staticmethod" (.function f)) => h.function? f
  | _ => none

def has (h : Heap) (name : String) (place : Nat) : Bool :=
  ((h.class? place).map fun c => c.attributes.contains name).getD false

/-- The method that decides on the arguments: the call of the metaclass, or of the two methods
that construct the one met first among the ancestors. -/
def constructing? (h : Heap) (c : Class) : Option Function :=
  match h.writtenMethod? (h.order c.metaclass) "__call__" with
  | some f => some f
  | none =>
    let new := h.writtenMethod? c.order "__new__"
    let init := h.writtenMethod? c.order "__init__"
    c.order.findSome? fun p =>
      if new.isSome && h.has "__new__" p then new
      else if init.isSome && h.has "__init__" p then init
      else none

/-- A class that leaves construction to the common ancestor of all classes. -/
def isPlainlyConstructed (h : Heap) (c : Class) : Bool :=
  ["__init__", "__new__"].all fun n => (h.findIn c.order n).map (·.1) == some Place.object

/-- The number of arguments a construction needs. -/
def requiredArguments (h : Heap) (c : Class) : Nat :=
  if h.isPlainlyConstructed c then 0
  else ((h.constructing? c).bind fun f => requiredAfterFirst f.params).getD 0

end Heap

end Foundry.Live
