import Foundry.Decimal.Shortest
import Foundry.Path
import Foundry.Text.Quoted

/-!
Values found in annotations, settings and attributes of spans, and their texts. Not every value has
a text: whole numbers have one up to a number of digits, and what an object from outside shows, or
raises instead, is its own.
-/

namespace Foundry

open Foundry.Decimal Foundry.Text

/-- A type by the name it was written under, and the module it was written in. -/
structure Reference where
  name : String
  scope : Option String
deriving DecidableEq, Repr

namespace Reference

def text (r : Reference) : String :=
  match r.scope with
  | none => r.name
  | some m => s!"{r.name} (in {m})"

def repr (r : Reference) : String :=
  let scope := match r.scope with
    | none => "None"
    | some m => quoted m
  s!"TypeReference(name={quoted r.name}, module={scope})"

end Reference

/-- Why a value has no text: a whole number has too many digits, or an object raised something when
it was asked for its text. -/
inductive Unshown
  | tooLong
  | raised (kind message : String)
deriving DecidableEq, Repr

namespace Unshown

def kind : Unshown → String
  | .tooLong => "ValueError"
  | .raised k _ => k

def message : Unshown → String
  | .tooLong =>
    "Exceeds the limit (4300 digits) for integer string conversion; " ++
      "use sys.set_int_max_str_digits() to increase the limit"
  | .raised _ m => m

end Unshown

/-- A value. An `expression` is source text that was not evaluated, a `liveClass` is known by its
module and its name within it, and a `thing` has no structure beyond what it shows as its text. -/
inductive Value
  | none
  | bool (b : Bool)
  | int (n : Int)
  | float (x : Binary64)
  | imaginary (x : Binary64)
  | text (s : String)
  | bytes (bs : List UInt8)
  | ellipsis
  | tuple (items : List Value)
  | list (items : List Value)
  | dict (fields : List (String × Value))
  | expression (source : String)
  | reference (r : Reference)
  | liveClass (module qualname : String)
  | path (p : Path)
  | thing (kind : String) (shown : Except Unshown String)
deriving Repr

namespace Value

instance : Inhabited Value := ⟨.none⟩

/-- The name of the type of a value. -/
def typeName : Value → String
  | .none => "NoneType"
  | .bool _ => "bool"
  | .int _ => "int"
  | .float _ => "float"
  | .imaginary _ => "complex"
  | .text _ => "str"
  | .bytes _ => "bytes"
  | .ellipsis => "ellipsis"
  | .tuple _ => "tuple"
  | .list _ => "list"
  | .dict _ => "dict"
  | .expression _ => "factorygen.metadata.model.UnevaluatedExpression"
  | .reference _ => "factorygen.metadata.model.TypeReference"
  | .liveClass _ _ => "type"
  | .path _ => "PosixPath"
  | .thing kind _ => kind

/-- The most digits of a whole number that has a text. -/
@[irreducible] def digitLimit : Nat := 4300

/-- The text of a whole number. -/
@[irreducible] def reprInt (n : Int) : Except Unshown String :=
  if n.natAbs < Nat.pow 10 digitLimit then .ok (toString n) else .error .tooLong

/-- Texts in the brackets of a tuple. -/
def tupled : List String → String
  | [p] => "(" ++ p ++ ",)"
  | ps => "(" ++ join ", " ps ++ ")"

/-- Texts in the brackets of a list. -/
def listed (ps : List String) : String :=
  "[" ++ join ", " ps ++ "]"

mutual

/-- The text of a value as it is written in source. The first part without a text counts. -/
def repr : Value → Except Unshown String
  | .none => .ok "None"
  | .bool b => .ok (if b then "True" else "False")
  | .int n => reprInt n
  | .float x => .ok x.text
  | .imaginary x => .ok (x.textWith false ++ "j")
  | .text s => .ok (quoted s)
  | .bytes bs => .ok (quotedBytes bs)
  | .ellipsis => .ok "Ellipsis"
  | .tuple items => (reprList items).map tupled
  | .list items => (reprList items).map listed
  | .dict fields => (reprFields fields).map fun ps => "\x7b" ++ join ", " ps ++ "\x7d"
  | .expression source => .ok s!"UnevaluatedExpression(text={quoted source})"
  | .reference r => .ok r.repr
  | .liveClass m q => .ok s!"<class '{m}.{q}'>"
  | .path p => .ok s!"PosixPath({quoted p.text})"
  | .thing _ shown => shown

def reprList : List Value → Except Unshown (List String)
  | [] => .ok []
  | v :: vs => do
    let p ← v.repr
    let ps ← reprList vs
    return p :: ps

def reprFields : List (String × Value) → Except Unshown (List String)
  | [] => .ok []
  | (k, v) :: rest => do
    let p ← v.repr
    let ps ← reprFields rest
    return (quoted k ++ ": " ++ p) :: ps

end

/-- The number a value counts as when it is compared: truth values are numbers too. -/
def number? : Value → Option (Int ⊕ Binary64)
  | .bool b => some (.inl (if b then 1 else 0))
  | .int n => some (.inl n)
  | .float x => some (.inr x)
  | _ => Option.none

/-- Equality of numbers of both kinds. -/
def sameNumber : Int ⊕ Binary64 → Int ⊕ Binary64 → Bool
  | .inl a, .inl b => a == b
  | .inr x, .inr y => x.same y
  | .inl a, .inr y => y.toInt? == some a
  | .inr x, .inl b => x.toInt? == some b

mutual

/-- Equality of values. Numbers are equal across their kinds; live classes and things are told
apart by identity, which a description does not carry. -/
def same : Value → Value → Bool
  | .none, .none => true
  | .text a, .text b => a == b
  | .bytes a, .bytes b => a == b
  | .ellipsis, .ellipsis => true
  | .tuple a, .tuple b => sameList a b
  | .list a, .list b => sameList a b
  | .dict a, .dict b => sameFields a b && a.length == b.length
  | .expression a, .expression b => a == b
  | .reference a, .reference b => a == b
  | .path a, .path b => a == b
  | .imaginary a, .imaginary b => a.same b
  | a, b =>
    match a.number?, b.number? with
    | some x, some y => sameNumber x y
    | _, _ => false

def sameList : List Value → List Value → Bool
  | [], [] => true
  | a :: as, b :: bs => same a b && sameList as bs
  | _, _ => false

/-- Every field of the first map has an equal value in the second. -/
def sameFields : List (String × Value) → List (String × Value) → Bool
  | [], _ => true
  | (k, v) :: rest, other =>
    (match other.lookup k with
      | some w => same v w
      | Option.none => false) && sameFields rest other

end

/-- Text, the only value that can name a member of a group. -/
def text? : Value → Option String
  | .text s => some s
  | _ => Option.none

end Value

end Foundry
