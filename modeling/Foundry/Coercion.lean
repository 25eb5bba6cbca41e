import Foundry.Path
import Foundry.Text.Blank
import Foundry.Text.Encoding
import Foundry.Value

/-!
Coercions: how the values of settings are read as those of the fields they are for. That is the
work of a library from outside, and a parameter here; its usual rules are one choice of it.
-/

namespace Foundry

open Foundry.Decimal Foundry.Text

/-- Values as those of fields of five types. What is refused comes with the library's word for the
problem. -/
structure Coercions where
  text : Value → Except String String
  path : Value → Except String Path
  bool : Value → Except String Bool
  int : Value → Except String Int
  items : Value → Except String (List Value)

namespace Coercions

/-- The letters of a value that is text, or bytes in UTF-8. -/
def letters? (problem : String) : Value → Option (Except String String)
  | .text s => some (.ok s)
  | .bytes bs => some ((Encoding.decode .utf8 bs).mapError fun _ => problem)
  | _ => none

def trueWords : List String := ["1", "t", "y", "yes", "on", "true"]

def falseWords : List String := ["0", "f", "n", "no", "off", "false"]

/-- One of the usual words in any case. -/
def boolOf (s : String) : Except String Bool :=
  let word := s.map Char.toLower
  if trueWords.contains word then .ok true
  else if falseWords.contains word then .ok false
  else .error "bool_parsing"

/-- Digits with single underscores between them. -/
def digits? : List Char → Option Nat
  | [] => none
  | cs =>
    if cs.head? == some '_' || cs.getLast? == some '_' || occursIn ['_', '_'] cs then none
    else if cs.all fun c => c.isDigit || c == '_' then
      some (cs.foldl (fun n c => if c = '_' then n else n * 10 + (c.toNat - 48)) 0)
    else none

/-- The integer a text writes: an optional sign, digits, and an optional fraction of zeros. -/
def integer? (s : String) : Option Int :=
  let cs := stripList s.toList
  let (negative, cs) := match cs with
    | '-' :: rest => (true, rest)
    | '+' :: rest => (false, rest)
    | cs => (false, cs)
  let whole := cs.takeWhile (· != '.')
  let fraction := cs.drop whole.length
  let plain : Bool := match fraction with
    | [] => true
    | _ :: zeros => !zeros.isEmpty && zeros.all (· == '0')
  if plain then (digits? whole).map fun n => if negative then -(n : Int) else n else none

/-- The rules for values that need not be of the type of their field. -/
def lax : Coercions where
  text v := (letters? "string_unicode" v).getD (.error "string_type")
  path
    | .text s => .ok (Path.ofText s)
    | .path p => .ok p
    | _ => .error "path_type"
  bool
    | .bool b => .ok b
    | .int n =>
      if n = 0 then .ok false else if n = 1 then .ok true else .error "bool_parsing"
    | .float x =>
      if x.toInt? = some 0 then .ok false
      else if x.toInt? = some 1 then .ok true
      else .error "bool_type"
    | v =>
      match letters? "bool_parsing" v with
      | some letters => letters.bind boolOf
      | none => .error "bool_type"
  int
    | .bool b => .ok (if b then 1 else 0)
    | .int n => .ok n
    | .float x =>
      match x.toInt? with
      | some n => .ok n
      | none => .error "int_from_float"
    | v =>
      match letters? "int_parsing" v with
      | some letters => letters.bind fun s =>
        match integer? s with
        | some n => .ok n
        | none => .error "int_parsing"
      | none => .error "int_type"
  items
    | .list vs => .ok vs
    | .tuple vs => .ok vs
    | _ => .error "tuple_type"

end Coercions

end Foundry
