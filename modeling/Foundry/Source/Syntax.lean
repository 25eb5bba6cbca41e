import Foundry.Decimal.Binary64

/-!
Expressions and statements of source text. Statements that bind no class, import or attribute
are kept without their parts.
-/

namespace Foundry.Source

open Foundry.Decimal

/-- A literal value. A text literal may carry the letter `u` in front. -/
inductive Constant
  | none
  | bool (b : Bool)
  | ellipsis
  | int (n : Nat)
  | float (x : Binary64)
  | imaginary (x : Binary64)
  | text (s : String) (marked : Bool)
  | bytes (bs : List UInt8)
deriving DecidableEq, Repr

inductive BinaryOp
  | add | sub | mul | matMul | div | mod | pow | shiftLeft | shiftRight | bitOr | bitXor | bitAnd
  | floorDiv
deriving DecidableEq, Repr

inductive UnaryOp
  | invert | not | plus | minus
deriving DecidableEq, Repr

inductive CompareOp
  | eq | notEq | lt | le | gt | ge | is | isNot | isIn | notIn
deriving DecidableEq, Repr

mutual

inductive Expr
  | boolean (isAnd : Bool) (operands : List Expr)
  | named (target : String) (value : Expr)
  | binary (op : BinaryOp) (left right : Expr)
  | unary (op : UnaryOp) (operand : Expr)
  | lambda (params : Params) (body : Expr)
  | conditional (test body orelse : Expr)
  | dict (items : List DictItem)
  | set (elements : List Expr)
  | listComp (element : Expr) (clauses : List Clause)
  | setComp (element : Expr) (clauses : List Clause)
  | dictComp (key value : Expr) (clauses : List Clause)
  | generator (element : Expr) (clauses : List Clause)
  | await (value : Expr)
  | yield (value : Option Expr)
  | yieldFrom (value : Expr)
  | compare (left : Expr) (rest : List Comparison)
  | call (function : Expr) (args : List Expr) (keywords : List Keyword)
  | joined (pieces : List Piece)
  | constant (value : Constant)
  | member (value : Expr) (name : String)
  | subscript (value index : Expr)
  | starred (value : Expr)
  | name (id : String)
  | list (elements : List Expr)
  | tuple (elements : List Expr)
  | slice (lower upper step : Option Expr)

inductive DictItem
  | entry (key value : Expr)
  | spread (value : Expr)

/-- One `for` of a comprehension with its conditions. -/
inductive Clause
  | mk (isAsync : Bool) (target iter : Expr) (conditions : List Expr)

inductive Comparison
  | mk (op : CompareOp) (right : Expr)

/-- A keyword argument; one without a name spreads a mapping. -/
inductive Keyword
  | mk (name : Option String) (value : Expr)

/-- A piece of a formatted text. -/
inductive Piece
  | literal (text : String)
  | field (value : Expr) (conversion : Option Char) (spec : Option (List Piece))

inductive Param
  | mk (name : String) (hint default : Option Expr)

inductive Params
  | mk (posOnly args : List Param) (vararg : Option Param) (kwOnly : List Param)
      (kwarg : Option Param)

end

instance : Inhabited Expr := ⟨.constant .none⟩
instance : Inhabited Params := ⟨.mk [] [] none [] none⟩

namespace Keyword

def name : Keyword → Option String
  | .mk n _ => n

def value : Keyword → Expr
  | .mk _ v => v

end Keyword

namespace Param

def default : Param → Option Expr
  | .mk _ _ d => d

end Param

namespace Params

/-- Parameters that can be given by position. -/
def positional : Params → List Param
  | .mk p a _ _ _ => p ++ a

def kwOnly : Params → List Param
  | .mk _ _ _ k _ => k

end Params

/-- A name in an import and the name it is bound to. -/
structure Alias where
  name : String
  asName : Option String
deriving DecidableEq, Repr

mutual

/-- A statement. A definition knows the line of its keyword and the line it starts on, which is
that of its first decorator. -/
inductive Stmt
  | classDef (line start : Nat) (name : String) (bases : List Expr) (keywords : List Keyword)
      (decorators : List Expr) (body : List Stmt)
  | functionDef (line start : Nat) (name : String) (params : Params) (decorators : List Expr)
      (body : List Stmt)
  | assign (targets : List Expr) (value : Expr)
  | annotated (target hint : Expr) (value : Option Expr)
  | importNames (aliases : List Alias)
  | importFrom (source : Option String) (aliases : List Alias) (level : Nat)
  | ifElse (test : Expr) (body orelse : List Stmt)
  | tryBlock (body : List Stmt) (handlers : List Handler) (orelse final : List Stmt)
  | withBlock (body : List Stmt)
  | expression (value : Expr)
  | returns (value : Option Expr)
  | raises (value : Option Expr)
  | pass
  | inert

inductive Handler
  | mk (body : List Stmt)

end

instance : Inhabited Stmt := ⟨.pass⟩

end Foundry.Source
