import Foundry.Source.Syntax
import Foundry.Value

/-!
The text of an expression: one space around operators, brackets only where the binding of the
operators asks for them, quoted strings. A formatted string whose fields would need a backslash
has no text, and a whole number of too many digits has none.
-/

namespace Foundry.Source

open Foundry.Decimal Foundry.Text

/-! ### Binding strength -/

namespace Binding

def named : Nat := 1
def tuple : Nat := 2
def yield : Nat := 3
def test : Nat := 4
def or : Nat := 5
def and : Nat := 6
def not : Nat := 7
def compare : Nat := 8
def expr : Nat := 9
def bitXor : Nat := 10
def bitAnd : Nat := 11
def shift : Nat := 12
def arith : Nat := 13
def term : Nat := 14
def factor : Nat := 15
def power : Nat := 16
def await : Nat := 17
def atom : Nat := 18

/-- The next stronger binding. -/
def next (n : Nat) : Nat :=
  min (n + 1) atom

end Binding

def BinaryOp.sign : BinaryOp → String
  | .add => "+" | .sub => "-" | .mul => "*" | .matMul => "@" | .div => "/" | .mod => "%"
  | .pow => "**" | .shiftLeft => "<<" | .shiftRight => ">>" | .bitOr => "|" | .bitXor => "^"
  | .bitAnd => "&" | .floorDiv => "//"

def BinaryOp.binding : BinaryOp → Nat
  | .add | .sub => Binding.arith
  | .mul | .matMul | .div | .mod | .floorDiv => Binding.term
  | .pow => Binding.power
  | .shiftLeft | .shiftRight => Binding.shift
  | .bitOr => Binding.expr
  | .bitXor => Binding.bitXor
  | .bitAnd => Binding.bitAnd

def CompareOp.sign : CompareOp → String
  | .eq => "==" | .notEq => "!=" | .lt => "<" | .le => "<=" | .gt => ">" | .ge => ">="
  | .is => "is" | .isNot => "is not" | .isIn => "in" | .notIn => "not in"

/-! ### Strings -/

/-- A character of a string that keeps its line ends and tabs unless `layout` escapes them. -/
def escapeChar (layout : Bool) (c : Char) : List Char :=
  if !layout && (c == '\n' || c == '\t') then [c]
  else if c = '\\' then ['\\', '\\']
  else if isPrintable c then [c]
  else if c = '\n' then ['\\', 'n']
  else if c = '\t' then ['\\', 't']
  else if c = '\r' then ['\\', 'r']
  else escapePoint c.toNat

def allQuotes : List String := ["'", "\"", "\"\"\"", "'''"]

/-- The text between the quotes of a literal with few escapes, and the quotes that can be used,
best first. -/
def literalBody (quotes : List String) (layout : Bool) (s : String) : String × List String :=
  let escaped := s.toList.flatMap (escapeChar layout)
  let possible := if escaped.contains '\n' then quotes.filter (·.length == 3) else quotes
  let possible := possible.filter fun q => !occursIn q.toList escaped
  match possible with
  | [] =>
    let q := quoted s
    let quote := q.toList.head?.getD '\''
    let choice := (quotes.find? fun t => t.toList.contains quote).getD (String.singleton quote)
    (String.ofList ((q.toList.drop 1).dropLast), [choice])
  | _ =>
    match escaped.getLast? with
    | none => ("", possible)
    | some last =>
      let clash := fun (q : String) => q.toList.head? == some last
      let sorted := possible.filter (fun q => !clash q) ++ possible.filter clash
      let escaped := match sorted with
        | q :: _ => if clash q then escaped.dropLast ++ ['\\', last] else escaped
        | [] => escaped
      (String.ofList escaped, sorted)

/-- A string literal that avoids backslashes where it can. -/
def plainLiteral (s : String) : String :=
  let (body, quotes) := literalBody allQuotes false s
  let q := quotes.headD "'"
  q ++ body ++ q

/-- Quotes that fit every part of a formatted string, chosen part by part. -/
def fitParts : List (String × Bool) → List String → Option (List String × List String)
  | [], quotes => some ([], quotes)
  | (value, isLiteral) :: rest, quotes =>
    let (body, fitting) := literalBody quotes isLiteral value
    if fitting.all fun q => !quotes.contains q then none
    else (fitParts rest fitting).map fun (bodies, qs) => (body :: bodies, qs)

/-- The text of a formatted string from the texts of its parts. -/
def joinedLiteral (parts : List (String × Bool)) : String :=
  match fitParts parts allQuotes with
  | some (bodies, quotes) =>
    let q := quotes.headD "'"
    "f" ++ q ++ String.join bodies ++ q
  | none =>
    let bodies := parts.map fun (value, _) =>
      String.ofList (((quoted ("\"" ++ value)).toList.drop 2).dropLast)
    "f'''" ++ String.join bodies ++ "'''"

def doubleBraces (s : String) : String :=
  String.ofList (s.toList.flatMap fun c => if c = '\x7b' ∨ c = '\x7d' then [c, c] else [c])

/-! ### Constants -/

def infinityText : String := "1e309"

def floatText (whole : Bool) (x : Binary64) : String :=
  match x with
  | .infinite _ => infinityText
  | other => other.textWith whole

/-- The text of a literal value. -/
def Constant.text' (plain : Bool) : Constant → Except Unshown String
  | .none => .ok "None"
  | .bool b => .ok (if b then "True" else "False")
  | .ellipsis => .ok "..."
  | .int n => Value.reprInt n
  | .float x => .ok (floatText true x)
  | .imaginary x => .ok (floatText false x ++ "j")
  | .text s marked =>
    .ok ((if marked then "u" else "") ++ (if plain then plainLiteral s else quoted s))
  | .bytes bs => .ok (quotedBytes bs)

/-- What is raised for a field of a formatted string whose text has a backslash. -/
def backslashed : Unshown :=
  .raised "ValueError" "Unable to avoid backslash in f-string expression part"

/-! ### Expressions -/

def bracketed (needed : Bool) (s : String) : String :=
  if needed then "(" ++ s ++ ")" else s

def commaList (parts : List String) : String :=
  join ", " parts

/-- Elements of a tuple; a single one is followed by a comma. -/
def tupleItems (parts : List String) : String :=
  match parts with
  | [p] => p ++ ","
  | ps => commaList ps

/-- The text of a parameter list from the texts of its parts. -/
def paramsText (posOnly args : List String) (vararg : Option String) (kwOnly : List String)
    (kwarg : Option String) : String :=
  let slash := if posOnly.isEmpty then [] else ["/"]
  let star := match vararg with
    | some v => ["*" ++ v]
    | none => if kwOnly.isEmpty then [] else ["*"]
  let spread := match kwarg with
    | some k => ["**" ++ k]
    | none => []
  commaList (posOnly ++ slash ++ args ++ star ++ kwOnly ++ spread)

mutual

/-- The text of an expression where something of strength `b` is needed. `plain` asks for strings
without backslashes. -/
def Expr.show (plain : Bool) (b : Nat) : Expr → Except Unshown String
  | .boolean isAnd operands => do
    let strength := if isAnd then Binding.and else Binding.or
    let parts ← Expr.showRising plain (Binding.next strength) operands
    return bracketed (strength < b) (join (if isAnd then " and " else " or ") parts)
  | .named target value => do
    let v ← value.show plain Binding.atom
    return bracketed (Binding.named < b) (target ++ " := " ++ v)
  | .binary op left right => do
    let s := op.binding
    let rising := op matches .pow
    let l ← left.show plain (if rising then Binding.next s else s)
    let r ← right.show plain (if rising then s else Binding.next s)
    return bracketed (s < b) (l ++ " " ++ op.sign ++ " " ++ r)
  | .unary op operand =>
    match op with
    | .not => do
      let e ← operand.show plain Binding.not
      return bracketed (Binding.not < b) ("not " ++ e)
    | .invert => do
      let e ← operand.show plain Binding.factor
      return bracketed (Binding.factor < b) ("~" ++ e)
    | .plus => do
      let e ← operand.show plain Binding.factor
      return bracketed (Binding.factor < b) ("+" ++ e)
    | .minus => do
      let e ← operand.show plain Binding.factor
      return bracketed (Binding.factor < b) ("-" ++ e)
  | .lambda params body => do
    let ps ← params.show plain
    let e ← body.show plain Binding.test
    let head := if ps.isEmpty then "lambda" else "lambda " ++ ps
    return bracketed (Binding.test < b) (head ++ ": " ++ e)
  | .conditional test body orelse => do
    let x ← body.show plain (Binding.next Binding.test)
    let t ← test.show plain (Binding.next Binding.test)
    let y ← orelse.show plain Binding.test
    return bracketed (Binding.test < b) (x ++ " if " ++ t ++ " else " ++ y)
  | .dict items => do
    let parts ← DictItem.showList plain items
    return "\x7b" ++ commaList parts ++ "\x7d"
  | .set elements => do
    let parts ← Expr.showList plain Binding.test elements
    return if parts.isEmpty then "\x7b*()\x7d" else "\x7b" ++ commaList parts ++ "\x7d"
  | .listComp element clauses => do
    let e ← element.show plain Binding.test
    let c ← Clause.showList plain clauses
    return "[" ++ e ++ c ++ "]"
  | .setComp element clauses => do
    let e ← element.show plain Binding.test
    let c ← Clause.showList plain clauses
    return "\x7b" ++ e ++ c ++ "\x7d"
  | .dictComp key value clauses => do
    let k ← key.show plain Binding.test
    let v ← value.show plain Binding.test
    let c ← Clause.showList plain clauses
    return "\x7b" ++ k ++ ": " ++ v ++ c ++ "\x7d"
  | .generator element clauses => do
    let e ← element.show plain Binding.test
    let c ← Clause.showList plain clauses
    return "(" ++ e ++ c ++ ")"
  | .await value => do
    let e ← value.show plain Binding.atom
    return bracketed (Binding.await < b) ("await " ++ e)
  | .yield value => do
    let e ← Expr.showOption plain Binding.atom value
    return bracketed (Binding.yield < b) (match e with
      | some v => "yield " ++ v
      | none => "yield")
  | .yieldFrom value => do
    let e ← value.show plain Binding.atom
    return bracketed (Binding.yield < b) ("yield from " ++ e)
  | .compare left rest => do
    let l ← left.show plain (Binding.next Binding.compare)
    let r ← Comparison.showList plain rest
    return bracketed (Binding.compare < b) (l ++ r)
  | .call function args keywords => do
    let f ← function.show plain Binding.atom
    let a ← Expr.showList plain Binding.test args
    let k ← Keyword.showList plain keywords
    return f ++ "(" ++ commaList (a ++ k) ++ ")"
  | .joined pieces => do
    let parts ← Piece.showList pieces
    return if plain then "f" ++ plainLiteral (String.join (parts.map (·.1)))
      else joinedLiteral parts
  | .constant value => value.text' plain
  | .member value name => do
    let e ← value.show plain Binding.atom
    let gap := match value with
      | .constant (.int _) => " "
      | .constant (.bool _) => " "
      | _ => ""
    return e ++ gap ++ "." ++ name
  | .subscript value index => do
    let e ← value.show plain Binding.atom
    let i ← match index with
      | .tuple (x :: xs) => (Expr.showList plain Binding.test (x :: xs)).map tupleItems
      | other => other.show plain Binding.test
    return e ++ "[" ++ i ++ "]"
  | .starred value => do
    let e ← value.show plain Binding.expr
    return "*" ++ e
  | .name id => .ok id
  | .list elements => do
    let parts ← Expr.showList plain Binding.test elements
    return "[" ++ commaList parts ++ "]"
  | .tuple elements => do
    let parts ← Expr.showList plain Binding.test elements
    return bracketed (parts.isEmpty || Binding.tuple < b) (tupleItems parts)
  | .slice lower upper step => do
    let l ← Expr.showOption plain Binding.test lower
    let u ← Expr.showOption plain Binding.test upper
    let s ← Expr.showOption plain Binding.test step
    return l.getD "" ++ ":" ++ u.getD "" ++ (match s with
      | some t => ":" ++ t
      | none => "")

def Expr.showList (plain : Bool) (b : Nat) : List Expr → Except Unshown (List String)
  | [] => .ok []
  | e :: es => do
    let t ← e.show plain b
    let ts ← Expr.showList plain b es
    return t :: ts

/-- Operands of which each asks for a stronger binding than the one before. -/
def Expr.showRising (plain : Bool) (b : Nat) : List Expr → Except Unshown (List String)
  | [] => .ok []
  | e :: es => do
    let t ← e.show plain b
    let ts ← Expr.showRising plain (Binding.next b) es
    return t :: ts

def Expr.showOption (plain : Bool) (b : Nat) : Option Expr → Except Unshown (Option String)
  | none => .ok none
  | some e => (e.show plain b).map some

def DictItem.showList (plain : Bool) : List DictItem → Except Unshown (List String)
  | [] => .ok []
  | .entry key value :: rest => do
    let k ← key.show plain Binding.test
    let v ← value.show plain Binding.test
    let ts ← DictItem.showList plain rest
    return (k ++ ": " ++ v) :: ts
  | .spread value :: rest => do
    let v ← value.show plain Binding.expr
    let ts ← DictItem.showList plain rest
    return ("**" ++ v) :: ts

def Clause.showList (plain : Bool) : List Clause → Except Unshown String
  | [] => .ok ""
  | .mk isAsync target iter conditions :: rest => do
    let t ← target.show plain Binding.tuple
    let i ← iter.show plain (Binding.next Binding.test)
    let cs ← Expr.showList plain (Binding.next Binding.test) conditions
    let ts ← Clause.showList plain rest
    return (if isAsync then " async for " else " for ") ++ t ++ " in " ++ i ++
      String.join (cs.map (" if " ++ ·)) ++ ts

def Comparison.showList (plain : Bool) : List Comparison → Except Unshown String
  | [] => .ok ""
  | .mk op right :: rest => do
    let r ← right.show plain (Binding.next Binding.compare)
    let ts ← Comparison.showList plain rest
    return " " ++ op.sign ++ " " ++ r ++ ts

def Keyword.showList (plain : Bool) : List Keyword → Except Unshown (List String)
  | [] => .ok []
  | .mk name value :: rest => do
    let v ← value.show plain Binding.test
    let ts ← Keyword.showList plain rest
    return (match name with
      | some n => n ++ "=" ++ v
      | none => "**" ++ v) :: ts

/-- The parts of a formatted string, each with whether it is literal text. -/
def Piece.showList : List Piece → Except Unshown (List (String × Bool))
  | [] => .ok []
  | .literal text :: rest => do
    let ts ← Piece.showList rest
    return (doubleBraces text, true) :: ts
  | .field value conversion spec :: rest => do
    let e ← value.show true (Binding.next Binding.test)
    if e.toList.contains '\\' then .error backslashed
    else
      let s ← Piece.showSpec spec
      let ts ← Piece.showList rest
      let gap := if startsWith e "\x7b" then " " else ""
      let mark := match conversion with
        | some c => "!" ++ String.singleton c
        | none => ""
      return ("\x7b" ++ gap ++ e ++ mark ++ s ++ "\x7d", false) :: ts

def Piece.showSpec : Option (List Piece) → Except Unshown String
  | none => .ok ""
  | some pieces => do
    let parts ← Piece.showList pieces
    return ":" ++ String.join (parts.map (·.1))

def Param.showList (plain : Bool) : List Param → Except Unshown (List String)
  | [] => .ok []
  | .mk name hint default :: rest => do
    let a ← Expr.showOption plain Binding.test hint
    let d ← Expr.showOption plain Binding.test default
    let ts ← Param.showList plain rest
    return (name ++ (match a with
      | some t => ": " ++ t
      | none => "") ++ (match d with
      | some t => "=" ++ t
      | none => "")) :: ts

def Param.showOption (plain : Bool) : Option Param → Except Unshown (Option String)
  | none => .ok none
  | some (.mk name hint _) => do
    let a ← Expr.showOption plain Binding.test hint
    return some (name ++ (match a with
      | some t => ": " ++ t
      | none => ""))

def Params.show (plain : Bool) : Params → Except Unshown String
  | .mk posOnly args vararg kwOnly kwarg => do
    let p ← Param.showList plain posOnly
    let a ← Param.showList plain args
    let v ← Param.showOption plain vararg
    let k ← Param.showList plain kwOnly
    let w ← Param.showOption plain kwarg
    return paramsText p a v k w

end

/-- The text of an expression on its own. -/
def Expr.text (e : Expr) : Except Unshown String :=
  e.show false Binding.test

end Foundry.Source
