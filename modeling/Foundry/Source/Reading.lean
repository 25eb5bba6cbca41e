import Foundry.Source.Parsing

/-!
From parse trees to expressions and statements.
-/

namespace Foundry.Source

/-! ### Expressions -/

def binaryOp (text : String) : BinaryOp :=
  match text with
  | "+" => .add
  | "-" => .sub
  | "*" => .mul
  | "@" => .matMul
  | "/" => .div
  | "%" => .mod
  | "**" => .pow
  | "<<" => .shiftLeft
  | ">>" => .shiftRight
  | "|" => .bitOr
  | "^" => .bitXor
  | "&" => .bitAnd
  | _ => .floorDiv

def unaryOp (text : String) : UnaryOp :=
  match text with
  | "+" => .plus
  | "-" => .minus
  | _ => .invert

def compareOp (words : List String) : CompareOp :=
  match words with
  | ["=="] => .eq
  | ["!="] => .notEq
  | ["<"] => .lt
  | ["<="] => .le
  | [">"] => .gt
  | [">="] => .ge
  | ["is"] => .is
  | ["is", "not"] => .isNot
  | ["in"] => .isIn
  | _ => .notIn

/-- The operator words at the head of a comparison. -/
def opWords : Tree → List String
  | .token t => [t.text]
  | .list items => items.map Tree.text
  | _ => []

def tokenExpr (t : Token) : Expr :=
  match t.kind, t.text with
  | .keyword, "True" => .constant (.bool true)
  | .keyword, "False" => .constant (.bool false)
  | .keyword, "None" => .constant .none
  | .op, _ => .constant .ellipsis
  | _, text => .name text

def childAt (cs : List Tree) (k : Nat) : Tree :=
  cs[k]?.getD .absent

/-- The parts of a repetition whose items stand behind a separator. -/
def items (t : Tree) : List Tree :=
  Tree.partsList t.children

def isMissing : Tree → Bool
  | .absent => true
  | _ => false

/-- The second part of an optional sequence such as `= value`. -/
def behind : Tree → Tree
  | .list (_ :: t :: _) => t
  | _ => .absent

mutual

/-- The expression a tree stands for; `fuel` bounds its depth. -/
def exprOf : Nat → Tree → Expr
  | 0, _ => .constant .none
  | fuel + 1, tree =>
    match tree with
    | .absent => .constant .none
    | .token t => tokenExpr t
    | .constant _ v => .constant v
    | .list ts =>
      match Tree.partsList ts with
      | [t] => exprOf fuel t
      | ts => .tuple (ts.map (exprOf fuel))
    | .node label _ cs =>
      match label with
      | .group => exprOf fuel (childAt cs 1)
      | .tuple => .tuple ((Tree.partsList cs).map (exprOf fuel))
      | .emptyTuple => .tuple []
      | .slices => .tuple ((Tree.partsList cs).map (exprOf fuel))
      | .list => .list ((Tree.partsList cs).map (exprOf fuel))
      | .set => .set ((Tree.partsList cs).map (exprOf fuel))
      | .starredItem => .starred (exprOf fuel (childAt cs 1))
      | .starArg => .starred (exprOf fuel (childAt cs 1))
      | .named => .named (childAt cs 0).text (exprOf fuel (childAt cs 3))
      | .conditional =>
        .conditional (exprOf fuel (childAt cs 2)) (exprOf fuel (childAt cs 0))
          (exprOf fuel (childAt cs 4))
      | .orChain => .boolean false (chainOperands fuel cs)
      | .andChain => .boolean true (chainOperands fuel cs)
      | .notOp => .unary .not (exprOf fuel (childAt cs 1))
      | .comparison =>
        .compare (exprOf fuel (childAt cs 0)) ((childAt cs 1).children.map fun tail =>
          .mk (compareOp (opWords (childAt tail.children 0)))
            (exprOf fuel (childAt tail.children 1)))
      | .sumChain | .termChain | .shiftChain | .bitOrChain | .bitXorChain | .bitAndChain =>
        (childAt cs 1).children.foldl
          (fun left step => .binary (binaryOp (childAt step.children 0).text) left
            (exprOf fuel (childAt step.children 1)))
          (exprOf fuel (childAt cs 0))
      | .unary => .unary (unaryOp (childAt cs 0).text) (exprOf fuel (childAt cs 1))
      | .power => .binary .pow (exprOf fuel (childAt cs 0)) (exprOf fuel (childAt cs 2))
      | .awaits => .await (exprOf fuel (childAt cs 1))
      | .primary =>
        match Tree.partsList cs with
        | [] => .constant .none
        | first :: trailers =>
          trailers.foldl (fun value trailer => trailerOf fuel value trailer) (exprOf fuel first)
      | .slice =>
        .slice (optionOf fuel (childAt cs 0)) (optionOf fuel (childAt cs 2))
          (optionOf fuel (behind (childAt cs 3)))
      | .dict =>
        .dict ((items (childAt cs 1)).map fun item => match item with
          | .node .spread _ kv => DictItem.spread (exprOf fuel (childAt kv 1))
          | other => .entry (exprOf fuel (childAt other.children 0))
              (exprOf fuel (childAt other.children 2)))
      | .generator =>
        .generator (exprOf fuel (childAt cs 1)) ((childAt cs 2).children.map (clauseOf fuel))
      | .listComp =>
        .listComp (exprOf fuel (childAt cs 1)) ((childAt cs 2).children.map (clauseOf fuel))
      | .setComp =>
        .setComp (exprOf fuel (childAt cs 1)) ((childAt cs 2).children.map (clauseOf fuel))
      | .dictComp =>
        let kv := (childAt cs 1).children
        .dictComp (exprOf fuel (childAt kv 0)) (exprOf fuel (childAt kv 2))
          ((childAt cs 2).children.map (clauseOf fuel))
      | .lambda => .lambda (paramsOf fuel (childAt cs 1)) (exprOf fuel (childAt cs 3))
      | .yield => .yield (optionOf fuel (childAt cs 1))
      | .yieldFrom => .yieldFrom (exprOf fuel (childAt cs 2))
      | .joined => .joined (cs.map (pieceOf fuel))
      | _ => .constant .none

def optionOf : Nat → Tree → Option Expr
  | 0, _ => none
  | fuel + 1, tree => if isMissing tree then none else some (exprOf fuel tree)

/-- The operands of a chain of one operator. -/
def chainOperands : Nat → List Tree → List Expr
  | 0, _ => []
  | fuel + 1, cs =>
    exprOf fuel (childAt cs 0) ::
      (childAt cs 1).children.map fun step => exprOf fuel (childAt step.children 1)

/-- An expression followed by an attribute, a call or a subscript. -/
def trailerOf : Nat → Expr → Tree → Expr
  | 0, value, _ => value
  | fuel + 1, value, trailer =>
    match trailer with
    | .node .member _ cs => .member value (childAt cs 1).text
    | .node .callGenerator _ cs => .call value [exprOf fuel (childAt cs 0)] []
    | .node .call _ cs => callOf fuel value (childAt cs 1)
    | .node .subscript _ cs => .subscript value (exprOf fuel (childAt cs 1))
    | _ => value

/-- A call with its arguments; starred ones count as given by position. -/
def callOf : Nat → Expr → Tree → Expr
  | 0, value, _ => value
  | fuel + 1, value, args =>
    let parts := items args
    .call value ((positionalArguments args).map (exprOf fuel))
      (parts.filterMap fun t => match t with
        | .node .keywordArg _ cs =>
          some (Keyword.mk (some (childAt cs 0).text) (exprOf fuel (childAt cs 2)))
        | .node .spreadArg _ cs => some (.mk none (exprOf fuel (childAt cs 1)))
        | _ => none)

def clauseOf : Nat → Tree → Clause
  | 0, _ => .mk false (.constant .none) (.constant .none) []
  | fuel + 1, tree =>
    match tree with
    | .node .asyncClause _ cs =>
      .mk true (exprOf fuel (childAt cs 2)) (exprOf fuel (childAt cs 5))
        ((childAt cs 6).children.map fun c => exprOf fuel (childAt c.children 1))
    | other =>
      let cs := other.children
      .mk false (exprOf fuel (childAt cs 1)) (exprOf fuel (childAt cs 4))
        ((childAt cs 5).children.map fun c => exprOf fuel (childAt c.children 1))

def pieceOf : Nat → Tree → Piece
  | 0, _ => .literal ""
  | fuel + 1, tree =>
    match tree with
    | .constant _ (.text s _) => .literal s
    | .node (.field conversion) _ cs =>
      .field (exprOf fuel (childAt cs 0)) conversion
        (match childAt cs 1 with
          | .list ps => some (ps.map (pieceOf fuel))
          | _ => none)
    | _ => .literal ""

/-- A parameter with its annotation and default. -/
def paramOf : Nat → Tree → Param
  | 0, _ => .mk "" none none
  | fuel + 1, tree =>
    match tree with
    | .node .defaultParam _ cs =>
      let inner := (childAt cs 0).children
      .mk (childAt inner 0).text (optionOf fuel (behind (childAt inner 1)))
        (optionOf fuel (behind (childAt cs 1)))
    | .node .plainParam _ cs =>
      let inner := (childAt cs 0).children
      .mk (childAt inner 0).text (optionOf fuel (behind (childAt inner 1))) none
    | _ => .mk "" none none

/-- A parameter list. -/
def paramsOf : Nat → Tree → Params
  | 0, _ => .mk [] [] none [] none
  | fuel + 1, tree =>
    let parts := Tree.partsList tree.children
    let posOnly := parts.flatMap fun t => match t with
      | .node .slash _ cs => (Tree.partsList cs).map (paramOf fuel)
      | _ => []
    let args := parts.filterMap fun t => match t with
      | .node .plainParam _ _ => some (paramOf fuel t)
      | .node .defaultParam _ _ => some (paramOf fuel t)
      | _ => none
    let tail := parts.flatMap fun t => match t with
      | .node .starParam _ cs => Tree.partsList cs
      | .node .bareStar _ cs => Tree.partsList cs
      | .node .kwParam l cs => [.node .kwParam l cs]
      | _ => []
    let vararg := parts.findSome? fun t => match t with
      | .node .starParam _ cs => some (paramOf fuel (childAt cs 1))
      | _ => none
    let kwOnly := (tail.filter fun t => match t with
      | .node .defaultParam _ _ => true
      | _ => false).map (paramOf fuel)
    let kwarg := tail.findSome? fun t => match t with
      | .node .kwParam _ cs => some (paramOf fuel (childAt cs 1))
      | _ => none
    .mk posOnly args vararg kwOnly kwarg

end

/-! ### Statements -/

/-- A dotted name. -/
def dottedText : Tree → String
  | .token t => t.text
  | .node _ _ cs => match cs with
    | first :: rest => (Tree.partsList rest).foldl (fun s t => s ++ "." ++ t.text) first.text
    | [] => ""
  | _ => ""

def aliasOf (t : Tree) : Alias :=
  let cs := t.children
  ⟨dottedText (childAt cs 0),
    match childAt cs 1 with
    | .list (_ :: n :: _) => some n.text
    | _ => none⟩

/-- Dots in front of an import. -/
def levelOf (t : Tree) : Nat :=
  t.children.foldl (fun n d => n + (if d.text == "..." then 3 else 1)) 0

/-- The names an import takes over. -/
def importTargets : Tree → List Alias
  | .node .importStar _ _ => [⟨"*", none⟩]
  | .node .part _ cs => (items (childAt cs 1)).map aliasOf
  | t => (items t).map aliasOf

mutual

/-- The statements a tree stands for. -/
def stmtsOf : Nat → Tree → List Stmt
  | 0, _ => []
  | fuel + 1, tree =>
    match tree with
    | .absent => []
    | .list ts => ts.flatMap (stmtsOf fuel)
    | .node .block _ cs => stmtsOf fuel (childAt cs 2)
    | .node .line _ cs => (items (childAt cs 0)).flatMap (stmtsOf fuel)
    | .node .decorated _ cs =>
      let decorators := (childAt cs 0).children.map fun d => childAt d.children 1
      match childAt cs 1 with
      | .node .classDef l inner => [classOf fuel l decorators inner]
      | .node .functionDef l inner => [functionOf fuel l decorators inner]
      | _ => []
    | .node .classDef l cs => [classOf fuel l [] cs]
    | .node .functionDef l cs => [functionOf fuel l [] cs]
    | .node .assign _ cs =>
      [.assign ((childAt cs 0).children.map fun t => exprOf fuel (childAt t.children 0))
        (exprOf fuel (childAt cs 1))]
    | .node .annotated _ cs =>
      [.annotated (exprOf fuel (childAt cs 0)) (exprOf fuel (childAt cs 2))
        (optionOf fuel (behind (childAt cs 3)))]
    | .node .importNames _ cs => [.importNames ((items (childAt cs 1)).map aliasOf)]
    | .node .importFrom _ cs =>
      let level := levelOf (childAt cs 1)
      if cs.length = 5 then
        [.importFrom (some (dottedText (childAt cs 2))) (importTargets (childAt cs 4)) level]
      else [.importFrom none (importTargets (childAt cs 3)) level]
    | .node .ifElse _ cs =>
      [.ifElse (exprOf fuel (childAt cs 1)) (stmtsOf fuel (childAt cs 3))
        (stmtsOf fuel (childAt cs 4))]
    | .node .elseBlock _ cs => stmtsOf fuel (childAt cs 2)
    | .node .finallyBlock _ cs => stmtsOf fuel (childAt cs 2)
    | .node .withBlock _ cs => [.withBlock (stmtsOf fuel (cs.getLast?.getD .absent))]
    | .node .tryBlock _ cs =>
      let rest := cs.drop 3
      let handlers := rest.flatMap fun t => match t with
        | .list hs => hs.map fun h =>
            Handler.mk (stmtsOf fuel (h.children.getLast?.getD .absent))
        | _ => []
      let orelse := rest.flatMap fun t => match t with
        | .node .elseBlock _ _ => stmtsOf fuel t
        | _ => []
      let final := rest.flatMap fun t => match t with
        | .node .finallyBlock _ _ => stmtsOf fuel t
        | _ => []
      [.tryBlock (stmtsOf fuel (childAt cs 2)) handlers orelse final]
    | .node .returns _ cs => [.returns (optionOf fuel (childAt cs 1))]
    | .node .raises _ cs => [.raises (optionOf fuel (childAt cs 1))]
    | .node .pass _ _ => [.pass]
    | .node .inert _ _ => [.inert]
    | .node .augmented _ _ => [.inert]
    | other => [.expression (exprOf fuel other)]

def classOf : Nat → Nat → List Tree → List Tree → Stmt
  | 0, _, _, _ => .inert
  | fuel + 1, line, decorators, cs =>
    let start := ((decorators.head?.bind Tree.line?).getD line)
    let call := callOf fuel (.constant .none) (match childAt cs 2 with
      | .list (_ :: args :: _) => args
      | _ => .absent)
    let (bases, keywords) := match call with
      | .call _ args kws => (args, kws)
      | _ => ([], [])
    .classDef line start (childAt cs 1).text bases keywords (decorators.map (exprOf fuel))
      (stmtsOf fuel (childAt cs 4))

def functionOf : Nat → Nat → List Tree → List Tree → Stmt
  | 0, _, _, _ => .inert
  | fuel + 1, line, decorators, cs =>
    let cs := if (childAt cs 0).text == "async" then cs.drop 1 else cs
    let start := ((decorators.head?.bind Tree.line?).getD line)
    .functionDef line start (childAt cs 1).text (paramsOf fuel (childAt cs 3))
      (decorators.map (exprOf fuel)) (stmtsOf fuel (childAt cs 7))

end

/-- The statements of a source text, or the line of its error. -/
def parse (cs : List Char) : Except Nat (List Stmt) :=
  match parseTree cs with
  | .error l => .error l
  | .ok tree => .ok (stmtsOf (8 * cs.length + 100) (childAt tree.children 0))

end Foundry.Source
