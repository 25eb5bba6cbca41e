import Foundry.Source.Syntax
import Foundry.Source.Token

/-!
Parse trees: tokens, repetitions and labelled nodes, each with the line it starts on.
-/

namespace Foundry.Source

/-- What a node of a parse tree stands for. -/
inductive Label
  | file | line | single | block
  | assign | augmented | annotated | returns | raises | pass | inert
  | importNames | importFrom | importAlias | importStar | dottedName
  | decorated | decorator | classDef | functionDef
  | params | slash | param | plainParam | defaultParam | starParam | bareStar | kwParam
  | ifElse | withBlock | tryBlock | handler | elseBlock | finallyBlock
  | tuple | starredItem | named | conditional | orChain | andChain | notOp
  | comparison | compareTail | sumChain | termChain | shiftChain | bitOrChain | bitXorChain
  | bitAndChain | unary | power | awaits | primary | member | callGenerator | call | subscript
  | slices | slice | group | emptyTuple | list | set | dict | entry | spread
  | generator | listComp | setComp | dictComp | clause | asyncClause | condition
  | lambda | yield | yieldFrom | keywordArg | spreadArg | starArg | arguments
  | joined | field (conversion : Option Char)
  | part
deriving DecidableEq, Repr

inductive Tree
  | absent
  | token (t : Token)
  | constant (line : Nat) (value : Constant)
  | list (items : List Tree)
  | node (label : Label) (line : Nat) (children : List Tree)

instance : Inhabited Tree := ⟨.absent⟩

namespace Tree

/-- The line a tree starts on. -/
def line? : Tree → Option Nat
  | .absent => none
  | .token t => some t.line
  | .constant l _ => some l
  | .list [] => none
  | .list (x :: _) => x.line?
  | .node _ l _ => some l

def lineOr (t : Tree) (default : Nat) : Nat :=
  t.line?.getD default

def children : Tree → List Tree
  | .list items => items
  | .node _ _ cs => cs
  | _ => []

/-- The name a token holds. -/
def text : Tree → String
  | .token t => t.text
  | _ => ""

end Tree

mutual

/-- The operands a tree contributes: everything but operators and layout. -/
def Tree.parts : Tree → List Tree
  | .absent => []
  | .token t =>
    match t.kind with
    | .name | .keyword | .number => [.token t]
    | .op => if t.text == "..." then [.token t] else []
    | _ => []
  | .constant l v => [.constant l v]
  | .list items => Tree.partsList items
  | .node l n cs => [.node l n cs]

def Tree.partsList : List Tree → List Tree
  | [] => []
  | t :: ts => t.parts ++ Tree.partsList ts

end

end Foundry.Source
