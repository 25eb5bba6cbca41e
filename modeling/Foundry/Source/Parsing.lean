import Foundry.Source.Grammar
import Foundry.Source.Literal
import Foundry.Text.Segments
import Std.Data.HashMap

/-!
Parsing: the grammar run over tokens. A first run decides whether the text is well formed. If it
is not, a second run with the rules for common mistakes looks for the line to report; without a
finding it is the line of the furthest token the first run looked at.
-/

namespace Foundry.Source

open Foundry.Text

/-- The tokens of a text and how its scan ended. -/
structure Input where
  tokens : Array Token
  stop : ScanEnd

/-- The furthest token looked at and the outcomes remembered so far. -/
structure Memory where
  far : Nat
  seen : Std.HashMap (Symbol × Nat) (Option (Tree × Nat))

/-- What became of a parsing expression. `halted` stops the whole run with the line of an error;
`scanned` tells an error of the scan from one of the grammar. -/
inductive Outcome (α : Type)
  | found (value : α) (position : Nat)
  | failed (committed : Bool)
  | halted (line : Nat) (scanned : Bool)

namespace Input

def lineAt (input : Input) (position : Nat) : Nat :=
  match input.tokens[position]? with
  | some t => t.line
  | none => (input.tokens.back?.map (·.line)).getD 1

end Input

/-- The token at a position, which counts as looked at. -/
def look (input : Input) (position : Nat) (mem : Memory) : Outcome Token × Memory :=
  let mem := if mem.far < position then { mem with far := position } else mem
  match input.tokens[position]? with
  | some t => (.found t position, mem)
  | none =>
    match input.stop with
    | .finished => (.failed false, mem)
    | .broken l => (.halted l true, mem)
    | .misplaced l _ => (.halted l true, mem)
    | .unclosed _ b => (.halted b true, mem)

/-- A token that satisfies a test. -/
def expect (input : Input) (test : Token → Bool) (position : Nat) (mem : Memory) :
    Outcome Tree × Memory :=
  match look input position mem with
  | (.found t _, mem) =>
    (if test t then .found (.token t) (position + 1) else .failed false, mem)
  | (.failed c, mem) => (.failed c, mem)
  | (.halted l s, mem) => (.halted l s, mem)

/-! ### Blame -/

/-- The line of the part of an expression that cannot be a target. -/
def offence (use : TargetUse) : Nat → Tree → Option Nat
  | 0, _ => none
  | fuel + 1, t =>
    match t with
    | .token tok => if tok.kind = .name then none else some tok.line
    | .node .group _ cs => (cs.drop 1).head?.bind (offence use fuel)
    | .node .tuple _ cs => (Tree.partsList cs).findSome? (offence use fuel)
    | .node .list _ cs => (Tree.partsList cs).findSome? (offence use fuel)
    | .node .emptyTuple _ _ => none
    | .node .starredItem l cs =>
      if use = .deleted then some l else (cs.drop 1).head?.bind (offence use fuel)
    | .node .comparison l cs =>
      if use = .looped then
        match cs with
        | left :: .list (.node _ _ (.token op :: _) :: _) :: _ =>
          if op.text = "in" then offence use fuel left else none
        | _ => none
      else some l
    | .node .primary l cs =>
      match (Tree.partsList cs).getLast? with
      | some (.node .member _ _) => none
      | some (.node .subscript _ _) => none
      | _ => some l
    | .absent => none
    | .list _ => none
    | other => some (other.lineOr 0)

def isOldStatement : Tree → Bool
  | .token t => t.kind = .name && (t.text == "print" || t.text == "exec")
  | _ => false

/-- Arguments given by position, in the order of the call. -/
def positionalArguments (args : Tree) : List Tree :=
  let parts := Tree.partsList args.children
  parts.filter fun t => match t with
    | .node .keywordArg _ _ => false
    | .node .spreadArg _ _ => false
    | _ => true

/-- The line a recognised mistake is reported on, if it is one. -/
def judge (input : Input) (b : Blame) (parts : List Tree) (position : Nat) (mem : Memory) :
    Option Nat :=
  let lineOf := fun k => ((parts[k]?).bind Tree.line?).getD (input.lineAt position)
  match b with
  | .part k => some (lineOf k)
  | .lastToken => some (input.lineAt mem.far)
  | .target k use => (parts[k]?).bind (offence use (input.tokens.size + 1))
  | .missingComma k =>
    let inside := match input.tokens[position - 1]? with
      | some t => t.depth != 0
      | none => false
    if ((parts[k]?).map isOldStatement).getD false then none
    else if inside then some (lineOf k) else none
  | .oldStatement k =>
    if ((parts[k]?).map isOldStatement).getD false then some (lineOf k) else none
  | .lastArgument k =>
    match (parts[k]?).map positionalArguments with
    | some (a :: b :: rest) => (b :: rest).getLast?.bind Tree.line? |>.orElse fun _ => a.line?
    | _ => none

/-! ### The run -/

/-- The node a finished sequence makes. -/
def makeNode (label : Label) (line : Nat) (children : List Tree) : Tree :=
  match label with
  | .single => (children.find? fun t => match t with
      | .absent => false
      | _ => true).getD .absent
  | .group => .node .group (((children.drop 1).head?.bind Tree.line?).getD line) children
  | _ => .node label line children

def isImaginary : Constant → Bool
  | .imaginary _ => true
  | _ => false

def softKeywords : List String := ["_", "case", "match"]

/-- The string tokens from a position on. -/
def stringTokens (input : Input) : Nat → Nat → Memory → Outcome (List Token) × Memory
  | 0, position, mem => (.found [] position, mem)
  | fuel + 1, position, mem =>
    match look input position mem with
    | (.found t _, mem) =>
      if t.kind = .string then
        match stringTokens input fuel (position + 1) mem with
        | (.found ts after, mem) => (.found (t :: ts) after, mem)
        | other => other
      else (.found [] position, mem)
    | (.failed _, mem) => (.found [] position, mem)
    | (.halted l s, mem) => (.halted l s, mem)

/-- Neighbouring literal pieces made one. -/
def mergeLiterals : List Tree → List Tree
  | .constant l (.text a m) :: .constant _ (.text b _) :: rest =>
    mergeLiterals (.constant l (.text (a ++ b) m) :: rest)
  | t :: rest => t :: mergeLiterals rest
  | [] => []
termination_by ts => ts.length

/-- The outcome of the second run, or the place where the first one got stuck. -/
def finalLine (input : Input) (line : Nat) (far : Nat) : Nat :=
  let unclosed := fun (b : Nat) => if b < input.lineAt far then b else line
  match input.stop with
  | .broken l => l
  | .misplaced _ (some b) => unclosed b
  | .unclosed _ b => unclosed b
  | _ => line

mutual

def runItem : Nat → Input → Bool → Item → Nat → Memory → Outcome Tree × Memory
  | 0, _, _, _, _, mem => (.failed false, mem)
  | fuel + 1, input, searching, item, pos, mem =>
    match item with
    | .literal text =>
      expect input (fun t => (t.kind = .op || t.kind = .keyword) && t.text == text) pos mem
    | .soft text => expect input (fun t => t.kind = .name && t.text == text) pos mem
    | .name => expect input (fun t => t.kind = .name) pos mem
    | .number =>
      match expect input (fun t => t.kind = .number) pos mem with
      | (.found (.token t) after, mem) =>
        (.found (.constant t.line (numberValue t.text)) after, mem)
      | other => other
    | .partOfComplex imaginary =>
      match expect input (fun t => t.kind = .number) pos mem with
      | (.found (.token t) after, mem) =>
        let value := numberValue t.text
        if isImaginary value = imaginary then (.found (.constant t.line value) after, mem)
        else (.halted t.line false, mem)
      | other => other
    | .newline => expect input (fun t => t.kind = .newline) pos mem
    | .indent => expect input (fun t => t.kind = .indent) pos mem
    | .dedent => expect input (fun t => t.kind = .dedent) pos mem
    | .finish => expect input (fun t => t.kind = .finish) pos mem
    | .stringToken => expect input (fun t => t.kind = .string) pos mem
    | .anySoft =>
      expect input (fun t => t.kind = .name && softKeywords.any (startsWith · t.text)) pos mem
    | .forced text =>
      match look input pos mem with
      | (.found t _, mem) =>
        if (t.kind = .op || t.kind = .keyword) && t.text == text then
          (.found (.token t) (pos + 1), mem)
        else (.halted t.line false, mem)
      | (.failed c, mem) => (.failed c, mem)
      | (.halted l s, mem) => (.halted l s, mem)
    | .strings =>
      match stringTokens input (input.tokens.size + 1) pos mem with
      | (.found [] _, mem) => (.failed false, mem)
      | (.found (t :: ts) after, mem) =>
        match runStrings fuel (input.lineAt mem.far) (t :: ts) with
        | .ok tree => (.found tree after, mem)
        | .error l => (.halted l false, mem)
      | (.failed c, mem) => (.failed c, mem)
      | (.halted l s, mem) => (.halted l s, mem)
    | .symbol s =>
      let remembered := Grammar.isRemembered s
      match if remembered then mem.seen[(s, pos)]? else none with
      | some (some (tree, after)) => (.found tree after, mem)
      | some none => (.failed false, mem)
      | none =>
        match runItem fuel input searching (Grammar.rule s) pos mem with
        | (.found tree after, mem) =>
          let mem := if remembered then
            { mem with seen := mem.seen.insert (s, pos) (some (tree, after)) } else mem
          (.found tree after, mem)
        | (.failed _, mem) =>
          let mem := if remembered then
            { mem with seen := mem.seen.insert (s, pos) none } else mem
          (.failed false, mem)
        | (.halted l s, mem) => (.halted l s, mem)
    | .mistake s =>
      if searching then runItem fuel input searching (.symbol s) pos mem
      else (.failed false, mem)
    | .seq items =>
      match runSeq fuel input searching items [] false pos mem with
      | (.found children after, mem) => (.found (.list children) after, mem)
      | (.failed c, mem) => (.failed c, mem)
      | (.halted l s, mem) => (.halted l s, mem)
    | .node label items =>
      match runSeq fuel input searching items [] false pos mem with
      | (.found children after, mem) =>
        (.found (makeNode label (input.lineAt pos) children) after, mem)
      | (.failed c, mem) => (.failed c, mem)
      | (.halted l s, mem) => (.halted l s, mem)
    | .choice alternatives => runChoice fuel input searching alternatives pos mem
    | .optional inner =>
      match runItem fuel input searching inner pos mem with
      | (.failed _, mem) => (.found .absent pos, mem)
      | other => other
    | .many inner => runMany fuel input searching inner [] pos mem
    | .many1 inner =>
      match runItem fuel input searching inner pos mem with
      | (.found tree after, mem) => runMany fuel input searching inner [tree] after mem
      | other => other
    | .gather separator inner =>
      match runItem fuel input searching inner pos mem with
      | (.found tree after, mem) =>
        runMany fuel input searching (.seq [separator, inner]) [tree] after mem
      | other => other
    | .chain label first rest =>
      match runItem fuel input searching first pos mem with
      | (.found tree after, mem) =>
        match runMany fuel input searching rest [] after mem with
        | (.found (.list []) _, mem) => (.found tree after, mem)
        | (.found more last, mem) =>
          (.found (.node label (input.lineAt pos) [tree, more]) last, mem)
        | other => other
      | other => other
    | .ahead inner =>
      match runItem fuel input searching inner pos mem with
      | (.found _ _, mem) => (.found .absent pos, mem)
      | other => other
    | .notAhead inner =>
      match runItem fuel input searching inner pos mem with
      | (.found _ _, mem) => (.failed false, mem)
      | (.failed _, mem) => (.found .absent pos, mem)
      | other => other
    | .commit => (.found .absent pos, mem)
    | .blame _ => (.found .absent pos, mem)
    | .plainly inner => runItem fuel input false inner pos mem

/-- A sequence: the parts found so far, last first, and whether it is committed. -/
def runSeq : Nat → Input → Bool → List Item → List Tree → Bool → Nat → Memory →
    Outcome (List Tree) × Memory
  | 0, _, _, _, _, _, _, mem => (.failed false, mem)
  | fuel + 1, input, searching, items, acc, committed, pos, mem =>
    match items with
    | [] => (.found acc.reverse pos, mem)
    | .commit :: rest => runSeq fuel input searching rest (.absent :: acc) true pos mem
    | .blame b :: _ =>
      match judge input b acc.reverse pos mem with
      | some l => (.halted l false, mem)
      | none => (.failed true, mem)
    | item :: rest =>
      match runItem fuel input searching item pos mem with
      | (.found tree after, mem) =>
        runSeq fuel input searching rest (tree :: acc) committed after mem
      | (.failed _, mem) => (.failed committed, mem)
      | (.halted l s, mem) => (.halted l s, mem)

def runChoice : Nat → Input → Bool → List Item → Nat → Memory → Outcome Tree × Memory
  | 0, _, _, _, _, mem => (.failed false, mem)
  | fuel + 1, input, searching, alternatives, pos, mem =>
    match alternatives with
    | [] => (.failed false, mem)
    | item :: rest =>
      match runItem fuel input searching item pos mem with
      | (.failed false, mem) => runChoice fuel input searching rest pos mem
      | (.failed true, mem) => (.failed false, mem)
      | other => other

def runMany : Nat → Input → Bool → Item → List Tree → Nat → Memory → Outcome Tree × Memory
  | 0, _, _, _, _, _, mem => (.failed false, mem)
  | fuel + 1, input, searching, item, acc, pos, mem =>
    match runItem fuel input searching item pos mem with
    | (.found tree after, mem) =>
      if after = pos then (.found (.list acc.reverse) pos, mem)
      else runMany fuel input searching item (tree :: acc) after mem
    | (.failed _, mem) => (.found (.list acc.reverse) pos, mem)
    | (.halted l s, mem) => (.halted l s, mem)

/-- The value of neighbouring string literals. `last` is the line of the last token looked at. -/
def runStrings : Nat → Nat → List Token → Except Nat Tree
  | 0, last, _ => .error last
  | fuel + 1, last, tokens =>
    match tokens with
    | [] => .error last
    | first :: _ =>
      let isBytes := (StringParts.ofToken first.text).isBytes
      let marked := (StringParts.ofToken first.text).isMarked
      match runStringList fuel last isBytes tokens with
      | .error l => .error l
      | .ok pieces =>
        if isBytes then
          .ok (.constant first.line (.bytes (pieces.flatMap fun p => match p with
            | .constant _ (.bytes bs) => bs
            | _ => [])))
        else if tokens.any fun t => (StringParts.ofToken t.text).isFormatted then
          .ok (.node .joined first.line ((mergeLiterals pieces).filter fun p => match p with
            | .constant _ (.text "" _) => false
            | _ => true))
        else
          .ok (.constant first.line (.text (pieces.foldl (fun s p => match p with
            | .constant _ (.text t _) => s ++ t
            | _ => s) "") marked))

/-- The pieces of string literals one after the other. -/
def runStringList : Nat → Nat → Bool → List Token → Except Nat (List Tree)
  | 0, last, _, _ => .error last
  | fuel + 1, last, isBytes, tokens =>
    match tokens with
    | [] => .ok []
    | t :: rest =>
      let parts := StringParts.ofToken t.text
      if parts.isBytes then
        if parts.body.any fun c => 128 ≤ c.toNat then .error t.line
        else
          match bytesValue parts.isRaw parts.body with
          | none => .error last
          | some bs =>
            if !isBytes then .error last
            else (runStringList fuel last isBytes rest).map (.constant t.line (.bytes bs) :: ·)
      else if parts.isFormatted then
        if isBytes then .error last
        else
          -- The quotes and marks in front of the body hold no line end.
          match runPieces fuel last t.line parts.isRaw
              (rawPieces parts.isRaw (2 * parts.body.length + 4) 0 0 parts.body).1 with
          | .error l => .error l
          | .ok pieces => (runStringList fuel last isBytes rest).map (pieces ++ ·)
      else
        match textValue parts.isRaw parts.body with
        | none => .error last
        | some cs =>
          if isBytes then .error last
          else
            (runStringList fuel last isBytes rest).map
              (.constant t.line (.text (String.ofList cs) false) :: ·)

/-- The pieces of a formatted string with their expressions parsed. -/
def runPieces : Nat → Nat → Nat → Bool → List RawPiece → Except Nat (List Tree)
  | 0, last, _, _, _ => .error last
  | fuel + 1, last, line, raw, pieces =>
    match pieces with
    | [] => .ok []
    | .broken :: _ => .error last
    | .literal cs :: rest =>
      match textValue raw cs with
      | none => .error last
      | some cs =>
        (runPieces fuel last line raw rest).map
          (.constant line (.text (String.ofList cs) false) :: ·)
    | .field offset source shown conversion spec :: rest =>
      let scan := scanAt (line + offset) ('(' :: source ++ [')'])
      match runWhole fuel ⟨scan.tokens.toArray, scan.stop⟩ .starExpressions with
      | .error l => .error l
      | .ok value =>
        let spec : Except Nat Tree := match spec with
          | none => .ok .absent
          | some inner => (runPieces fuel last line raw inner).map fun ps =>
              .list (mergeLiterals ps)
        match spec with
        | .error l => .error l
        | .ok spec =>
          let head := match shown with
            | some cs => [Tree.constant line (.text (String.ofList cs) false)]
            | none => []
          (runPieces fuel last line raw rest).map
            (head ++ Tree.node (.field conversion) line [value, spec] :: ·)

/-- A whole text parsed by a rule, or the line of its error. -/
def runWhole : Nat → Input → Symbol → Except Nat Tree
  | 0, _, _ => .error 0
  | fuel + 1, input, start =>
    match runItem fuel input false (.symbol start) 0 ⟨0, {}⟩ with
    | (.found tree _, _) => .ok tree
    | (.halted l true, _) => .error l
    | (.halted l false, mem) => .error (finalLine input l mem.far)
    | (.failed _, mem) =>
      let stuck := mem.far
      match runItem fuel input true (.symbol start) 0 ⟨stuck, {}⟩ with
      | (.halted l true, _) => .error l
      | (.halted l false, mem) => .error (finalLine input l mem.far)
      | (_, mem) =>
        let indented : Bool := match input.tokens[stuck]? with
          | some t => t.kind = .indent || t.kind = .dedent
          | none => false
        if indented then .error (input.lineAt mem.far)
        else .error (finalLine input (input.lineAt stuck) mem.far)

end

/-- The tree of a whole source text, or the line of its error. -/
def parseTree (cs : List Char) : Except Nat Tree :=
  let scan := scan cs
  let input : Input := ⟨scan.tokens.toArray, scan.stop⟩
  runWhole (400 * input.tokens.size + 4 * cs.length + 2000) input .file

end Foundry.Source
