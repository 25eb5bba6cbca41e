import Foundry.Ordered
import Foundry.Value
import Foundry.Text.Blank

/-!
Tracing: spans around phases of work, with attributes, and dotted names of spans.
-/

namespace Foundry

open Foundry.Text

/-- A span: its name, its attributes, the kinds of the faults recorded in it, and the description
of the failure it ended with. -/
structure Span where
  name : String
  attributes : Ordered String Value
  faults : List String
  failure : Option String
deriving Repr

namespace Span

/-- Values a span can carry on their own. -/
def isScalar : Value → Bool
  | .bool _ => true
  | .text _ => true
  | .bytes _ => true
  | .int _ => true
  | .float _ => true
  | _ => false

/-- The form in which a value is carried: scalars as they are, sequences without the elements
that are no scalars, unless none is left. -/
def carried (v : Value) : Option Value :=
  match v with
  | .tuple vs => if (vs.filter isScalar).isEmpty then none else some (.list (vs.filter isScalar))
  | .list vs => if (vs.filter isScalar).isEmpty then none else some (.list (vs.filter isScalar))
  | v => if isScalar v then some v else none

def set (s : Span) (key : String) (v : Value) : Span :=
  { s with attributes := s.attributes.insert key v }

/-- A span as it starts. -/
def start (name : String) (attributes : List (String × Value)) : Span :=
  attributes.foldl (fun s (k, v) => match carried v with
    | some c => s.set k c
    | none => s) ⟨name, Ordered.empty, [], none⟩

def succeed (s : Span) : Span :=
  s.set "ok" (.bool true)

/-- A span that ends in a fault keeps the kind of the fault and the start of its message. -/
def fail (s : Span) (kind message : String) : Span :=
  let s := s.set "ok" (.bool false)
  let s := { s with faults := s.faults ++ [kind], failure := some message }
  (s.set "exception.type" (.text kind)).set "exception.msg" (.text (takeText message 500))

end Span

/-- Spans in the order in which they started. -/
abbrev SpanLog := List Span

namespace SpanLog

/-- Replaces the span that started at a position. -/
def update (log : SpanLog) (position : Nat) (s : Span) : SpanLog :=
  log.set position s

end SpanLog

/-- A structured name of a span. -/
structure SpanPath where
  parts : List String
deriving DecidableEq, Repr

namespace SpanPath

def ofText (s : String) : SpanPath :=
  ⟨(segments (strip s)).filter (· != "")⟩

def text (p : SpanPath) : String :=
  dotted p.parts

/-- Further segments; empty ones are ignored. -/
def child (p : SpanPath) (more : List String) : SpanPath :=
  ⟨p.parts ++ more.filter (· != "")⟩

end SpanPath

end Foundry
