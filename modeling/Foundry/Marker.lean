import Foundry.Arguments
import Foundry.Rejection
import Foundry.Text.Case
import Foundry.Trace

/-!
The factory marker: a decorator with an identifier and a type, which records both on what it is
applied to and checks nothing.
-/

namespace Foundry

open Foundry.Text

/-- The fields given to a marker. -/
structure Marker where
  identifier : Value
  type : Value
deriving Repr

namespace Marker

/-- Where annotations are kept, unless said otherwise. -/
def standardAttribute : String := "__factory__"

/-- The word in front of log lines, unless said otherwise. -/
def standardCategory : String := "factory"

def decoratorName : String := "FactoryDecorator"

def signature : Signature where
  function := decoratorName ++ ".__call__"
  positional := [⟨"self", false⟩, ⟨"identifier", true⟩, ⟨"type", true⟩]
  takesMore := false
  named := []
  takesOthers := false

/-- Something that could be decorated itself. -/
def isDecorable : Value → Bool
  | .liveClass _ _ => true
  | .thing kind _ => kind == "function"
  | _ => false

/-- A marker without arguments would take what it decorates for its identifier. -/
def make (identifier type : Value) : Except Fault Marker :=
  match type with
  | .none =>
    if isDecorable identifier then
      .error (.raised "TypeError"
        s!"{markerLabel} requires arguments: use {markerLabel}(identifier=..., type=...)")
    else .ok ⟨identifier, type⟩
  | _ => .ok ⟨identifier, type⟩

/-- The marker of a call. -/
def ofArguments (args : List Value) (named : List (String × Value)) : Except Fault Marker :=
  match signature.bind (.none :: args) named with
  | .error f => .error f
  | .ok b =>
    let field := fun name => ((b.bound.lookup name).getD Value.none)
    make (field "identifier") (field "type")

/-- What the marker records on something of a module. A type given as text is looked for from
there. -/
def marking (m : Marker) (scope : Option String) : Marking :=
  ⟨m.identifier, match m.type with
    | .text s => .reference ⟨strip s, scope⟩
    | t => t⟩

/-- The span of an application to a named class or function. -/
def span (m : Marker) (module qualname : String) : Span :=
  (Span.start s!"factorygen.decorator.apply ({Name.simple qualname})"
    [("factorygen.decorator", .text decoratorName),
     ("factorygen.class", .text (module ++ "." ++ qualname)),
     ("factorygen.identifier", match m.identifier with
      | .text s => .text s
      | _ => .none)]).succeed

/-- The log line of an application. No line is written where the identifier has no text. -/
def logLine (m : Marker) (category module qualname : String) : Except Unshown String :=
  m.identifier.repr.map fun shown =>
    s!"[{upper category}] ✅ discovered " ++ "\x60" ++ module ++ "." ++ qualname ++ "\x60" ++
      s!" (identifier={shown})"

end Marker

end Foundry
