import Foundry.Declaration

/-!
Diagnostics: what a pass has to say about declarations.
-/

namespace Foundry

inductive Severity
  | error
  | warning
  | note
deriving DecidableEq, Repr

namespace Severity

def text : Severity → String
  | .error => "error"
  | .warning => "warning"
  | .note => "note"

def ofText? : String → Option Severity
  | "error" => some .error
  | "warning" => some .warning
  | "note" => some .note
  | _ => none

/-- The level at which a diagnostic is logged. -/
def level : Severity → String
  | .error => "ERROR"
  | .warning => "WARNING"
  | .note => "INFO"

end Severity

structure Diagnostic where
  severity : Severity
  message : String
  declaration : Option Declaration
  code : Option String
deriving Repr

namespace Diagnostic

/-- One line: the location where it is known, the severity, the message and the code. -/
def format (d : Diagnostic) : String :=
  let place := match d.declaration.bind (·.location) with
    | some l => if l.path.isSome then l.text ++ ": " else ""
    | none => ""
  let code := match d.code with
    | some c => if c == "" then "" else s!" [{c}]"
    | none => ""
  s!"{place}{d.severity.text}: {d.message}{code}"

def isError (d : Diagnostic) : Bool :=
  d.severity = .error

end Diagnostic

/-- Diagnostics in the order in which they were reported. -/
abbrev Diagnostics := List Diagnostic

namespace Diagnostics

def errors (ds : Diagnostics) : Diagnostics :=
  ds.filter Diagnostic.isError

def hasErrors (ds : Diagnostics) : Bool :=
  ds.any Diagnostic.isError

end Diagnostics

end Foundry
