import Foundry.Declaration

/-!
Rejections: what can be wrong with a declaration, a group or a generated module in a pass that
goes on with the others. Each has a stable code and a message.
-/

namespace Foundry

open Foundry.Text

/-- The label of the marker in messages. -/
def markerLabel : String := "@factory"

/-- The text of a type in a message. -/
def describeType : Value → Except Unshown String
  | .none => .ok "no type given"
  | .reference r => .ok (quoted r.name)
  | .liveClass m q => .ok s!"{m}.{q}"
  | v => v.repr

inductive Rejection
  /-- Anything else that was reported. -/
  | reported (message : String)
  | identifierUnevaluated (owner : Declaration) (source : String)
  /-- The identifier of a marker is no text; `shown` is the text it has as a value. -/
  | identifierNotText (owner : Declaration) (shown : String)
  | identifierBlank (owner : Declaration)
  /-- The type of a marker, in the words of a message, names no declaration; `cause` tells what
  failed while resolving it. -/
  | typeUnresolved (owner : Option Declaration) (type : String) (cause : Option String)
  | notAClass (declaration : Declaration)
  | notPublic (declaration : Declaration)
  | isAbstract (declaration : Declaration)
  | groupUnknown (declaration : Declaration) (group : String)
  | doesNotImplement (declaration : Declaration) (group : String)
  /-- `limit` is the depth limit when the search was cut short. -/
  | doesNotExtend (declaration : Declaration) (group : String) (limit : Option Nat)
  | missingDefaultConstructor (declaration : Declaration)
  | duplicate (record existing : Record)
  /-- No factory can be planned for a group whose type is unknown. -/
  | planUnresolved (group : String)
  | invalidModule (module : String)
  | alreadyWritten (module : String) (path : Path)
  | notWritten (path : Path) (reason : String)
deriving Repr

namespace Rejection

/-- The declaration a rejection belongs to. -/
def declaration : Rejection → Option Declaration
  | .identifierUnevaluated d _ => some d
  | .identifierNotText d _ => some d
  | .identifierBlank d => some d
  | .typeUnresolved d _ _ => d
  | .notAClass d => some d
  | .notPublic d => some d
  | .isAbstract d => some d
  | .groupUnknown d _ => some d
  | .doesNotImplement d _ => some d
  | .doesNotExtend d _ _ => some d
  | .missingDefaultConstructor d => some d
  | .duplicate r _ => some r.declaration
  | _ => none

/-- The rule that was violated. -/
def code : Rejection → String
  | .reported _ => "ProcessingError"
  | .identifierUnevaluated .. => "EmptyIdentifier"
  | .identifierNotText .. => "EmptyIdentifier"
  | .identifierBlank _ => "EmptyIdentifier"
  | .typeUnresolved .. => "UnresolvableGroupType"
  | .notAClass _ => "NotAClass"
  | .notPublic _ => "NotPublic"
  | .isAbstract _ => "IsAbstract"
  | .groupUnknown .. => "UnresolvableGroupType"
  | .doesNotImplement .. => "DoesNotImplement"
  | .doesNotExtend .. => "DoesNotExtend"
  | .missingDefaultConstructor _ => "MissingDefaultConstructor"
  | .duplicate .. => "DuplicateIdentifier"
  | .planUnresolved _ => "UnresolvableGroupType"
  | .invalidModule _ => "ArtifactWriteFailure"
  | .alreadyWritten .. => "ArtifactWriteFailure"
  | .notWritten .. => "ArtifactWriteFailure"

/-- The name of the kind of error, which differs from the code for writing failures. -/
def kind (r : Rejection) : String :=
  match r.code with
  | "ArtifactWriteFailure" => "ArtifactWriteError"
  | "ProcessingError" => "ProcessingError"
  | c => c ++ "Error"

def message : Rejection → String
  | .reported m => m
  | .identifierUnevaluated d source =>
    s!"identifier in {markerLabel} for class {d.qualifiedName} must be a string literal, got " ++
      "\x60" ++ source ++ "\x60"
  | .identifierNotText d shown =>
    s!"identifier in {markerLabel} for class {d.qualifiedName} must be a string, got {shown}"
  | .identifierBlank d =>
    s!"identifier in {markerLabel} for class {d.qualifiedName} must not be empty"
  | .typeUnresolved d t cause =>
    let owner := match d with
      | some d => d.qualifiedName
      | none => "<unknown>"
    let detail := match cause with
      | some c => s!" ({c})"
      | none => ""
    s!"type in {markerLabel} for class {owner} cannot be resolved: {t}{detail}"
  | .notAClass d =>
    s!"Only classes can be annotated with {markerLabel}; {d.qualifiedName} is a {d.kind.text}"
  | .notPublic d => s!"The class {d.qualifiedName} is not public."
  | .isAbstract d =>
    s!"The class {d.qualifiedName} is abstract. " ++
      s!"You can't annotate abstract classes with {markerLabel}"
  | .groupUnknown d g =>
    s!"The group type {g} of class {d.qualifiedName} cannot be resolved"
  | .doesNotImplement d g =>
    s!"The class {d.qualifiedName} annotated with {markerLabel} must implement the interface {g}"
  | .doesNotExtend d g limit =>
    let detail := match limit with
      | some n => s!" (superclass chain is cyclic or deeper than {n})"
      | none => ""
    s!"The class {d.qualifiedName} annotated with {markerLabel} must inherit from {g}{detail}"
  | .missingDefaultConstructor d =>
    s!"The class {d.qualifiedName} must provide a public constructor callable without arguments"
  | .duplicate r e =>
    s!"Conflict: The class {r.qualifiedName} is annotated with {markerLabel} " ++
      s!"with identifier={quoted r.identifier} but {e.qualifiedName} " ++
      s!"already uses the same identifier in group {r.group}"
  | .planUnresolved g => s!"The group type {g} cannot be resolved"
  | .invalidModule m => s!"Invalid module name for generated source: {quoted m}"
  | .alreadyWritten m p => s!"Attempt to recreate a file for module {m}: {p.text}"
  | .notWritten p reason => s!"Could not write {p.text}: {reason}"

end Rejection

end Foundry
