import Foundry.Rejection
import Foundry.Text.Codec

/-!
Faults: what can stop an operation. A rejection is a fault too, the only one that a pass survives.
-/

namespace Foundry

open Foundry.Text

/-- Why the file system refuses. -/
inductive FileProblem
  | missing
  | exists
  | notDirectory
  | isDirectory
  | nameTooLong
deriving DecidableEq, Repr

namespace FileProblem

def number : FileProblem → Nat
  | .missing => 2
  | .exists => 17
  | .notDirectory => 20
  | .isDirectory => 21
  | .nameTooLong => 36

def text : FileProblem → String
  | .missing => "No such file or directory"
  | .exists => "File exists"
  | .notDirectory => "Not a directory"
  | .isDirectory => "Is a directory"
  | .nameTooLong => "File name too long"

def kind : FileProblem → String
  | .missing => "FileNotFoundError"
  | .exists => "FileExistsError"
  | .notDirectory => "NotADirectoryError"
  | .isDirectory => "IsADirectoryError"
  | .nameTooLong => "OSError"

end FileProblem

/-- A refused file operation with the path, and the second path of a renaming. -/
structure FileFault where
  problem : FileProblem
  path : String
  target : Option String
deriving DecidableEq, Repr

def FileFault.message (f : FileFault) : String :=
  let target := match f.target with
    | some t => s!" -> {quoted t}"
    | none => ""
  s!"[Errno {f.problem.number}] {f.problem.text}: {quoted f.path}{target}"

/-- The phase of a registry. -/
inductive Phase
  | collecting
  | emitting
  | idle
deriving DecidableEq, Repr

def Phase.text : Phase → String
  | .collecting => "collecting"
  | .emitting => "emitting"
  | .idle => "idle"

/-- A step on the way to a setting: a field or a position in a list. -/
inductive Step
  | field (name : String)
  | index (n : Nat)
deriving DecidableEq, Repr

/-- A setting that was not accepted. Only the rules of this library say why in words. -/
structure SettingProblem where
  path : List Step
  type : String
  message : Option String
deriving DecidableEq, Repr

inductive Fault
  | rejected (r : Rejection)
  | name (p : NameProblem)
  | unknownKind (word : String)
  /-- A record was asked for a declaration without a marker. -/
  | unmarked (name : String)
  | emptyGroup (name : String)
  | depthTooSmall
  | notCollecting (phase : Phase)
  | cannotEmit (phase : Phase)
  | missingKey (key : String)
  | noCodec (p : NoCodec)
  | codec (e : CodecError)
  | file (f : FileFault)
  | settingsModule (name reason : String)
  | settings (problems : List SettingProblem)
  | moduleNotFound (name reason : String)
  /-- Source text without a meaning, on a line. -/
  | malformedSource (line : Nat)
  /-- Anything raised by code outside the library. -/
  | raised (kind message : String)
deriving Repr

namespace Fault

/-- What is raised in place of the text of a value. -/
def unshown (u : Unshown) : Fault :=
  .raised u.kind u.message

/-- The name of the kind of a fault. -/
def kind : Fault → String
  | .rejected r => r.kind
  | .name _ => "ValueError"
  | .unknownKind _ => "ValueError"
  | .unmarked _ => "ValueError"
  | .emptyGroup _ => "ValueError"
  | .depthTooSmall => "ValueError"
  | .notCollecting _ => "RegistryStateError"
  | .cannotEmit _ => "RegistryStateError"
  | .missingKey _ => "KeyError"
  | .noCodec p => p.kind
  | .codec e => e.kind
  | .file f => f.problem.kind
  | .settingsModule .. => "ConfigurationError"
  | .settings _ => "ConfigurationError"
  | .moduleNotFound .. => "ModuleNotFoundError"
  | .malformedSource _ => "SyntaxError"
  | .raised k _ => k

def message : Fault → String
  | .rejected r => r.message
  | .name p => p.message
  | .unknownKind w => s!"{quoted w} is not a valid DeclarationKind"
  | .unmarked n => s!"{n} does not carry a {markerLabel} annotation"
  | .emptyGroup n => s!"Cannot emit a factory for empty group {n}"
  | .depthTooSmall => "max_superclass_depth must be >= 1"
  | .notCollecting p => s!"Registry is {p.text}; call clear() to start a new pass"
  | .cannotEmit p => s!"Cannot emit from state {p.text}"
  | .missingKey k => quoted k
  | .noCodec p => p.message
  | .codec e => e.message
  | .file f => f.message
  | .settingsModule n reason => s!"Cannot import settings module {quoted n}: {reason}"
  | .settings _ => "Invalid factorygen settings"
  | .moduleNotFound _ reason => reason
  | .malformedSource l => s!"invalid syntax on line {l}"
  | .raised _ m => m

/-- The fault as a cause in the message of another one. -/
def cause (f : Fault) : String :=
  s!"{f.kind}: {f.message}"

end Fault

end Foundry
