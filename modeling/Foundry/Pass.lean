import Foundry.Config
import Foundry.Diagnostic
import Foundry.Extraction
import Foundry.Factory.Render
import Foundry.Filer
import Foundry.Registry
import Foundry.Trace
import Foundry.Validation

/-!
Passes. In rounds, declarations become records of a registry; finishing a pass writes one factory
for each group and forgets everything. A rejected declaration is reported and the pass goes on;
when it is told to fail fast, a rejection ends its round, and nothing is written after one. Any
other fault ends the pass.
-/

namespace Foundry

open Foundry.Text

/-- A generated module. -/
structure Artifact where
  module : String
  path : Path
  plan : Factory.Plan
deriving Repr

structure PassResult where
  artifacts : List Artifact
  diagnostics : Diagnostics
deriving Repr

def PassResult.errors (r : PassResult) : Diagnostics := r.diagnostics.errors

def PassResult.isOk (r : PassResult) : Bool := !r.diagnostics.hasErrors

/-- Where diagnostics go besides the result of a pass. -/
abbrev Sink (ω : Type) := Diagnostic → Query ω Unit

/-- What a pass works with: declarations, a sink, files and a log of spans, all parts of a world.
Looking at the files and changing them may fail like any other question. -/
structure Host (ω : Type) where
  provider : Provider ω
  sink : Sink ω
  files : Query ω FileTree
  setFiles : FileTree → Query ω Unit
  spans : ω → SpanLog
  setSpans : SpanLog → ω → ω

/-- What a pass remembers between its rounds. -/
structure Pass where
  config : Config
  filer : Filer
  registry : Registry
  reported : Diagnostics
  failed : Bool
  round : Nat

namespace Pass

variable {ω : Type}

/-- A pass that has not begun. -/
def fresh (c : Config) (f : Filer) : Pass :=
  ⟨c, f, Registry.empty, [], false, 0⟩

/-- A pass that writes where its configuration says, by the codec it names. -/
def ofConfig (codecs : Codecs) (c : Config) : Pass :=
  fresh c (Filer.make c.outputDir (codecs c.encoding))

/-- Everything is forgotten. -/
def clear (p : Pass) : Pass :=
  fresh p.config p.filer.reset

/-- A step of a pass in a world. -/
abbrev Step (ω α : Type) := ExceptT Fault (StateM (Pass × ω)) α

/-- A question to the world. -/
def ask (q : Query ω α) : Step ω α :=
  Provider.lift (·.2) (fun w s => (s.1, w)) q

def update (f : Pass → Pass) : Step ω Unit :=
  modify fun s => (f s.1, s.2)

/-- Work inside a span. -/
def inSpan (h : Host ω) (name : String) (attributes : List (String × Value))
    (body : (Span → Span) → Step ω α) (close : α → Span → Span) : Step ω α := do
  let s ← get
  let position := (h.spans s.2).length
  let span := Span.start name attributes
  set (s.1, h.setSpans (h.spans s.2 ++ [span]) s.2)
  let finish := fun (g : Span → Span) => (modify fun s =>
    (s.1, h.setSpans (SpanLog.update (h.spans s.2) position (g span)) s.2) : Step ω Unit)
  tryCatch
    (do
      let a ← body id
      finish fun sp => (close a sp).succeed
      return a)
    fun f => do
      finish fun sp => sp.fail f.kind f.message
      throw f

/-- Reports a rejection to the result of the pass and to the sink. -/
def report (h : Host ω) (r : Rejection) : Step ω Unit := do
  let d : Diagnostic := ⟨.error, r.message, r.declaration, some r.code⟩
  update fun p => { p with failed := true, reported := p.reported ++ [d] }
  ask (h.sink d)

/-- Extracts, validates and registers one declaration. -/
def processDeclaration (h : Host ω) (d : Declaration) : Step ω Record := do
  let r ← ask (Record.extract h.provider d)
  let p := (← get).1
  ask (validate h.provider p.config.maxSuperclassDepth r)
  match (← get).1.registry.add r with
  | .ok registry =>
    update fun p => { p with registry := registry }
    return r
  | .error f => throw f

/-- The outcome of one declaration: accepted, or the rejection. -/
def attempt (h : Host ω) (d : Declaration) : Step ω (Option Rejection) :=
  tryCatch (do
    discard (processDeclaration h d)
    return none)
    fun f => match f with
      | .rejected r => return some r
      | other => throw other

/-- Counts of a round. -/
structure Counts where
  accepted : Nat
  rejected : Nat
deriving DecidableEq, Repr

/-- The declarations of a round, visited one after the other. -/
def visitAll (h : Host ω) : List (Query ω (Option Declaration)) → Counts → Step ω Counts
  | [], c => return c
  | visit :: rest, c => do
    match ← ask visit with
    | none => visitAll h rest c
    | some d =>
      match ← attempt h d with
      | none => visitAll h rest { c with accepted := c.accepted + 1 }
      | some r =>
        let c := { c with rejected := c.rejected + 1 }
        report h r
        if (← get).1.config.failFast then return c else visitAll h rest c

/-- One round. A fault that is no rejection clears the pass. -/
def processRound (h : Host ω) (visits : List (Query ω (Option Declaration))) : Step ω Unit := do
  update fun p => { p with round := p.round + 1 }
  let round := (← get).1.round
  tryCatch
    (discard (inSpan h "factorygen.process" [("factorygen.round", .int round)]
      (fun _ => visitAll h visits ⟨0, 0⟩)
      fun c sp => (sp.set "factorygen.accepted" (.int c.accepted)).set "factorygen.rejected"
        (.int c.rejected)))
    fun f => do
      update clear
      throw f

/-- Writes the factory of a group. -/
def emit (h : Host ω) (g : Group) : Step ω Artifact := do
  let p := (← get).1
  let plan ← ask (Factory.planGroup h.provider p.config.naming g)
  inSpan h "factorygen.emit"
    [("factorygen.group", .text plan.group.text), ("factorygen.factory", .text plan.factoryName),
     ("factorygen.members", .int plan.branches.length)]
    (fun _ => do
      let files ← ask h.files
      let p := (← get).1
      let text := Factory.render p.config.runtimeModule plan
      let (result, filer, files) := p.filer.write plan.moduleName text files
      ask (h.setFiles files)
      update fun p => { p with filer := filer }
      match result with
      | .ok path => return ⟨plan.moduleName, path, plan⟩
      | .error f => throw f)
    fun _ sp => sp

/-- Writes the groups in order; a rejection is reported. -/
def emitAll (h : Host ω) : List Group → List Artifact → Step ω (List Artifact)
  | [], done => return done
  | g :: gs, done => do
    let outcome ← tryCatch (do return Except.ok (← emit h g)) fun f => match f with
      | .rejected r => return Except.error r
      | other => throw other
    match outcome with
    | .ok a => emitAll h gs (done ++ [a])
    | .error r =>
      report h r
      if (← get).1.config.failFast then return done else emitAll h gs done

/-- Emits every group and clears the pass, whatever happens. -/
def finish (h : Host ω) : Step ω PassResult := do
  let run : Step ω (List Artifact) := do
    let p := (← get).1
    match p.registry.beginEmission with
    | .error f => throw f
    | .ok registry =>
      update fun p => { p with registry := registry }
      if p.config.failFast && p.failed then return [] else emitAll h registry.groups []
  tryCatch
    (do
      let artifacts ← run
      let reported := (← get).1.reported
      update clear
      return ⟨artifacts, reported⟩)
    fun f => do
      update clear
      throw f

/-- One round, and the end of the pass when it was the last one. -/
def process (h : Host ω) (visits : List (Query ω (Option Declaration))) (isLast : Bool) :
    Step ω (Option PassResult) := do
  processRound h visits
  if isLast then return some (← finish h) else return none

/-- One round over everything the provider discovers, and the end of the pass. -/
def run (h : Host ω) : Step ω PassResult := do
  let visits ← ask h.provider.annotated
  processRound h visits
  finish h

end Pass

end Foundry
