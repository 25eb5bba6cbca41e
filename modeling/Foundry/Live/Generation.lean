import Foundry.Generation
import Foundry.Live.Description

/-!
Generation of factories from live classes: settings, imported modules, one pass.
-/

namespace Foundry.Live

/-- Running code at work in a pass, with the diagnostics that were collected. -/
structure Session where
  memory : Memory
  collected : Diagnostics

namespace Session

def start (files : FileTree) (searched : List String) : Session :=
  ⟨⟨Machine.start files searched, Ordered.empty⟩, []⟩

def machine (s : Session) : Machine :=
  s.memory.machine

def withMachine (f : Machine → Machine) (s : Session) : Session :=
  { s with memory := { s.memory with machine := f s.memory.machine } }

def collect (d : Diagnostic) : Query Session Unit :=
  modify fun s => { s with collected := s.collected ++ [d] }

/-- Files and spans of the pass are those of the running code. -/
def host (p : Provider Memory) : Host Session where
  provider := p.onPart Session.memory fun m s => { s with memory := m }
  sink := collect
  files := do return (← get).machine.files
  setFiles t := modify (withMachine fun m => { m with files := t })
  spans s := s.machine.spans
  setSpans l := withMachine fun m => { m with spans := l }

end Session

variable (platform : Platform)

/-- Imports modules and runs one pass over their classes. -/
def pass (c : Config) (modules : List String) (s : Session) : Except Fault PassResult × Session :=
  let (found, machine) := (discover modules).run s.machine
  let s := s.withMachine fun _ => machine
  match found with
  | .error f => (.error f, s)
  | .ok names =>
    let h := Session.host (provider Marker.standardAttribute names)
    let (result, _, s) := (Pass.run h).run (Pass.ofConfig platform.codecs c, s)
    (result, s)

/-- Reads settings, imports the given modules or those of the configuration, and runs one pass. -/
def fromModules (settings : Except Fault Settings) (modules : Option (List String))
    (s : Session) : Except Fault PassResult × Session :=
  match settings with
  | .error f => (.error f, s)
  | .ok x =>
    match Config.ofSettings platform.coercions x with
    | .error f => (.error f, s)
    | .ok c => pass platform c (modules.getD c.discoveryPaths) s

end Foundry.Live
