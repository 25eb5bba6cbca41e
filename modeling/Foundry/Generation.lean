import Foundry.Platform
import Foundry.World

/-!
Generation of factories from source text: settings, sources, one pass.
-/

namespace Foundry.Generation

/-- What generation is configured by: settings as they are, or values over the environment. -/
inductive Choice
  | settings (s : Settings)
  | values (overrides : Attributes)

/-- The settings of a choice, with the module that the environment names. -/
def Choice.read (modules : SettingsModules) (module? : Option String) :
    Choice → Except Fault Settings
  | .settings s => .ok s
  | .values overrides => Settings.ofEnvironment modules module? overrides

/-- The report on a source file that was set aside: the parser's words and its line, if there is
one. -/
def unparsed (p : Path) (e : Source.SyntaxFault) : Rejection :=
  let line := (e.line.map toString).getD "None"
  .reported s!"Cannot parse {p.text}: {e.message} (line {line})"

/-- Reports the files that were set aside and runs a pass. -/
def work (h : Host ω) (errors : List (Path × Source.SyntaxFault)) : Pass.Step ω PassResult := do
  errors.forM fun e => Pass.report h (unparsed e.1 e.2)
  Pass.run h

variable (platform : Platform)

/-- The sources of a configuration, under given roots or its own. -/
def prepare (c : Config) (roots : Option (List Path)) (t : FileTree) :
    Except Fault Source.Loaded :=
  Source.load platform.wording t (roots.getD c.sourceRoots) c.annotationNames
    (platform.codecs c.encoding)

/-- One pass over loaded sources. -/
def ofLoaded (c : Config) (loaded : Source.Loaded) (t : FileTree) :
    Except Fault PassResult × World Source.Index.Memory :=
  let w := World.start Source.Index.Memory.empty t
  let (result, _, w) :=
    World.step (work (World.host loaded.index.provider) loaded.errors)
      (Pass.ofConfig platform.codecs c) w
  (result, w)

/-- Reads settings and sources and runs one pass. -/
def fromSources (settings : Except Fault Settings) (roots : Option (List Path)) (t : FileTree) :
    Except Fault PassResult × World Source.Index.Memory :=
  let stop := fun f => (Except.error f, World.start Source.Index.Memory.empty t)
  match settings with
  | .error f => stop f
  | .ok s =>
    match Config.ofSettings platform.coercions s with
    | .error f => stop f
    | .ok c =>
      match prepare platform c roots t with
      | .error f => stop f
      | .ok loaded => ofLoaded platform c loaded t

end Foundry.Generation
