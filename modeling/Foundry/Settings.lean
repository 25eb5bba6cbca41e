import Foundry.Fault
import Foundry.Ordered
import Foundry.Text.Blank

/-!
Settings in three layers: overrides, a settings module, and defaults. The first layer that has a
key gives its value.
-/

namespace Foundry

open Foundry.Text

/-- The values of a module or another object by name. -/
abbrev Attributes := Ordered String Value

/-- Modules that can be imported for their settings. -/
abbrev SettingsModules := Ordered String Attributes

inductive Layer
  | override
  | module
  | default
deriving DecidableEq, Repr

def Layer.text : Layer → String
  | .override => "override"
  | .module => "module"
  | .default => "default"

/-- The defaults of every setting. -/
def defaultSettings : Attributes := Ordered.ofList [
  ("OUTPUT_DIR", .text "generated"),
  ("GENERATED_PACKAGE", .none),
  ("FACTORY_SUFFIX", .text "Factory"),
  ("MODULE_SUFFIX", .text "_factory"),
  ("FAIL_FAST", .bool false),
  ("MAX_SUPERCLASS_DEPTH", .int 64),
  ("ANNOTATION_NAMES",
    .tuple [.text "factorygen.factory", .text "factorygen.decorators.factory"]),
  ("SOURCE_ROOTS", .tuple []),
  ("DISCOVERY_PATHS", .tuple []),
  ("ENCODING", .text "utf-8"),
  ("RUNTIME_MODULE", .text "factorygen.runtime")]

/-- The values in capitals; with a namespace those of its prefix, without the prefix. -/
def selectSettings (values : Attributes) (space : Option String) : List (String × Value) :=
  values.entries.filterMap fun (k, v) =>
    match space with
    | none => if isUpper k then some (k, v) else none
    | some n =>
      let start := n ++ "_"
      if startsWith k start && isUpper k then some (dropText k start.length, v) else none

structure Settings where
  overrides : Attributes
  module : Attributes
deriving Repr

namespace Settings

def empty : Settings := ⟨Ordered.empty, Ordered.empty⟩

/-- Settings with whole maps as overrides, the later ones stronger. -/
def ofLayers (layers : List Attributes) : Settings :=
  ⟨layers.foldl (fun m l => m.insertAll l.entries) Ordered.empty, Ordered.empty⟩

def layer? (s : Settings) (key : String) : Option Layer :=
  if s.overrides.contains key then some .override
  else if s.module.contains key then some .module
  else if defaultSettings.contains key then some .default
  else none

def get? (s : Settings) (key : String) : Option Value :=
  (s.overrides.get? key).or ((s.module.get? key).or (defaultSettings.get? key))

def get (s : Settings) (key : String) : Except Fault Value :=
  match s.get? key with
  | some v => .ok v
  | none => .error (.missingKey key)

def origin (s : Settings) (key : String) : Except Fault Layer :=
  match s.layer? key with
  | some l => .ok l
  | none => .error (.missingKey key)

def set (s : Settings) (key : String) (v : Value) : Settings :=
  { s with overrides := s.overrides.insert key v }

/-- Only an override can be deleted. -/
def delete (s : Settings) (key : String) : Except Fault Settings :=
  if s.overrides.contains key then .ok { s with overrides := s.overrides.erase key }
  else .error (.missingKey key)

/-- Every key once: defaults, then those of the module, then those of the overrides. -/
def keys (s : Settings) : List String :=
  (((Ordered.empty : Attributes).insertAll defaultSettings.entries).insertAll
    s.module.entries |>.insertAll s.overrides.entries).keys

/-- How many different keys the layers hold. -/
def size (s : Settings) : Nat :=
  ((s.overrides.keys ++ s.module.keys ++ defaultSettings.keys).foldr List.insert []).length

def toList (s : Settings) : List (String × Value) :=
  s.keys.map fun k => (k, (s.get? k).getD .none)

/-- Takes an override out; a key that is missing gives nothing. -/
def pop (s : Settings) (key : String) : Except Fault (Value × Settings) :=
  match s.get? key with
  | none => .ok (.none, s)
  | some v => (s.delete key).map fun s => (v, s)

/-- The value of a key, which becomes an override when it is missing. -/
def setDefault (s : Settings) (key : String) (v : Value) : Value × Settings :=
  match s.get? key with
  | some w => (w, s)
  | none => (v, s.set key v)

/-- Takes out first keys for as long as they are overrides. -/
def clear (s : Settings) : Settings :=
  match s.keys with
  | k :: _ =>
    match s.delete k with
    | .ok s' => s'
    | .error _ => s
  | [] => s

def updateFromMapping (s : Settings) (values : Attributes) (space : Option String) : Settings :=
  { s with overrides := s.overrides.insertAll (selectSettings values space) }

def updateFromObject (s : Settings) (values : Attributes) (space : Option String) : Settings :=
  { s with module := s.module.insertAll (selectSettings values space) }

/-- What is wrong with importing a module that is not there: its first missing part, and whether
the part above it is a plain module. -/
def missingModule (available : String → Bool) : List String → List String → String
  | done, [] => s!"No module named {quoted (dotted done)}"
  | done, part :: rest =>
    let name := dotted (done ++ [part])
    if available name then missingModule available (done ++ [part]) rest
    else if done.isEmpty then s!"No module named {quoted name}"
    else s!"No module named {quoted name}; {quoted (dotted done)} is not a package"

/-- The attributes of a settings module. -/
def importModule (modules : SettingsModules) (name : String) : Except Fault Attributes :=
  if name == "" then .error (.raised "ValueError" "Empty module name")
  else if startsWith name "." then
    .error (.raised "TypeError"
      ("the 'package' argument is required to perform a relative import for " ++ quoted name))
  else match modules.get? name with
    | some values => .ok values
    | none => .error (.settingsModule name (missingModule modules.contains [] (segments name)))

def updateFromModule (s : Settings) (modules : SettingsModules) (name : String)
    (space : Option String) : Except Fault Settings :=
  (importModule modules name).map fun values => s.updateFromObject values space

/-- Loads the module a variable names; blanks around the name do not count, and nothing is loaded
when no name is left. -/
def updateFromVariable (s : Settings) (modules : SettingsModules) (name? : Option String)
    (space : Option String) : Except Fault Settings :=
  let name := strip (name?.getD "")
  if name == "" then .ok s else s.updateFromModule modules name space

/-- Defaults, then the module a variable names, then overrides. -/
def ofEnvironment (modules : SettingsModules) (name? : Option String)
    (overrides : Attributes) : Except Fault Settings :=
  (empty.updateFromVariable modules name? none).map fun s => s.updateFromMapping overrides none

end Settings

end Foundry
