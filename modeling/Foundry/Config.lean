import Foundry.Coercion
import Foundry.Factory.Plan
import Foundry.Settings
import Foundry.Text.Identifier

/-!
The configuration of a pass: settings read into fields of fixed types. Every setting that is not
accepted is reported, the known fields in their order before unknown ones.
-/

namespace Foundry

open Foundry.Text

structure Config where
  outputDir : Path
  generatedPackage : Option String
  factorySuffix : String
  moduleSuffix : String
  failFast : Bool
  maxSuperclassDepth : Nat
  annotationNames : List String
  sourceRoots : List Path
  discoveryPaths : List String
  encoding : String
  runtimeModule : String
deriving DecidableEq, Repr

/-- A field that was read, or what is wrong with it. -/
abbrev Reading (α : Type) := Except (List SettingProblem) α

namespace Reading

variable (k : Coercions)

def problem (field type : String) : Reading α :=
  .error [⟨[.field field], type, none⟩]

/-- A value that one of the rules of this library refuses. -/
def refusal (field message : String) : Reading α :=
  .error [⟨[.field field], "value_error", some ("Value error, " ++ message)⟩]

/-- A value read by the coercion for a type. -/
def coerced (coerce : Value → Except String α) (field : String) (v : Value) : Reading α :=
  match coerce v with
  | .ok a => .ok a
  | .error type => problem field type

/-- An integer of at least one. -/
def positive (field : String) (v : Value) : Reading Nat := do
  let n ← coerced k.int field v
  if n < 1 then problem field "greater_than_equal" else .ok n.toNat

/-- The problems of elements carry their positions. -/
def elements (field : String) (read : String → Value → Reading α) :
    Nat → List Value → List α → List SettingProblem → Reading (List α)
  | _, [], acc, [] => .ok acc.reverse
  | _, [], _, problems => .error problems
  | n, v :: vs, acc, problems =>
    match read field v with
    | .ok a => elements field read (n + 1) vs (a :: acc) problems
    | .error ps =>
      elements field read (n + 1) vs acc
        (problems ++ ps.map fun p => { p with path := p.path ++ [.index n] })

def tuple (field : String) (read : String → Value → Reading α) (v : Value) :
    Reading (List α) := do
  let vs ← coerced k.items field v
  elements field read 0 vs [] []

/-- The dotted name of a module, without blanks around it. -/
def dottedModule (field : String) (v : Value) : Reading String := do
  let s ← coerced k.text field v
  let s := strip s
  if s != "" && Name.isDotted s then .ok s
  else refusal field s!"not a dotted module path: {quoted s}"

def package (field : String) : Value → Reading (Option String)
  | .none => .ok none
  | v => (dottedModule k field v).map some

def classSuffix (field : String) (v : Value) : Reading String := do
  let s ← coerced k.text field v
  if isIdentifier s then .ok s
  else refusal field s!"factory_suffix must be an identifier fragment, got {quoted s}"

def moduleSuffix (field : String) (v : Value) : Reading String := do
  let s ← coerced k.text field v
  if s == "" || isIdentifier ("m" ++ s) then .ok s
  else refusal field s!"module_suffix must be an identifier fragment, got {quoted s}"

def annotationNames (field : String) (v : Value) : Reading (List String) := do
  let names ← tuple k field (coerced k.text) v
  if names.isEmpty then refusal field "at least one annotation name is required"
  else
    let bad := names.filter fun n => !Name.isDotted n
    if bad.isEmpty then .ok names
    else
      let shown := Value.listed (bad.map quoted)
      refusal field s!"annotation names must be dotted paths: {shown}"

end Reading

namespace Config

def standard : Config where
  outputDir := Path.ofText "generated"
  generatedPackage := none
  factorySuffix := "Factory"
  moduleSuffix := "_factory"
  failFast := false
  maxSuperclassDepth := 64
  annotationNames := ["factorygen.factory", "factorygen.decorators.factory"]
  sourceRoots := []
  discoveryPaths := []
  encoding := "utf-8"
  runtimeModule := "factorygen.runtime"

/-- Reads one field into the configuration. -/
def field (name : String) (read : String → Value → Reading α) (store : α → Config → Config) :
    String × (Value → Config → Reading Config) :=
  (name, fun v c => (read name v).map fun a => store a c)

/-- The fields in their order. -/
def fields (k : Coercions) : List (String × (Value → Config → Reading Config)) := [
  field "output_dir" (Reading.coerced k.path) fun a c => { c with outputDir := a },
  field "generated_package" (Reading.package k) fun a c => { c with generatedPackage := a },
  field "factory_suffix" (Reading.classSuffix k) fun a c => { c with factorySuffix := a },
  field "module_suffix" (Reading.moduleSuffix k) fun a c => { c with moduleSuffix := a },
  field "fail_fast" (Reading.coerced k.bool) fun a c => { c with failFast := a },
  field "max_superclass_depth" (Reading.positive k) fun a c => { c with maxSuperclassDepth := a },
  field "annotation_names" (Reading.annotationNames k) fun a c => { c with annotationNames := a },
  field "source_roots" (fun n => Reading.tuple k n (Reading.coerced k.path))
    fun a c => { c with sourceRoots := a },
  field "discovery_paths" (fun n => Reading.tuple k n (Reading.coerced k.text))
    fun a c => { c with discoveryPaths := a },
  field "encoding" (Reading.coerced k.text) fun a c => { c with encoding := a },
  field "runtime_module" (Reading.dottedModule k) fun a c => { c with runtimeModule := a }]

/-- The settings in capitals under the names of fields. -/
def payload (s : Settings) : Attributes :=
  Ordered.ofList (s.toList.filterMap fun (k, v) => if isUpper k then some (lower k, v) else none)

/-- Reads the fields one after the other and collects every problem. -/
def readFields (values : Attributes) :
    List (String × (Value → Config → Reading Config)) → Config → Config × List SettingProblem
  | [], c => (c, [])
  | (name, read) :: rest, c =>
    match values.get? name with
    | none => readFields values rest c
    | some v =>
      match read v c with
      | .ok c => readFields values rest c
      | .error ps =>
        let (c, more) := readFields values rest c
        (c, ps ++ more)

/-- Keys that belong to no field. -/
def unknownKeys (k : Coercions) (values : Attributes) : List SettingProblem :=
  (values.keys.filter fun name => !((fields k).any fun f => f.1 == name)).map fun name =>
    ⟨[.field name], "extra_forbidden", none⟩

def ofSettings (k : Coercions) (s : Settings) : Except Fault Config :=
  let values := payload s
  let (c, problems) := readFields values (fields k) standard
  match problems ++ unknownKeys k values with
  | [] => .ok c
  | all => .error (.settings all)

def naming (c : Config) : Factory.Naming :=
  ⟨c.factorySuffix, c.moduleSuffix, c.generatedPackage, c.runtimeModule⟩

end Config

end Foundry
