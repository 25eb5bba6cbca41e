import Foundry.Proofs.Ordered
import Foundry.Proofs.Text.Splitting
import Foundry.Settings

/-!
Settings over their whole history. What a key is read as depends on two calls only: the last one
that gave it an override or took it away, and the last one that loaded a value for it. Histories
run over all the settings objects of a program, and each object follows its own calls.
-/

namespace Foundry.Settings

open Text

variable {α : Type} {k : String}

/-! ### What is chosen from values -/

/-- The name that a key goes by in values that are read for a namespace. -/
def spaced (space : Option String) (k : String) : String :=
  match space with
  | none => k
  | some n => n ++ "_" ++ k

/-- The value that a key is given when values are read for a namespace. -/
def chosen (values : Attributes) (space : Option String) (k : String) : Option Value :=
  if isUpper (spaced space k) then values.get? (spaced space k) else none

def keyFor (space : Option String) (name : String) : Option String :=
  match space with
  | none => if isUpper name then some name else none
  | some n =>
    if startsWith name (n ++ "_") && isUpper name then some (dropText name (n ++ "_").length)
    else none

theorem selectSettings_eq (values : Attributes) (space : Option String) :
    selectSettings values space =
      values.entries.filterMap fun e => (keyFor space e.1).map fun k => (k, e.2) := by
  apply List.filterMap_congr
  rintro ⟨name, v⟩ -
  cases space with
  | none =>
    simp only [keyFor]
    split <;> rfl
  | some n =>
    simp only [keyFor]
    split <;> rfl

theorem keyFor_eq_some_iff {space : Option String} {name : String} :
    keyFor space name = some k ↔ isUpper (spaced space k) = true ∧ name = spaced space k := by
  cases space with
  | none =>
    simp only [keyFor, spaced, Option.ite_none_right_eq_some, Option.some.injEq]
    constructor
    · rintro ⟨hu, rfl⟩
      exact ⟨hu, rfl⟩
    · rintro ⟨hu, rfl⟩
      exact ⟨hu, rfl⟩
  | some n =>
    simp only [keyFor, spaced, Option.ite_none_right_eq_some, Option.some.injEq,
      Bool.and_eq_true, startsWith_iff]
    constructor
    · rintro ⟨⟨⟨x, rfl⟩, hu⟩, hdrop⟩
      rw [dropText_append] at hdrop
      exact ⟨hdrop ▸ hu, hdrop ▸ rfl⟩
    · rintro ⟨hu, rfl⟩
      exact ⟨⟨⟨k, rfl⟩, hu⟩, dropText_append _ k⟩

theorem lastGiven_selectSettings (values : Attributes) (space : Option String) (k : String) :
    Ordered.lastGiven k (selectSettings values space) = chosen values space k := by
  have hall : ∀ l : List (String × Value),
      Ordered.lastGiven k (l.filterMap fun e => (keyFor space e.1).map fun k => (k, e.2)) =
        if isUpper (spaced space k) then Ordered.lastGiven (spaced space k) l else none := by
    intro l
    induction l with
    | nil => simp [Ordered.lastGiven]
    | cons e rest ih =>
      have hhead : ((keyFor space e.1).map fun k => (k, e.2)).bind
          (fun e => if e.1 = k then some e.2 else none) =
          if isUpper (spaced space k) = true ∧ e.1 = spaced space k then some e.2 else none := by
        simp only [← keyFor_eq_some_iff]
        cases keyFor space e.1 with
        | none => rfl
        | some name => simp
      rw [Ordered.lastGiven_filterMap_cons, ih, Ordered.lastGiven_cons, hhead]
      by_cases hu : isUpper (spaced space k) = true <;> simp [hu]
  rw [selectSettings_eq, hall, Ordered.lastGiven_entries, chosen]

/-! ### Calls -/

/-- A call on a settings object. Reading the values of a mapping or an object may fail, and so may
importing a module. -/
inductive Call
  | assign (key : String) (v : Value)
  | delete (key : String)
  | mapping (read : Except Fault Attributes) (space : Option String)
  | object (read : Except Fault Attributes) (space : Option String)
  | importing (modules : SettingsModules) (name : String) (space : Option String)
  | environment (modules : SettingsModules) (name? : Option String) (space : Option String)

def perform (s : Settings) : Call → Except Fault Settings
  | .assign key v => .ok (s.set key v)
  | .delete key => s.delete key
  | .mapping read space => read.map fun values => s.updateFromMapping values space
  | .object read space => read.map fun values => s.updateFromObject values space
  | .importing modules name space => s.updateFromModule modules name space
  | .environment modules name? space => s.updateFromVariable modules name? space

/-- The object after a call; a call that fails leaves it as it is. -/
def step (s : Settings) (c : Call) : Settings :=
  match s.perform c with
  | .ok s' => s'
  | .error _ => s

def run (s : Settings) (log : List Call) : Settings :=
  log.foldl step s

/-! ### Modules by their names -/

/-- The attributes of the module that a name stands for: not those of a name that is empty or
begins with a dot. -/
def named? (modules : SettingsModules) (name : String) : Option Attributes :=
  if name = "" ∨ startsWith name "." = true then none else modules.get? name

/-- Why no module can be imported by a name. -/
inductive Unimportable (modules : SettingsModules) (name : String) : Fault → Prop
  | empty : name = "" → Unimportable modules name (.raised "ValueError" "Empty module name")
  | relative : startsWith name "." = true → Unimportable modules name (.raised "TypeError"
      ("the 'package' argument is required to perform a relative import for " ++ quoted name))
  | missing : name ≠ "" → startsWith name "." = false → modules.get? name = none →
    Unimportable modules name
      (.settingsModule name (missingModule modules.contains [] (segments name)))

/-- The name of the module in a variable. -/
def variableName (name? : Option String) : String :=
  strip (name?.getD "")

theorem importModule_ok_iff {modules : SettingsModules} {name : String} {values : Attributes} :
    importModule modules name = .ok values ↔ named? modules name = some values := by
  unfold importModule named?
  by_cases hempty : name = ""
  · simp [hempty]
  · cases hdot : startsWith name "." with
    | true => simp [hempty]
    | false => cases modules.get? name <;> simp [hempty]

theorem importModule_error_iff {modules : SettingsModules} {name : String} {e : Fault} :
    importModule modules name = .error e ↔ Unimportable modules name e := by
  have hblank : startsWith "" "." = false := by rfl
  constructor
  · intro h
    unfold importModule at h
    split at h
    · rename_i hempty
      cases h
      exact .empty (beq_iff_eq.1 hempty)
    · rename_i hempty
      rw [beq_iff_eq] at hempty
      split at h
      · rename_i hdot
        cases h
        exact .relative hdot
      · rename_i hdot
        cases hnone : modules.get? name with
        | some values => simp [hnone] at h
        | none =>
          simp only [hnone] at h
          cases h
          exact .missing hempty (Bool.not_eq_true _ ▸ hdot) hnone
  · rintro (rfl | hdot | ⟨hempty, hdot, hnone⟩)
    · rfl
    · have hempty : name ≠ "" := by
        rintro rfl
        exact absurd hdot (by rw [hblank]; decide)
      simp [importModule, hempty, hdot]
    · simp [importModule, hempty, hdot, hnone]

theorem exists_unimportable_iff {modules : SettingsModules} {name : String} :
    (∃ e, Unimportable modules name e) ↔ named? modules name = none := by
  simp only [← importModule_error_iff]
  cases h : importModule modules name with
  | ok values => simp [importModule_ok_iff.1 h]
  | error e =>
    refine iff_of_true ⟨e, rfl⟩ (Option.eq_none_iff_forall_ne_some.2 fun values hvalues => ?_)
    cases h.symm.trans (importModule_ok_iff.2 hvalues)

/-! ### What calls do -/

/-- What a call reads values from for the settings module, if it is such a call: an object, a module
that is imported, or the module that a variable names, if it names one. -/
def Call.reading : Call → Option (Except Fault Attributes × Option String)
  | .object read space => some (read, space)
  | .importing modules name space => some (importModule modules name, space)
  | .environment modules name? space =>
    some (if variableName name? = "" then .ok Ordered.empty
      else importModule modules (variableName name?), space)
  | _ => none

/-- The values that a call loads, and the namespace they are read for. -/
def Call.values? : Call → Option (Attributes × Option String)
  | .object read space => read.toOption.map fun values => (values, space)
  | .importing modules name space => (named? modules name).map fun values => (values, space)
  | .environment modules name? space =>
    (named? modules (variableName name?)).map fun values => (values, space)
  | _ => none

/-- The override that a call leaves a key with; `some none` where it takes the override away. -/
def Call.override (k : String) : Call → Option (Option Value)
  | .assign key v => if key = k then some (some v) else none
  | .delete key => if key = k then some none else none
  | .mapping read space => (read.toOption.bind fun values => chosen values space k).map some
  | _ => none

def Call.load (k : String) (c : Call) : Option Value :=
  c.values?.bind fun (values, space) => chosen values space k

variable {s : Settings} {log : List Call} {c : Call} {read : Except Fault Attributes}
  {space : Option String}

theorem perform_of_reading (h : c.reading = some (read, space)) :
    s.perform c = read.map fun values => s.updateFromObject values space := by
  cases c with
  | object => cases h; rfl
  | importing => cases h; rfl
  | environment modules name? space =>
    cases h
    change updateFromVariable s modules name? space = _
    by_cases hblank : variableName name? = ""
    · rw [if_pos hblank, updateFromVariable]
      exact if_pos (beq_iff_eq.2 hblank)
    · rw [if_neg hblank, updateFromVariable]
      exact if_neg fun h => hblank (beq_iff_eq.1 h)
  | _ => cases h

theorem override_of_reading (h : c.reading = some (read, space)) : c.override k = none := by
  cases c with
  | object => rfl
  | importing => rfl
  | environment => rfl
  | _ => cases h

theorem importModule_toOption (modules : SettingsModules) (name : String) :
    (importModule modules name).toOption = named? modules name := by
  cases h : importModule modules name with
  | ok values => exact (importModule_ok_iff.1 h).symm
  | error e => exact (exists_unimportable_iff.1 ⟨e, importModule_error_iff.1 h⟩).symm

theorem load_of_reading (h : c.reading = some (read, space)) :
    c.load k = read.toOption.bind fun values => chosen values space k := by
  cases c with
  | object read space =>
    cases h
    cases read <;> rfl
  | importing modules name space =>
    cases h
    rw [importModule_toOption, Call.load, Call.values?]
    cases named? modules name <;> rfl
  | environment modules name? space =>
    cases h
    rw [Call.load, Call.values?]
    split
    · rename_i hblank
      have hnone : named? modules (variableName name?) = none := if_pos (.inl hblank)
      rw [hnone]
      simp [Except.toOption, chosen]
    · rw [importModule_toOption]
      cases named? modules (variableName name?) <;> rfl
  | _ => cases h

theorem load_of_reading_none (h : c.reading = none) : c.load k = none := by
  cases c with
  | object => cases h
  | importing => cases h
  | environment => cases h
  | _ => rfl

theorem step_of_reading (h : c.reading = some (read, space)) :
    (s.step c).overrides = s.overrides ∧
      (s.step c).module.get? k = (c.load k).or (s.module.get? k) := by
  rw [step, perform_of_reading h, load_of_reading h]
  cases read with
  | error e => exact ⟨rfl, rfl⟩
  | ok values =>
    refine ⟨rfl, ?_⟩
    exact (Ordered.get?_insertAll_eq _ _ k).trans (by rw [lastGiven_selectSettings]; rfl)

theorem step_of_reading_none (h : c.reading = none) :
    (s.step c).module = s.module ∧
      (s.step c).overrides.get? k = (c.override k).getD (s.overrides.get? k) := by
  cases c with
  | assign key v =>
    refine ⟨rfl, (Ordered.get?_insert s.overrides key k v).trans ?_⟩
    simp only [Call.override]
    split <;> rfl
  | delete key =>
    simp only [step, perform, delete, Call.override]
    by_cases hkey : s.overrides.contains key = true
    · refine ⟨by rw [if_pos hkey], ?_⟩
      rw [if_pos hkey]
      simp only [Ordered.get?_erase, eq_comm (a := k)]
      split <;> rfl
    -- A deletion that fails finds the key as it would have left it.
    · refine ⟨by rw [if_neg hkey], ?_⟩
      rw [if_neg hkey]
      rw [Ordered.contains, Bool.not_eq_true, Option.isSome_eq_false_iff,
        Option.isNone_iff_eq_none] at hkey
      change s.overrides.get? k = _
      by_cases hk : key = k
      · rw [if_pos hk, Option.getD_some, ← hk, hkey]
      · rw [if_neg hk, Option.getD_none]
  | mapping read space =>
    cases read with
    | error e => exact ⟨rfl, rfl⟩
    | ok values =>
      refine ⟨rfl, (Ordered.get?_insertAll_eq _ _ k).trans ?_⟩
      rw [lastGiven_selectSettings]
      simp only [Call.override, Except.toOption, Option.bind_some]
      cases chosen values space k <;> rfl
  | _ => cases h

theorem overrides_step (s : Settings) (c : Call) (k : String) :
    (s.step c).overrides.get? k = (c.override k).getD (s.overrides.get? k) := by
  cases h : c.reading with
  | none => exact (step_of_reading_none h).2
  | some r => rw [(step_of_reading (k := k) h).1, override_of_reading h, Option.getD_none]

theorem module_step (s : Settings) (c : Call) (k : String) :
    (s.step c).module.get? k = (c.load k).or (s.module.get? k) := by
  cases h : c.reading with
  | none => rw [(step_of_reading_none (k := k) h).1, load_of_reading_none h, Option.none_or]
  | some r => exact (step_of_reading h).2

/-! ### What a history says -/

/-- The override that is left of a key: the last one given, unless it was taken away since. -/
def overridden (log : List Call) (k : String) : Option Value :=
  (log.filterMap (Call.override k)).getLast?.join

def loaded (log : List Call) (k : String) : Option Value :=
  (log.filterMap (Call.load k)).getLast?

def firstLayer (override module default : Option Value) : Option (Layer × Value) :=
  (override.map fun v => (.override, v)).or
    ((module.map fun v => (.module, v)).or (default.map fun v => (.default, v)))

/-- The layer and the value that a key is read from after calls. -/
def provided (log : List Call) (k : String) : Option (Layer × Value) :=
  firstLayer (overridden log k) (loaded log k) (defaultSettings.get? k)

theorem getLast?_filterMap_cons {β : Type} (f : α → Option β) (a : α) (l : List α) :
    ((a :: l).filterMap f).getLast? = ((l.filterMap f).getLast?).or (f a) := by
  cases h : f a with
  | none => rw [List.filterMap_cons_none h, Option.or_none]
  | some b =>
    rw [List.filterMap_cons_some h, List.getLast?_cons]
    cases (l.filterMap f).getLast? <;> rfl

theorem overrides_run (s : Settings) (log : List Call) (k : String) :
    (s.run log).overrides.get? k =
      ((log.filterMap (Call.override k)).getLast?).getD (s.overrides.get? k) := by
  induction log generalizing s with
  | nil => rfl
  | cons c log ih =>
    have hrun : s.run (c :: log) = (s.step c).run log := rfl
    rw [hrun, ih, overrides_step, getLast?_filterMap_cons]
    cases (log.filterMap (Call.override k)).getLast? <;> rfl

theorem module_run (s : Settings) (log : List Call) (k : String) :
    (s.run log).module.get? k = (loaded log k).or (s.module.get? k) := by
  induction log generalizing s with
  | nil => rfl
  | cons c log ih =>
    have hrun : s.run (c :: log) = (s.step c).run log := rfl
    rw [hrun, ih, module_step, ← Option.or_assoc, loaded, loaded, getLast?_filterMap_cons]

theorem overrides_run_empty (log : List Call) (k : String) :
    (empty.run log).overrides.get? k = overridden log k := by
  rw [overrides_run, overridden]
  cases (log.filterMap (Call.override k)).getLast? <;> rfl

theorem module_run_empty (log : List Call) (k : String) :
    (empty.run log).module.get? k = loaded log k := by
  rw [module_run]
  exact Option.or_none

/-! ### Reading -/

theorem get?_eq (s : Settings) (k : String) :
    s.get? k = (firstLayer (s.overrides.get? k) (s.module.get? k)
      (defaultSettings.get? k)).map Prod.snd := by
  rw [get?]
  cases s.overrides.get? k with
  | some v => rfl
  | none =>
    cases s.module.get? k with
    | some v => rfl
    | none => cases defaultSettings.get? k <;> rfl

theorem layer?_eq (s : Settings) (k : String) :
    s.layer? k = (firstLayer (s.overrides.get? k) (s.module.get? k)
      (defaultSettings.get? k)).map Prod.fst := by
  have hlayers : ∀ o m d : Option Value,
      (if o.isSome then some Layer.override else if m.isSome then some .module
        else if d.isSome then some .default else none) = (firstLayer o m d).map Prod.fst := by
    intro o m d
    cases o <;> cases m <;> cases d <;> rfl
  exact hlayers _ _ _

theorem mem_keys_iff (s : Settings) (k : String) :
    k ∈ s.keys ↔ (s.get? k).isSome = true := by
  rw [keys, ← Ordered.isSome_get?_iff]
  simp only [Ordered.get?_insertAll_eq, Ordered.lastGiven_entries, get?, Ordered.get?_empty,
    Option.or_none]

theorem size_eq (s : Settings) : s.size = s.keys.length := by
  have hset : ∀ l : List String, (l.foldr List.insert []).Nodup := by
    intro l
    induction l with
    | nil => exact List.nodup_nil
    | cons k rest ih => exact ih.insert
  have hmem : ∀ (l : List String) (k : String), k ∈ l.foldr List.insert [] ↔ k ∈ l := by
    intro l k
    induction l with
    | nil => rfl
    | cons k' rest ih => rw [List.foldr_cons, List.mem_insert_iff, ih, List.mem_cons]
  have hkeys : s.keys.Nodup := Ordered.nodup_keys _
  refine ((List.perm_ext_iff_of_nodup (hset _) hkeys).2 fun k => ?_).length_eq
  rw [hmem, mem_keys_iff, get?]
  simp only [List.mem_append, ← Ordered.isSome_get?_iff, Option.isSome_or, Bool.or_eq_true,
    or_assoc]

/-! ### Objects that follow their calls -/

def answer (k : String) : Option α → Except Fault α
  | some a => .ok a
  | none => .error (.missingKey k)

theorem get_eq (s : Settings) (k : String) : s.get k = answer k (s.get? k) := by
  rw [get]
  cases s.get? k <;> rfl

theorem origin_eq (s : Settings) (k : String) : s.origin k = answer k (s.layer? k) := by
  rw [origin]
  cases s.layer? k <;> rfl

/-- The calls that fail after others, each with its fault. -/
inductive Call.Fails (log : List Call) : Call → Fault → Prop
  | delete {key : String} : overridden log key = none → Fails log (.delete key) (.missingKey key)
  | mapping {e : Fault} {space : Option String} : Fails log (.mapping (.error e) space) e
  | object {e : Fault} {space : Option String} : Fails log (.object (.error e) space) e
  | importing {modules : SettingsModules} {name : String} {space : Option String} {e : Fault} :
    Unimportable modules name e → Fails log (.importing modules name space) e
  | environment {modules : SettingsModules} {name? : Option String} {space : Option String}
    {e : Fault} : variableName name? ≠ "" → Unimportable modules (variableName name?) e →
      Fails log (.environment modules name? space) e

structure Follows (s : Settings) (log : List Call) : Prop where
  value : ∀ k, s.get k = answer k ((provided log k).map Prod.snd)
  origin : ∀ k, s.origin k = answer k ((provided log k).map Prod.fst)
  once : s.keys.Nodup
  listed : ∀ k, k ∈ s.keys ↔ (provided log k).isSome = true
  counted : s.size = s.keys.length
  fails : ∀ c e, s.perform c = .error e ↔ Call.Fails log c e
  unimportable : ∀ modules name space,
    (∃ e, Call.Fails log (.importing modules name space) e) ↔ named? modules name = none
  unchanged : ∀ c e, Call.Fails log c e → s.step c = s

theorem fails_of_reading {e : Fault} (h : c.reading = some (read, space)) :
    Call.Fails log c e ↔ read = .error e := by
  cases c with
  | object read space =>
    cases h
    constructor
    · rintro ⟨⟩
      rfl
    · rintro rfl
      exact .object
  | importing modules name space =>
    cases h
    rw [importModule_error_iff]
    constructor
    · rintro ⟨⟩
      assumption
    · exact .importing
  | environment modules name? space =>
    cases h
    split
    · rename_i hblank
      constructor
      · rintro ⟨⟩
        contradiction
      · rintro ⟨⟩
    · rename_i hnamed
      rw [importModule_error_iff]
      constructor
      · rintro ⟨⟩
        assumption
      · exact .environment hnamed
  | _ => cases h

theorem perform_error_iff {e : Fault} (h : ∀ k, s.overrides.get? k = overridden log k) :
    s.perform c = .error e ↔ Call.Fails log c e := by
  cases hreading : c.reading with
  | some r =>
    obtain ⟨read, space⟩ := r
    rw [perform_of_reading hreading, fails_of_reading hreading]
    cases read with
    | error e' => simp only [Except.map, Except.error.injEq]
    | ok values => simp only [Except.map, reduceCtorEq]
  | none =>
    cases c with
    | assign key v =>
      constructor
      · intro hfail
        cases hfail
      · rintro ⟨⟩
    | delete key =>
      simp only [perform, delete, Ordered.contains, h]
      cases hkey : overridden log key with
      | some v =>
        constructor
        · intro hfail
          cases hfail
        · rintro ⟨hnone⟩
          cases hkey.symm.trans hnone
      | none =>
        constructor
        · intro hfail
          cases hfail
          exact .delete hkey
        · rintro ⟨⟩
          rfl
    | mapping read space =>
      constructor
      · intro hfail
        cases read with
        | error e' =>
          cases hfail
          exact .mapping
        | ok values => cases hfail
      · rintro ⟨⟩
        rfl
    | _ => cases hreading

theorem follows_run (log : List Call) : (empty.run log).Follows log where
  value := by
    intro k
    rw [get_eq, get?_eq, overrides_run_empty, module_run_empty, provided]
  origin := by
    intro k
    rw [origin_eq, layer?_eq, overrides_run_empty, module_run_empty, provided]
  once := Ordered.nodup_keys _
  listed := by
    intro k
    rw [mem_keys_iff, get?_eq, overrides_run_empty, module_run_empty, Option.isSome_map]
    rfl
  counted := size_eq _
  fails := fun c e => perform_error_iff (overrides_run_empty log)
  unimportable := by
    intro modules name space
    rw [← exists_unimportable_iff]
    refine exists_congr fun e => ⟨?_, .importing⟩
    rintro ⟨⟩
    assumption
  unchanged := by
    intro c e hfails
    rw [step, (perform_error_iff (overrides_run_empty log)).2 hfails]

/-! ### Programs with many objects -/

/-- Something done with the settings objects of a program: another one is made, with mappings as
overrides, or the one that was made as the `i`-th is called. -/
inductive Event
  | make (layers : List Attributes)
  | call (i : Nat) (c : Call)

def occur (objects : List Settings) : Event → List Settings
  | .make layers => objects ++ [ofLayers layers]
  | .call i c => objects.modify i fun s => s.step c

def objectsAfter (events : List Event) : List Settings :=
  events.foldl occur []

def assignments (layers : List Attributes) : List Call :=
  layers.flatMap fun l => l.entries.map fun e => .assign e.1 e.2

def callsOn (i : Nat) (events : List Event) : List Call :=
  events.filterMap fun
    | .make _ => none
    | .call j c => if j = i then some c else none

theorem run_append (s : Settings) (log more : List Call) :
    s.run (log ++ more) = (s.run log).run more :=
  List.foldl_append

theorem run_assign (s : Settings) (entries : List (String × Value)) :
    s.run (entries.map fun e => .assign e.1 e.2) =
      { s with overrides := s.overrides.insertAll entries } := by
  induction entries generalizing s with
  | nil => rfl
  | cons e rest ih => exact ih (s.set e.1 e.2)

theorem ofLayers_eq (layers : List Attributes) :
    ofLayers layers = empty.run (assignments layers) := by
  have hall : ∀ s : Settings,
      { s with overrides := layers.foldl (fun m l => m.insertAll l.entries) s.overrides } =
        s.run (assignments layers) := by
    induction layers with
    | nil => exact fun s => rfl
    | cons l rest ih =>
      intro s
      rw [assignments, List.flatMap_cons, run_append, run_assign]
      exact ih ⟨s.overrides.insertAll l.entries, s.module⟩
  exact hall empty

theorem getElem?_foldl_occur {objects : List Settings} {i : Nat} {s : Settings}
    (h : objects[i]? = some s) (events : List Event) :
    (events.foldl occur objects)[i]? = some (s.run (callsOn i events)) := by
  induction events generalizing objects s with
  | nil => exact h
  | cons event rest ih =>
    cases event with
    | make layers =>
      apply ih
      rw [occur, List.getElem?_append_left (List.getElem?_eq_some_iff.1 h).1, h]
    | call j c =>
      rw [List.foldl_cons, occur]
      by_cases hj : j = i
      · have hcalls : callsOn i (.call j c :: rest) = c :: callsOn i rest :=
          List.filterMap_cons_some (if_pos hj)
        rw [hcalls]
        apply ih (s := s.step c)
        rw [hj, List.getElem?_modify_eq, h]
        rfl
      · have hcalls : callsOn i (.call j c :: rest) = callsOn i rest :=
          List.filterMap_cons_none (if_neg hj)
        rw [hcalls]
        apply ih
        rw [List.getElem?_modify_ne _ _ hj, h]

/-- Whatever was done before an object is made and is done with others, the object is read as the
mappings it was made with and its own calls say, over the same defaults. -/
theorem follows_own_calls (before after : List Event) (layers : List Attributes) :
    ∃ s, (objectsAfter (before ++ .make layers :: after))[(objectsAfter before).length]? = some s ∧
      s.Follows (assignments layers ++ callsOn (objectsAfter before).length after) := by
  refine ⟨_, ?_, follows_run _⟩
  rw [objectsAfter, List.foldl_append, List.foldl_cons, run_append, ← ofLayers_eq]
  apply getElem?_foldl_occur
  simp [occur, objectsAfter]

end Foundry.Settings
