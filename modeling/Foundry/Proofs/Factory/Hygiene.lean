import Foundry.Config
import Foundry.Proofs.Factory.Meaning
import Foundry.Validation

/-!
Which imports of a generated module are captured by names that the module binds itself.
-/

namespace Foundry.Factory

open Foundry.Text

variable {reserved : List String} {t : ImportTable}

/-! ### Taken names -/

theorem taken_of_freeName_ne {taken : List String} {name : String}
    (h : freeName taken name ≠ name) : name ∈ taken := by
  unfold freeName at h
  split at h
  · rename_i hcontains
    exact List.contains_iff_mem.1 hcontains
  · exact absurd rfl h

/-- A name is taken because it is reserved or because an import binds it, and imports take their own
names in any case. -/
structure ImportTable.Covered (reserved : List String) (t : ImportTable) : Prop where
  taken : ∀ n ∈ t.taken, n ∈ reserved ∨ ∃ i ∈ t.imports, i.bound = n
  names : ∀ i ∈ t.imports, i.name ∈ t.taken

theorem covered_reserve (reserved : List String) :
    (ImportTable.reserve reserved).Covered reserved :=
  ⟨fun _ hn => .inl hn, fun _ hi => absurd hi List.not_mem_nil⟩

theorem bind_covered (h : t.Covered reserved) (target : QualifiedName) :
    (t.bind target).2.Covered reserved ∧ t.taken ⊆ (t.bind target).2.taken ∧
      target.topLevel ∈ (t.bind target).2.taken := by
  cases hfind : t.find? target with
  | some i =>
    have hserves : i.Serves target := by simpa [Import.Serves] using List.find?_some hfind
    rw [bind_of_find? hfind]
    refine ⟨h, fun _ hn => hn, ?_⟩
    rw [← hserves.2]
    exact h.names i (List.mem_of_find?_eq_some hfind)
  | none =>
    rw [bind_of_none hfind]
    have hname : target.topLevel ∈ freeName t.taken target.topLevel :: t.taken := by
      by_cases heq : freeName t.taken target.topLevel = target.topLevel
      · rw [heq]
        exact List.mem_cons_self
      · exact List.mem_cons_of_mem _ (taken_of_freeName_ne heq)
    refine ⟨⟨fun n hn => ?_, fun i hi => ?_⟩, fun _ hn => List.mem_cons_of_mem _ hn, hname⟩
    · rcases List.mem_cons.1 hn with rfl | hn
      · exact .inr ⟨newImport t.taken target, List.mem_append_right _ List.mem_cons_self,
          bound_newImport t.taken target⟩
      · rcases h.taken n hn with hres | ⟨i, hi, hbound⟩
        · exact .inl hres
        · exact .inr ⟨i, List.mem_append_left _ hi, hbound⟩
    · rcases List.mem_append.1 hi with hi | hi
      · exact List.mem_cons_of_mem _ (h.names i hi)
      · rw [List.mem_singleton.1 hi]
        exact hname

theorem bindAll_covered (records : List Record) (h : t.Covered reserved) :
    (bindAll records t).2.Covered reserved ∧ t.taken ⊆ (bindAll records t).2.taken ∧
      ∀ r ∈ records, r.declaration.name.topLevel ∈ (bindAll records t).2.taken := by
  induction records generalizing t with
  | nil => exact ⟨h, fun _ hn => hn, fun _ hr => absurd hr List.not_mem_nil⟩
  | cons r records ih =>
    obtain ⟨hcovered, hsub, hname⟩ := bind_covered h r.declaration.name
    obtain ⟨hcovered', hsub', hnames⟩ := ih hcovered
    refine ⟨hcovered', fun n hn => hsub' (hsub hn), fun r' hr' => ?_⟩
    rcases List.mem_cons.1 hr' with rfl | hr'
    · exact hsub' hname
    · exact hnames r' hr'

/-- Every class a plan is about has its top-level name reserved or bound by an import. -/
theorem Plan.make_covers (n : Naming) (group : QualifiedName) (records : List Record) :
    ∀ q ∈ (Plan.make n group records).targets,
      q.topLevel ∈ [n.factoryName group, errorName] ∨
        ∃ i ∈ (Plan.make n group records).imports, i.bound = q.topLevel := by
  intro q hq
  obtain ⟨hcovered, -, hgroup⟩ :=
    bind_covered (covered_reserve [n.factoryName group, errorName]) group
  obtain ⟨hcovered', hsub, hmembers⟩ := bindAll_covered records hcovered
  have htaken : q.topLevel ∈ (tableFor n group records).taken := by
    rcases List.mem_cons.1 hq with rfl | hq
    · exact hsub hgroup
    · rw [Plan.make_branchTargets] at hq
      obtain ⟨r, hr, rfl⟩ := List.mem_map.1 hq
      exact hmembers r hr
  rcases hcovered'.taken _ htaken with hres | ⟨i, hi, hbound⟩
  · exact .inl hres
  · exact .inr ⟨i, mem_imports_make.2 hi, hbound⟩

/-! ### Captured names -/

/-- The names a generated module binds in the scopes of its factory and of the function `create`. -/
def innerNames : List String := ["self", "identifier", "group", "identifiers"]

/-- No import is bound to a name that the module binds itself, in whichever of its scopes. -/
structure Plan.Hygienic (p : Plan) : Prop where
  imports : ∀ i ∈ p.imports, i.bound ∉ p.factoryName :: errorName :: innerNames
  factory : p.factoryName ≠ errorName

theorem ne_numbered_of_inner {name : String} (h : name ∈ innerNames) (base : String) (k : Nat) :
    name ≠ numbered base k := by
  rintro rfl
  have hplain : ∀ n ∈ innerNames, '_' ∉ n.toList := by decide
  apply hplain _ h
  simp [numbered]

/-- An inner name is captured exactly where a class has it as its top-level name, unless the factory
has that name and the class was given another. -/
theorem Plan.make_captured (n : Naming) (group : QualifiedName) (records : List Record)
    {name : String} (hname : name ∈ innerNames) :
    (∃ i ∈ (Plan.make n group records).imports, i.bound = name) ↔
      name ≠ (Plan.make n group records).factoryName ∧
        ∃ q ∈ (Plan.make n group records).targets, q.topLevel = name := by
  have hsound := Plan.make_sound n group records
  constructor
  · rintro ⟨i, hi, rfl⟩
    obtain ⟨⟨q, hq, hserves⟩, hnumbered⟩ := hsound.served i hi
    refine ⟨(hsound.fresh i hi).1, q, hq, ?_⟩
    rcases hnumbered with hbound | ⟨k, hbound⟩
    · rw [← hserves.2, hbound]
    · exact absurd hbound (ne_numbered_of_inner hname i.name k)
  · rintro ⟨hfactory, q, hq, rfl⟩
    rcases Plan.make_covers n group records q hq with hres | himport
    · have herror : errorName ∉ innerNames := by decide
      rcases List.mem_cons.1 hres with heq | hres
      · exact absurd heq hfactory
      · rw [List.mem_singleton.1 hres] at hname
        exact absurd hname herror
    · exact himport

theorem Plan.make_hygienic_iff (n : Naming) (group : QualifiedName) (records : List Record) :
    (Plan.make n group records).Hygienic ↔
      (Plan.make n group records).factoryName ≠ errorName ∧
        ∀ q ∈ (Plan.make n group records).targets, q.topLevel ∈ innerNames →
          q.topLevel = (Plan.make n group records).factoryName := by
  have hsound := Plan.make_sound n group records
  constructor
  · rintro ⟨himports, hfactory⟩
    refine ⟨hfactory, fun q hq hinner => ?_⟩
    by_contra hne
    obtain ⟨i, hi, hbound⟩ := (Plan.make_captured n group records hinner).2 ⟨hne, q, hq, rfl⟩
    apply himports i hi
    rw [hbound]
    exact List.mem_cons_of_mem _ (List.mem_cons_of_mem _ hinner)
  · rintro ⟨hfactory, hinner⟩
    refine ⟨fun i hi hmem => ?_, hfactory⟩
    obtain ⟨hne, herror⟩ := hsound.fresh i hi
    simp only [List.mem_cons (a := i.bound), hne, herror, false_or] at hmem
    obtain ⟨-, q, hq, hname⟩ := (Plan.make_captured n group records hmem).1 ⟨i, hi, rfl⟩
    rw [← hname] at hmem hne
    exact hne (hinner q hq hmem)

/-- The names of the imports are distinct, and none is that of the factory or of its error. An inner
name is captured exactly if a class of the group has it as its top-level name, the name of the
factory apart; so the module is hygienic exactly where there is no such class and the factory is not
named like its error. -/
theorem plan_hygienic_iff {σ : Type} {p : Provider σ} {n : Naming} {g : Group} {s : σ}
    {d : Declaration} (hmembers : g.members.isEmpty = false)
    (hknown : (p.get g.name).answer s = .ok (some d)) :
    ∃ plan, (planGroup p n g).answer s = .ok plan ∧
      plan.factoryName = d.name.simple ++ n.factorySuffix ∧
      plan.targets = d.name :: g.records.map (·.declaration.name) ∧
      (plan.imports.map Import.bound).Nodup ∧
      (∀ i ∈ plan.imports, i.bound ≠ plan.factoryName ∧ i.bound ≠ errorName) ∧
      (∀ name ∈ innerNames, (∃ i ∈ plan.imports, i.bound = name) ↔
        name ≠ plan.factoryName ∧ ∃ q ∈ plan.targets, q.topLevel = name) ∧
      (plan.Hygienic ↔ plan.factoryName ≠ errorName ∧
        ∀ q ∈ plan.targets, q.topLevel ∈ innerNames → q.topLevel = plan.factoryName) := by
  have hsound := Plan.make_sound n d.name g.records
  refine ⟨Plan.make n d.name g.records, planGroup_answer hmembers hknown n, rfl, ?_,
    hsound.distinct, hsound.fresh, fun name => Plan.make_captured n d.name g.records,
    Plan.make_hygienic_iff n d.name g.records⟩
  exact congrArg (d.name :: ·) (Plan.make_branchTargets n d.name g.records)

theorem drinks_plan_hygienic :
    ∃ plan, (planGroup Store.provider .standard drinks).answer drinkStore = .ok plan ∧
      plan.factoryName = "DrinkFactory" ∧ plan.Hygienic := by
  obtain ⟨plan, hplan, hfactory, htargets, -, -, -, hiff⟩ :=
    plan_hygienic_iff (p := Store.provider) (n := .standard) (g := drinks) (s := drinkStore)
      (d := ordinary "shop" "Drink") (by decide) (by rfl)
  have hname : plan.factoryName = "DrinkFactory" := hfactory.trans (by decide)
  refine ⟨plan, hplan, hname, hiff.2 ⟨by rw [hname]; decide, ?_⟩⟩
  rw [htargets]
  have hall : ∀ q ∈ (ordinary "shop" "Drink").name :: drinks.records.map (·.declaration.name),
      q.topLevel ∉ innerNames := by decide
  exact fun q hq hinner => absurd hinner (hall q hq)

/-! ### What capture does -/

/-- Within `create` the names of its parameters never lead to a class. -/
theorem construct_parameter (g : Generated) (v : Value) {name : String}
    (hname : name = "self" ∨ name = "identifier") (rest : List String) :
    ∃ f, g.construct v (name :: rest) = .failed f := by
  have hpublic : privateName g.factoryName name = name := by
    apply privateName_of_startsWith
    rcases hname with rfl | rfl <;> decide
  rw [Generated.construct, List.map_cons, hpublic]
  rcases hname with rfl | rfl
  · cases rest <;> exact ⟨_, rfl⟩
  · cases rest <;> exact ⟨_, rfl⟩

/-- A member whose import has the name of a parameter is never constructed. -/
theorem answer_captured {p : Plan} {v : Value} {b : Branch} (hselect : p.select v = some b)
    {name : String} {rest : List String} (hbound : segments b.bound = name :: rest)
    (hname : name = "self" ∨ name = "identifier") (classes : Classes) :
    ∃ f, (p.executed classes).answer v = .failed f := by
  have hfind : ((p.executed classes).branches.find? fun b => v.same (.text b.1)) =
      some (b.identifier, segments b.bound) := by
    have hmap : ((p.executed classes).branches.find? fun b => v.same (.text b.1)) =
        (p.select v).map fun b => (b.identifier, segments b.bound) := List.find?_map
    rw [hmap, hselect]
    rfl
  obtain ⟨f, hf⟩ := construct_parameter (p.executed classes) v hname rest
  refine ⟨f, ?_⟩
  rw [Generated.answer, hfind, hbound]
  exact hf

def namedLikeParameter : Declaration :=
  { ordinary "m" "identifier" with superclass := some "m.Drink", bases := ["m.Drink"] }

def parameterStore : Store := Store.ofDeclarations [ordinary "m" "Drink", namedLikeParameter]

def parameterRecord : Record := ⟨"tea", "m.Drink", namedLikeParameter⟩

def parameterGroup : Group := ⟨"m.Drink", Ordered.ofList [("tea", parameterRecord)]⟩

def parameterPlan : Plan where
  group := ⟨"m", "Drink"⟩
  groupBound := "Drink"
  factoryName := "DrinkFactory"
  moduleName := "drink_factory"
  imports := [⟨"m", "Drink", none⟩, ⟨"m", "identifier", none⟩]
  branches := [⟨"tea", ⟨"m", "identifier"⟩, "identifier"⟩]

theorem make_parameterPlan :
    Plan.make Config.standard.naming ⟨"m", "Drink"⟩ parameterGroup.records = parameterPlan := by
  have hsorted : (tableFor Config.standard.naming ⟨"m", "Drink"⟩ parameterGroup.records).sorted =
      parameterPlan.imports :=
    (List.mergeSort_of_pairwise (by decide)).trans (by decide)
  have hfields : Plan.make Config.standard.naming ⟨"m", "Drink"⟩ parameterGroup.records =
      { parameterPlan with
        imports := (tableFor Config.standard.naming ⟨"m", "Drink"⟩ parameterGroup.records).sorted } :=
    by rfl
  rw [hfields, hsorted]

/-- A valid member with the name of a parameter keeps that name when it is imported, and its factory
fails on it. -/
theorem parameter_name_captures_member :
    (validate Store.provider Config.standard.maxSuperclassDepth parameterRecord).answer
      parameterStore = .ok () ∧
    (planGroup Store.provider Config.standard.naming parameterGroup).answer parameterStore =
      .ok parameterPlan ∧
    (∃ i ∈ parameterPlan.imports, i.bound = "identifier") ∧
    ¬ parameterPlan.Hygienic ∧
    ∀ classes, Generated.ofText classes (render Config.standard.runtimeModule parameterPlan) =
      .ok (parameterPlan.executed classes) ∧
    ∃ f, (parameterPlan.executed classes).answer (.text "tea") = .failed f := by
  have hplain : Plain Config.standard.runtimeModule parameterPlan.factoryName
      parameterPlan.targets := ⟨by decide, by decide, ⟨⟨by decide, by decide⟩, by decide⟩⟩
  have hsound : parameterPlan.Sound :=
    make_parameterPlan ▸ Plan.make_sound Config.standard.naming ⟨"m", "Drink"⟩ _
  have hplan : (planGroup Store.provider Config.standard.naming parameterGroup).answer
      parameterStore = .ok parameterPlan := by
    rw [planGroup_answer (d := ordinary "m" "Drink") (by decide) (by rfl) Config.standard.naming]
    exact congrArg Except.ok make_parameterPlan
  have hcaptured : ∃ i ∈ parameterPlan.imports, i.bound = "identifier" := by decide
  refine ⟨by rfl, hplan, hcaptured, fun h => ?_, fun classes => ⟨?_,
    answer_captured (b := ⟨"tea", ⟨"m", "identifier"⟩, "identifier"⟩) (by rfl)
      (by decide : segments "identifier" = ["identifier"]) (.inr rfl) classes⟩⟩
  · obtain ⟨i, hi, hbound⟩ := hcaptured
    apply h.imports i hi
    rw [hbound]
    decide
  · rw [ofText_render classes (legible_of_plain hsound hplain (by decide)), foldlM_program]
    rfl

end Foundry.Factory
