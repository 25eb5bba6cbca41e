import Foundry.Config
import Foundry.Proofs.Factory.Execution
import Foundry.Proofs.Factory.Resolution
import Foundry.Proofs.Provider.Answers
import Foundry.Proofs.Registry.History
import Foundry.Validation
import Mathlib.Data.List.Find

/-!
A generated factory constructs the members of its group.
-/

namespace Foundry.Factory

open Foundry.Text

/-! ### Names in the factory -/

variable {runtimeModule : String} {p : Plan} {classes : Classes}

theorem privateName_of_startsWith {owner name : String} (h : startsWith name "__" = false) :
    privateName owner name = name := by
  simp [privateName, h]

theorem Public.map_eq {owner : String} {names : List String} (h : Public owner names) :
    names.map (privateName owner) = names := by
  have hid : names.map (privateName owner) = names.map id := List.map_congr_left h
  rw [hid, List.map_id]

/-- A class and those it stands in are there. -/
def Present (classes : Classes) (c : QualifiedName) : Prop :=
  ∀ names ∈ (segments c.qualname).inits, names ≠ [] →
    classes ⟨c.module, dotted names⟩ = true

instance (classes : Classes) (c : QualifiedName) : Decidable (Present classes c) :=
  inferInstanceAs (Decidable (∀ names ∈ _, names ≠ [] → _))

/-- From a class, names lead to the class that stands in it under these names, if all on the way
are there. -/
theorem follow_imported {classes : Classes} {module : String} {outer inner : List String}
    (houter : outer ≠ [])
    (hclasses : ∀ names, names <+: inner → names ≠ [] →
      classes ⟨module, dotted (outer ++ names)⟩ = true) :
    follow classes (.imported ⟨module, dotted outer⟩) inner =
      .ok (.imported ⟨module, dotted (outer ++ inner)⟩) := by
  induction inner generalizing outer with
  | nil => rw [follow, List.append_nil]
  | cons name rest ih =>
    have hnext : dotted outer ++ "." ++ name = dotted (outer ++ [name]) :=
      (dotted_append houter (List.cons_ne_nil name [])).symm
    have hthere : classes ⟨module, dotted (outer ++ [name])⟩ = true :=
      hclasses [name] ⟨rest, rfl⟩ (List.cons_ne_nil name [])
    rw [follow, hnext, if_pos hthere, ih (by simp) fun names hnames _ => ?_]
    · rw [List.append_assoc, List.singleton_append]
    · rw [List.append_assoc, List.singleton_append]
      exact hclasses (name :: names) (List.cons_prefix_cons.2 ⟨rfl, hnames⟩)
        (List.cons_ne_nil name names)

theorem follow_target {classes : Classes} {i : Import} {target : QualifiedName}
    (hserves : i.Serves target) (hpresent : Present classes target) :
    follow classes (.imported i.place) (segments target.qualname).tail =
      .ok (.imported target) := by
  have hsegments := exists_segments target
  have hclasses : ∀ names, names <+: (segments target.qualname).tail → names ≠ [] →
      classes ⟨target.module, dotted ([target.topLevel] ++ names)⟩ = true := by
    intro names hnames _
    refine hpresent (target.topLevel :: names) ?_ (List.cons_ne_nil _ _)
    rw [List.mem_inits, hsegments]
    exact List.cons_prefix_cons.2 ⟨rfl, hnames⟩
  have hfollow := follow_imported (List.cons_ne_nil _ _) hclasses
  rw [List.singleton_append, ← hsegments, dotted_segments] at hfollow
  unfold Import.place
  rw [hserves.1, hserves.2]
  exact hfollow

theorem lookUp_head {classes : Classes} {scopes : List Scope} {name : String} {b : Bound}
    (h : (scopes.findSome? fun s => s.get? name) = some b) (rest : List String) :
    lookUp classes scopes (name :: rest) = follow classes b rest := by
  rw [lookUp, h]

theorem Plan.Unshadowed.bound_ne (hopen : p.Unshadowed) {i : Import} (hi : i ∈ p.imports) :
    i.bound ≠ "self" ∧ i.bound ≠ "identifier" ∧ i.bound ≠ "__all__" ∧ i.bound ≠ "__debug__" := by
  have hbound := hopen.imports i hi
  simp only [List.mem_cons, not_or] at hbound
  exact ⟨hbound.1, hbound.2.1, hbound.2.2.1, hbound.2.2.2.1⟩

theorem get?_importScope (hsound : p.Sound) {i : Import} (hi : i ∈ p.imports) :
    (importScope p.imports).get? i.bound = some (.imported i.place) :=
  get?_bindImports _ hsound.distinct hi

theorem get?_globals_import (hsound : p.Sound) (hopen : p.Unshadowed) {i : Import}
    (hi : i ∈ p.imports) :
    (p.executed classes).globals.get? i.bound = some (.imported i.place) := by
  obtain ⟨-, -, hall, -⟩ := hopen.bound_ne hi
  exact (Ordered.get?_insert_of_ne _ _ hall).trans
    ((Ordered.get?_insert_of_ne _ _ (hsound.fresh i hi).1).trans (get?_importScope hsound hi))

theorem get?_globals_error (hsound : p.Sound)
    (hplain : Plain runtimeModule p.factoryName p.targets) :
    (p.executed classes).globals.get? errorName = some .unknownIdentifier := by
  have hfactory := hplain.factory.2
  simp only [List.mem_cons, List.not_mem_nil, or_false, not_or] at hfactory
  have hscope : (importScope p.imports).get? errorName = some .unknownIdentifier :=
    (get?_bindImports_of_ne _ fun i hi => (hsound.fresh i hi).2).trans
      (Ordered.get?_insert_self _ _ _)
  exact (Ordered.get?_insert_of_ne _ _ (show errorName ≠ "__all__" by decide)).trans
    ((Ordered.get?_insert_of_ne _ _ (Ne.symm hfactory.1)).trans hscope)

theorem get?_globals_factory (hplain : Plain runtimeModule p.factoryName p.targets) :
    (p.executed classes).globals.get? p.factoryName = some (.factory p.factoryName) := by
  have hfactory := hplain.factory.2
  simp only [List.mem_cons, List.not_mem_nil, or_false, not_or] at hfactory
  exact (Ordered.get?_insert_of_ne _ _ hfactory.2.1).trans (Ordered.get?_insert_self _ _ _)

theorem get?_locals {g : Generated} (v : Value) {name : String} (hself : name ≠ "self")
    (hidentifier : name ≠ "identifier") : (g.locals v).get? name = none :=
  (Ordered.get?_insert_of_ne _ _ hidentifier).trans (Ordered.get?_insert_of_ne _ _ hself)

theorem get?_attributes {name : String} (hgroup : name ≠ "group")
    (hidentifiers : name ≠ "identifiers") : p.attributes.get? name = none :=
  (Ordered.get?_insert_of_ne _ _ hidentifiers).trans (Ordered.get?_insert_of_ne _ _ hgroup)

theorem map_privateName_segments (hopen : p.Unshadowed) {i : Import} (hi : i ∈ p.imports)
    {target : QualifiedName} (htarget : target ∈ p.targets) :
    (i.bound :: (segments target.qualname).tail).map (privateName p.factoryName) =
      i.bound :: (segments target.qualname).tail :=
  Public.map_eq (List.forall_mem_cons.2
    ⟨hopen.bound i hi, hopen.inner target htarget⟩)

/-! ### The factory at work -/

theorem lookUp_result (hsound : p.Sound) (hplain : Plain runtimeModule p.factoryName p.targets)
    (hopen : p.Unshadowed) (hpresent : ∀ c ∈ p.targets, Present classes c) :
    ∃ b, lookUp classes [p.attributes, importScope p.imports]
      ((segments p.groupBound).map (privateName p.factoryName)) = .ok b := by
  obtain ⟨i, hi, hserves, hsegments⟩ :=
    segments_of_names hsound hplain (mem_targets_group p) hsound.group
  have hscope := get?_importScope hsound hi
  rw [hsegments, map_privateName_segments hopen hi (mem_targets_group p)]
  cases htail : (segments p.group.qualname).tail with
  | nil =>
    -- The attributes of the factory may hide the import here, but a value does as well.
    cases hattribute : p.attributes.get? i.bound with
    | none => exact ⟨.imported i.place, lookUp_head (by simp [hattribute, hscope]) []⟩
    | some b => exact ⟨b, (lookUp_head (b := b) (by simp [hattribute]) []).trans (by rw [follow])⟩
  | cons w ws =>
    have hbound := hopen.annotation (by simp [htail]) i hi hserves
    simp only [List.mem_cons, not_or] at hbound
    have hattribute := get?_attributes (p := p) hbound.1 hbound.2.1
    rw [← htail, lookUp_head (b := .imported i.place) (by simp [hattribute, hscope])]
    exact ⟨_, follow_target hserves (hpresent _ (mem_targets_group p))⟩

theorem legible_of_unshadowed (hsound : p.Sound)
    (hplain : Plain runtimeModule p.factoryName p.targets) (hopen : p.Unshadowed) :
    p.Legible runtimeModule :=
  legible_of_plain hsound hplain fun _ hi => (hopen.bound_ne hi).2.2.2

theorem ofText_render_executed (hsound : p.Sound)
    (hplain : Plain runtimeModule p.factoryName p.targets) (hopen : p.Unshadowed)
    (hpresent : ∀ c ∈ p.targets, Present classes c) :
    Generated.ofText classes (render runtimeModule p) = .ok (p.executed classes) := by
  obtain ⟨b, hb⟩ := lookUp_result hsound hplain hopen hpresent
  rw [ofText_render classes (legible_of_unshadowed hsound hplain hopen), foldlM_program, hb]
  rfl

theorem construct_executed (hsound : p.Sound)
    (hplain : Plain runtimeModule p.factoryName p.targets) (hopen : p.Unshadowed)
    (hpresent : ∀ c ∈ p.targets, Present classes c) {b : Branch} (hb : b ∈ p.branches) (v : Value) :
    (p.executed classes).construct v (segments b.bound) = .made b.target := by
  obtain ⟨i, hi, hserves, hsegments⟩ :=
    segments_of_names hsound hplain (mem_targets_of_branch hb) (hsound.branches b hb)
  obtain ⟨hself, hidentifier, -⟩ := hopen.bound_ne hi
  have hlocal := get?_locals (g := p.executed classes) v hself hidentifier
  have hglobal : (p.executed classes).globals.get? i.bound = some (.imported i.place) :=
    get?_globals_import hsound hopen hi
  have hlook : lookUp (p.executed classes).classes
      [(p.executed classes).locals v, (p.executed classes).globals]
      (i.bound :: (segments b.target.qualname).tail) = .ok (.imported b.target) := by
    rw [lookUp_head (b := .imported i.place) (by simp [hlocal, hglobal])]
    exact follow_target hserves (hpresent _ (mem_targets_of_branch hb))
  have hnames : (segments b.bound).map (privateName (p.executed classes).factoryName) =
      i.bound :: (segments b.target.qualname).tail :=
    hsegments ▸ map_privateName_segments hopen hi (mem_targets_of_branch hb)
  rw [Generated.construct, hnames, hlook]

/-- An identifier that has a text is refused with it. -/
theorem refuse_executed (hsound : p.Sound)
    (hplain : Plain runtimeModule p.factoryName p.targets) {v : Value} {shown : String}
    (hv : v.repr = .ok shown) :
    (p.executed classes).refuse v = .unknown v p.group.text := by
  have hlocal : ((p.executed classes).locals v).get? errorName = none :=
    get?_locals v (by decide) (by decide)
  have hglobal : (p.executed classes).globals.get? errorName = some .unknownIdentifier :=
    get?_globals_error hsound hplain
  have hlook : lookUp (p.executed classes).classes
      [(p.executed classes).locals v, (p.executed classes).globals] [errorName] =
      .ok .unknownIdentifier :=
    (lookUp_head (b := .unknownIdentifier) (by simp [hlocal, hglobal]) []).trans (by rw [follow])
  rw [Generated.refuse, hlook, hv]
  rfl

/-- The factory does for every identifier that has a text what the plan selects. -/
theorem answer_executed (hsound : p.Sound)
    (hplain : Plain runtimeModule p.factoryName p.targets) (hopen : p.Unshadowed)
    (hpresent : ∀ c ∈ p.targets, Present classes c) {v : Value} {shown : String}
    (hv : v.repr = .ok shown) :
    (p.executed classes).answer v =
      match p.select v with
      | some b => .made b.target
      | none => .unknown v p.group.text := by
  have hfind : ((p.executed classes).branches.find? fun b => v.same (.text b.1)) =
      (p.select v).map fun b => (b.identifier, segments b.bound) :=
    List.find?_map
  rw [Generated.answer, hfind]
  cases hselect : p.select v with
  | some b =>
    exact construct_executed hsound hplain hopen hpresent (List.mem_of_find?_eq_some hselect) v
  | none => exact refuse_executed hsound hplain hv

theorem identifiers_executed (p : Plan) (classes : Classes) :
    (p.executed classes).identifiers = .tuple (p.identifiers.map .text) := by
  have hget : (p.executed classes).attributes.get? "identifiers" =
      some (.value (.tuple (p.identifiers.map .text))) := Ordered.get?_insert_self _ _ _
  rw [Generated.identifiers, Generated.valueOf, hget]

/-! ### Groups -/

/-- Every member is kept under its own identifier. -/
def Keyed (g : Group) : Prop :=
  ∀ e ∈ g.members.entries, e.2.identifier = e.1

/-- Whatever was done to a registry, its groups keep their members so. -/
theorem keyed_of_replay {calls : List Registry.Call} {g : Group}
    (hg : g ∈ (Registry.replay calls).registry.groups) : Keyed g := by
  intro e he
  rw [(Registry.replay_follows calls).entries hg] at he
  exact (Registry.mem_membersOf.1 (show (e.1, e.2) ∈ _ from he)).2.2

theorem identifiers_make {g : Group} (hg : Keyed g) (n : Naming) (group : QualifiedName) :
    (Plan.make n group g.records).identifiers = g.members.keys := by
  rw [Plan.make_identifiers, Group.records, Ordered.values, Ordered.keys, List.map_map]
  exact List.map_congr_left fun e he => hg e he

/-- The plan selects the member that has an identifier. -/
theorem select_make {g : Group} (hg : Keyed g) (n : Naming) (group : QualifiedName)
    (identifier : String) :
    ((Plan.make n group g.records).select (.text identifier)).map
      (fun b => (b.identifier, b.target)) =
      (g.members.get? identifier).map fun r => (identifier, r.declaration.name) := by
  have hbranches := List.find?_map (p := fun e => identifier == e.1)
    (f := fun b : Branch => (b.identifier, b.target)) (l := (Plan.make n group g.records).branches)
  have hentries : g.records.map (fun r => (r.identifier, r.declaration.name)) =
      g.members.entries.map fun e => (e.2.identifier, e.2.declaration.name) := by
    rw [Group.records, Ordered.values, List.map_map]
    rfl
  have hfound : (g.members.entries.find? fun e => identifier == e.2.identifier) =
      g.members.entries.find? fun e => e.1 = identifier := by
    refine List.find?_congr fun e he => ?_
    rw [hg e he, Bool.beq_eq_decide_eq]
    exact decide_eq_decide.2 eq_comm
  rw [Plan.make_targets, hentries, List.find?_map] at hbranches
  refine hbranches.symm.trans ?_
  change (g.members.entries.find? fun e => identifier == e.2.identifier).map _ = _
  rw [Ordered.get?, hfound, Option.map_map]
  cases hentry : g.members.entries.find? fun e => e.1 = identifier with
  | none => rfl
  | some e =>
    have hkey : e.1 = identifier := by simpa using List.find?_some hentry
    have hidentifier := hg e (List.mem_of_find?_eq_some hentry)
    simp [hidentifier, hkey]

theorem planGroup_answer {σ : Type} {q : Provider σ} {g : Group} {s : σ} {d : Declaration}
    (hmembers : g.members.isEmpty = false) (hknown : (q.get g.name).answer s = .ok (some d))
    (n : Naming) : (planGroup q n g).answer s = .ok (Plan.make n d.name g.records) := by
  rw [planGroup, if_neg (by rw [hmembers]; decide), Query.answer_bind hknown]
  rfl

def ordinary (module qualname : String) : Declaration :=
  Declaration.complete ⟨module, qualname⟩ .ordinary none false [] none [] [.standard] none none

def drinkStore : Store := Store.ofDeclarations [ordinary "shop" "Drink"]

/-- Two classes of one name, nested ones, and identifiers that need escapes. -/
def drinks : Group :=
  ⟨"shop.Drink", Ordered.ofList
    [("it's \\\n", ⟨"it's \\\n", "shop.Drink", ordinary "shop.hot" "Coffee"⟩),
     ("", ⟨"", "shop.Drink", ordinary "shop.cold" "Coffee"⟩),
     ("\x00\"", ⟨"\x00\"", "shop.Drink", ordinary "shop" "Drink.Tonic"⟩),
     ("mate", ⟨"mate", "shop.Drink", ordinary "shop" "Drink.__Mate__"⟩)]⟩

def drinkClasses : Classes := fun c =>
  [⟨"shop", "Drink"⟩, ⟨"shop", "Drink.Tonic"⟩, ⟨"shop", "Drink.__Mate__"⟩, ⟨"shop.hot", "Coffee"⟩,
    ⟨"shop.cold", "Coffee"⟩].contains c

def hiddenTea : Declaration :=
  { ordinary "m" "Tea" with superclass := some "m.__Drink", bases := ["m.__Drink"] }

def hiddenRecord : Record := ⟨"tea", "m.__Drink", hiddenTea⟩

def hiddenStore : Store := Store.ofDeclarations [ordinary "m" "__Drink", hiddenTea]

def hidden : Group := ⟨"m.__Drink", Ordered.ofList [("tea", hiddenRecord)]⟩

def hiddenPlan : Plan where
  group := ⟨"m", "__Drink"⟩
  groupBound := "__Drink"
  factoryName := "__DrinkFactory"
  moduleName := "___drink_factory"
  imports := [⟨"m", "Tea", none⟩, ⟨"m", "__Drink", none⟩]
  branches := [⟨"tea", ⟨"m", "Tea"⟩, "Tea"⟩]

theorem make_hidden :
    Plan.make Config.standard.naming ⟨"m", "__Drink"⟩ hidden.records = hiddenPlan := by
  have hbound : (tableFor Config.standard.naming ⟨"m", "__Drink"⟩ hidden.records).imports =
      [⟨"m", "__Drink", none⟩, ⟨"m", "Tea", none⟩] := by decide
  have hsorted : (tableFor Config.standard.naming ⟨"m", "__Drink"⟩ hidden.records).sorted =
      hiddenPlan.imports := by
    rw [ImportTable.sorted, hbound, List.mergeSort]
    simp only [List.MergeSort.Internal.splitInTwo, List.splitAt, List.splitAt.go,
      List.length_cons, List.length_nil]
    rw [List.reverse_singleton, List.mergeSort_singleton, List.mergeSort_singleton]
    -- The capital letter comes before the underscore.
    refine Eq.trans (List.cons_merge_cons_neg _ _ _ ?_) ?_
    · decide
    · rw [List.merge_right]
      rfl
  have hfields : Plan.make Config.standard.naming ⟨"m", "__Drink"⟩ hidden.records =
      { hiddenPlan with
        imports := (tableFor Config.standard.naming ⟨"m", "__Drink"⟩ hidden.records).sorted } := by
    rfl
  rw [hfields, hsorted]

def outerStore : Store := Store.ofDeclarations [ordinary "m" "Outer"]

def outerClasses : Classes := fun c => [⟨"m", "Outer"⟩, ⟨"m", "Outer.__Inner"⟩].contains c

def outer : Group :=
  ⟨"m.Outer", Ordered.ofList [("x", ⟨"x", "m.Outer", ordinary "m" "Outer.__Inner"⟩)]⟩

def outerPlan : Plan where
  group := ⟨"m", "Outer"⟩
  groupBound := "Outer"
  factoryName := "OuterFactory"
  moduleName := "outer_factory"
  imports := [⟨"m", "Outer", none⟩]
  branches := [⟨"x", ⟨"m", "Outer.__Inner"⟩, "Outer.__Inner"⟩]

theorem make_outer : Plan.make .standard ⟨"m", "Outer"⟩ outer.records = outerPlan := by
  decide +kernel

/-- A private inner name is read as one of the factory, and the member is missed. -/
theorem private_inner_class_is_missed :
    (planGroup Store.provider .standard outer).answer outerStore = .ok outerPlan ∧
    (∀ c ∈ outerPlan.targets, Present outerClasses c) ∧
    ∃ m, Generated.ofText outerClasses (render Naming.standard.runtimeModule outerPlan) = .ok m ∧
      m.answer (.text "x") = .failed (.raised "AttributeError"
        "type object 'Outer' has no attribute '_OuterFactory__Inner'") := by
  have hplain : Plain Naming.standard.runtimeModule outerPlan.factoryName outerPlan.targets :=
    ⟨by decide, by decide, ⟨⟨by decide, by decide⟩, by decide⟩⟩
  have hsound : outerPlan.Sound := make_outer ▸ Plan.make_sound .standard ⟨"m", "Outer"⟩ _
  have hplan : (planGroup Store.provider .standard outer).answer outerStore = .ok outerPlan := by
    rw [planGroup_answer (d := ordinary "m" "Outer") (by decide) (by rfl) .standard]
    exact congrArg Except.ok make_outer
  refine ⟨hplan, by decide, outerPlan.executed outerClasses, ?_, by rfl⟩
  rw [ofText_render outerClasses (legible_of_plain hsound hplain (by decide)), foldlM_program]
  rfl

end Foundry.Factory
