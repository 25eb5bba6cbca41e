import Foundry.Proofs.Factory.ImportTable
import Foundry.Proofs.Factory.Program

/-!
What the program of a plan leaves behind when it is executed.
-/

namespace Foundry.Factory

open Foundry.Text

def Import.place (i : Import) : QualifiedName :=
  ⟨i.module, i.name⟩

def bindImports (s : Scope) (imports : List Import) : Scope :=
  imports.foldl (fun s i => s.insert i.bound (.imported i.place)) s

/-- The names that are bound once all imports are done. -/
def importScope (imports : List Import) : Scope :=
  bindImports (Ordered.empty.insert errorName .unknownIdentifier) imports

def Plan.attributes (p : Plan) : Scope :=
  (Ordered.empty.insert "group" (.value (.text p.group.text))).insert "identifiers"
    (.value (.tuple (p.identifiers.map .text)))

def Plan.executed (p : Plan) (classes : Classes) : Generated where
  classes
  globals := ((importScope p.imports).insert p.factoryName (.factory p.factoryName)).insert "__all__"
    (.value (.list [.text p.factoryName]))
  attributes := p.attributes
  factoryName := p.factoryName
  branches := p.branches.map fun b => (b.identifier, segments b.bound)
  pending := p.branches.foldl (fun _ b => b.identifier) ""
  refusal := p.group.text

/-! ### Scopes -/

theorem get?_bindImports_of_ne (s : Scope) {imports : List Import} {name : String}
    (h : ∀ i ∈ imports, i.bound ≠ name) : (bindImports s imports).get? name = s.get? name := by
  induction imports generalizing s with
  | nil => rfl
  | cons i imports ih =>
    rw [List.forall_mem_cons] at h
    have hrest := ih (s.insert i.bound (.imported i.place)) h.2
    exact hrest.trans (Ordered.get?_insert_of_ne s _ h.1.symm)

theorem get?_bindImports (s : Scope) {imports : List Import}
    (hdistinct : (imports.map Import.bound).Nodup) {i : Import} (hi : i ∈ imports) :
    (bindImports s imports).get? i.bound = some (.imported i.place) := by
  induction imports generalizing s with
  | nil => cases hi
  | cons j imports ih =>
    rw [List.map_cons, List.nodup_cons] at hdistinct
    rcases List.mem_cons.1 hi with rfl | hi
    · have hne : ∀ k ∈ imports, k.bound ≠ i.bound :=
        fun k hk heq => hdistinct.1 (heq ▸ List.mem_map_of_mem hk)
      have hrest := get?_bindImports_of_ne (s.insert i.bound (.imported i.place)) hne
      exact hrest.trans (Ordered.get?_insert_self s _ _)
    · exact ih (s.insert j.bound (.imported j.place)) hdistinct.2 hi

theorem isEmpty_insert (s : Scope) (name : String) (b : Bound) :
    (s.insert name b).isEmpty = false := by
  have hget := Ordered.get?_insert_self s name b
  rw [Ordered.get?_eq_some_iff] at hget
  rw [Ordered.isEmpty, List.isEmpty_eq_false_iff]
  exact List.ne_nil_of_mem hget

/-! ### Steps -/

theorem add_import (g : Generated) (i : Import) (h : g.globals.isEmpty = false) :
    g.add i.read =
      .ok { g with globals := g.globals.insert i.bound (.imported i.place) } := by
  have hbound : (if i.bound = i.name then none else some i.bound).getD i.name = i.bound := by
    by_cases hname : i.bound = i.name
    · rw [if_pos hname, hname]
      rfl
    · rw [if_neg hname]
      rfl
  rw [Import.read, Generated.add, h, hbound, dotted_segments]
  rfl

theorem foldlM_imports (imports : List Import) (g : Generated) (h : g.globals.isEmpty = false) :
    (imports.map Import.read).foldlM Generated.add g =
      .ok { g with globals := bindImports g.globals imports } := by
  induction imports generalizing g with
  | nil => rfl
  | cons i imports ih =>
    rw [List.map_cons, List.foldlM_cons, add_import g i h]
    exact ih { g with globals := g.globals.insert i.bound (.imported i.place) }
      (isEmpty_insert _ _ _)

theorem foldlM_branches (branches : List Branch) (g : Generated) :
    (branches.flatMap Branch.program).foldlM Generated.add g =
      .ok { g with
        branches := g.branches ++ branches.map fun b => (b.identifier, segments b.bound)
        pending := branches.foldl (fun _ b => b.identifier) g.pending } := by
  induction branches generalizing g with
  | nil =>
    rw [List.map_nil, List.append_nil]
    rfl
  | cons b branches ih =>
    have hrest := ih { g with
      branches := g.branches ++ [(b.identifier, segments b.bound)], pending := b.identifier }
    rw [List.append_assoc, List.singleton_append] at hrest
    exact hrest

theorem foldlM_append_ok {first : List Line} {g g' : Generated}
    (h : first.foldlM Generated.add g = .ok g') (second : List Line) :
    (first ++ second).foldlM Generated.add g = second.foldlM Generated.add g' := by
  rw [List.foldlM_append, h]
  rfl

/-- The factory with its attributes, before it has branches. -/
def Plan.opened (p : Plan) (classes : Classes) : Generated :=
  { Generated.empty classes with
    globals := importScope p.imports, attributes := p.attributes, factoryName := p.factoryName }

/-- The program runs through exactly if the type of the result can be looked up. -/
theorem foldlM_program (runtimeModule : String) (p : Plan) (classes : Classes) :
    (p.program runtimeModule).foldlM Generated.add (Generated.empty classes) =
      (lookUp classes [p.attributes, importScope p.imports]
        ((segments p.groupBound).map (privateName p.factoryName))).map
          fun _ => p.executed classes := by
  let runtime : Generated :=
    { Generated.empty classes with globals := Ordered.empty.insert errorName .unknownIdentifier }
  let imported : Generated := { Generated.empty classes with globals := importScope p.imports }
  have hopen : [Line.silent, .silent, .silent, .silent,
      .imports (segments runtimeModule) errorName none].foldlM Generated.add
      (Generated.empty classes) = .ok runtime := rfl
  have himports : (p.imports.map Import.read).foldlM Generated.add runtime = .ok imported :=
    foldlM_imports p.imports runtime (isEmpty_insert _ _ _)
  have hclass : [Line.silent, .silent, .classHead p.factoryName, .silent, .silent,
      .group p.group.text, .identifiers p.identifiers, .silent].foldlM Generated.add imported =
      .ok (p.opened classes) := rfl
  have hcreate : (p.opened classes).add (.createHead (segments p.groupBound)) =
      (lookUp classes [p.attributes, importScope p.imports]
        ((segments p.groupBound).map (privateName p.factoryName))).map
          fun _ => p.opened classes := by
    unfold Generated.add
    dsimp only [Plan.opened, Generated.empty]
    cases lookUp classes [p.attributes, importScope p.imports]
      ((segments p.groupBound).map (privateName p.factoryName)) <;> rfl
  have hrest : (p.branches.flatMap Branch.program ++
      [Line.refuse p.group.text, .silent, .silent, .exports p.factoryName, .silent]).foldlM
        Generated.add (p.opened classes) = .ok (p.executed classes) :=
    (foldlM_append_ok (foldlM_branches p.branches (p.opened classes)) _).trans rfl
  have hprogram : p.program runtimeModule =
      [.silent, .silent, .silent, .silent, .imports (segments runtimeModule) errorName none] ++
      (p.imports.map Import.read ++
      ([.silent, .silent, .classHead p.factoryName, .silent, .silent, .group p.group.text,
        .identifiers p.identifiers, .silent] ++
      .createHead (segments p.groupBound) :: (p.branches.flatMap Branch.program ++
      [.refuse p.group.text, .silent, .silent, .exports p.factoryName, .silent]))) := by
    simp [Plan.program]
  rw [hprogram, foldlM_append_ok hopen, foldlM_append_ok himports, foldlM_append_ok hclass,
    List.foldlM_cons, hcreate]
  cases lookUp classes [p.attributes, importScope p.imports]
    ((segments p.groupBound).map (privateName p.factoryName)) with
  | error f => rfl
  | ok b => exact hrest

end Foundry.Factory
