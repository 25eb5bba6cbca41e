import Foundry.Factory.Plan

/-!
Names given to imports are free, and stay with the classes they were given to.
-/

namespace Foundry.Factory

open Foundry.Text

/-! ### Free names -/

def numbered (name : String) (n : Nat) : String :=
  name ++ "_" ++ toString n

theorem toString_injective {m n : Nat} (h : toString m = toString n) : m = n := by
  have hdigits : Nat.toDigits 10 m = Nat.toDigits 10 n := by
    have hlist := congrArg String.toList h
    simpa using hlist
  rw [← Nat.ofDigitChars_ten_toDigits (n := m), hdigits, Nat.ofDigitChars_ten_toDigits]

theorem numbered_injective (name : String) {m n : Nat} (h : numbered name m = numbered name n) :
    m = n :=
  toString_injective (String.append_right_inj _ |>.1 h)

/-- Where the search ends with a name that is taken, all candidates before it were taken too. -/
theorem taken_of_freeNumbered {taken : List String} {name : String} {fuel n : Nat}
    (h : freeNumbered taken name fuel n ∈ taken) : ∀ k, k < fuel → numbered name (n + k) ∈ taken := by
  induction fuel generalizing n with
  | zero =>
    intro k hk
    exact absurd hk (Nat.not_lt_zero k)
  | succ fuel ih =>
    intro k hk
    unfold freeNumbered at h
    change (if taken.contains (numbered name n) then freeNumbered taken name fuel (n + 1)
      else numbered name n) ∈ taken at h
    by_cases hn : numbered name n ∈ taken
    · rw [if_pos (List.contains_iff_mem.2 hn)] at h
      cases k with
      | zero => exact hn
      | succ k =>
        have hrest := ih h k (Nat.lt_of_succ_lt_succ hk)
        rwa [Nat.add_assoc, Nat.add_comm 1 k] at hrest
    · rw [if_neg (by rwa [List.contains_iff_mem])] at h
      exact absurd h hn

theorem freeNumbered_notMem {taken : List String} {name : String} {fuel n : Nat}
    (hfuel : taken.length < fuel) : freeNumbered taken name fuel n ∉ taken := by
  intro h
  -- More candidates were tried than there are names taken, and no two of them are the same.
  have htaken := taken_of_freeNumbered h
  let candidates := (List.range fuel).map fun k => numbered name (n + k)
  have hnodup : candidates.Nodup := by
    refine List.Pairwise.map _ ?_ (List.nodup_range (n := fuel))
    intro a b hab heq
    exact hab (Nat.add_left_cancel (numbered_injective name heq))
  have hsub : candidates ⊆ taken := by
    intro c hc
    obtain ⟨k, hk, rfl⟩ := List.mem_map.1 hc
    exact htaken k (List.mem_range.1 hk)
  have hlen := hnodup.length_le_of_subset hsub
  simp only [candidates, List.length_map, List.length_range] at hlen
  omega

theorem freeNumbered_eq (taken : List String) (name : String) (fuel n : Nat) :
    ∃ k, freeNumbered taken name fuel n = numbered name k := by
  induction fuel generalizing n with
  | zero => exact ⟨n, rfl⟩
  | succ fuel ih =>
    unfold freeNumbered
    dsimp only
    split
    · exact ih (n + 1)
    · exact ⟨n, rfl⟩

theorem freeName_notMem (taken : List String) (name : String) : freeName taken name ∉ taken := by
  unfold freeName
  split
  · exact freeNumbered_notMem (Nat.lt_succ_self _)
  · rename_i h
    rwa [List.contains_iff_mem] at h

theorem freeName_eq (taken : List String) (name : String) :
    freeName taken name = name ∨ ∃ k, freeName taken name = numbered name k := by
  unfold freeName
  split
  · exact .inr (freeNumbered_eq taken name _ 2)
  · exact .inl rfl

/-! ### One import -/

def newImport (taken : List String) (target : QualifiedName) : Import :=
  let name := freeName taken target.topLevel
  ⟨target.module, target.topLevel, if name = target.topLevel then none else some name⟩

theorem bound_newImport (taken : List String) (target : QualifiedName) :
    (newImport taken target).bound = freeName taken target.topLevel := by
  unfold newImport Import.bound
  by_cases h : freeName taken target.topLevel = target.topLevel
  · simp [h]
  · have hne : freeName taken target.topLevel ≠ "" := by
      rcases freeName_eq taken target.topLevel with h' | ⟨k, hk⟩
      · exact absurd h' h
      · rw [hk]
        intro hempty
        have hlen := congrArg String.length hempty
        simp [numbered] at hlen
    simp [h, hne]

theorem bind_of_find? {t : ImportTable} {target : QualifiedName} {i : Import}
    (h : t.find? target = some i) : t.bind target = (ImportTable.expression i target, t) := by
  rw [ImportTable.bind, h]

theorem bind_of_none {t : ImportTable} {target : QualifiedName} (h : t.find? target = none) :
    t.bind target = (ImportTable.expression (newImport t.taken target) target,
      ⟨freeName t.taken target.topLevel :: t.taken,
        t.imports ++ [newImport t.taken target]⟩) := by
  rw [ImportTable.bind, h]
  rfl

/-! ### Tables -/

def Import.Serves (i : Import) (target : QualifiedName) : Prop :=
  i.module = target.module ∧ i.name = target.topLevel

def Import.Numbered (i : Import) : Prop :=
  i.bound = i.name ∨ ∃ k, i.bound = numbered i.name k

/-- A text names a target through one of the imports. -/
def Names (imports : List Import) (text : String) (target : QualifiedName) : Prop :=
  ∃ i ∈ imports, i.Serves target ∧ text = ImportTable.expression i target

theorem Names.mono {imports imports' : List Import} {text : String} {target : QualifiedName}
    (h : Names imports text target) (hsub : imports ⊆ imports') : Names imports' text target := by
  obtain ⟨i, hi, hi'⟩ := h
  exact ⟨i, hsub hi, hi'⟩

/-- No two imports bind one name, and none binds a reserved one. -/
structure ImportTable.Sound (reserved : List String) (t : ImportTable) : Prop where
  taken : ∀ i ∈ t.imports, i.bound ∈ t.taken
  kept : ∀ n ∈ reserved, n ∈ t.taken
  distinct : (t.imports.map Import.bound).Nodup
  fresh : ∀ i ∈ t.imports, i.bound ∉ reserved

/-- A table that has grown by imports for targets. -/
structure ImportTable.Extends (t t' : ImportTable) (targets : List QualifiedName) : Prop where
  kept : t.imports ⊆ t'.imports
  served : ∀ i ∈ t'.imports, i ∈ t.imports ∨ (∃ q ∈ targets, i.Serves q) ∧ i.Numbered

variable {reserved : List String} {t t' t'' : ImportTable} {qs qs' : List QualifiedName}

theorem sound_reserve (reserved : List String) : (ImportTable.reserve reserved).Sound reserved :=
  ⟨fun _ hi => absurd hi List.not_mem_nil, fun _ hn => hn, List.nodup_nil,
    fun _ hi => absurd hi List.not_mem_nil⟩

theorem extends_refl (t : ImportTable) : t.Extends t [] :=
  ⟨fun _ hi => hi, fun _ hi => .inl hi⟩

theorem ImportTable.Extends.trans (h : t.Extends t' qs) (h' : t'.Extends t'' qs') :
    t.Extends t'' (qs ++ qs') := by
  refine ⟨fun i hi => h'.kept (h.kept hi), fun i hi => ?_⟩
  rcases h'.served i hi with hi | ⟨⟨q, hq, hserves⟩, hnumbered⟩
  · rcases h.served i hi with hi | ⟨⟨q, hq, hserves⟩, hnumbered⟩
    · exact .inl hi
    · exact .inr ⟨⟨q, List.mem_append_left _ hq, hserves⟩, hnumbered⟩
  · exact .inr ⟨⟨q, List.mem_append_right _ hq, hserves⟩, hnumbered⟩

theorem numbered_newImport (taken : List String) (target : QualifiedName) :
    (newImport taken target).Numbered := by
  rw [Import.Numbered, bound_newImport]
  exact freeName_eq taken target.topLevel

theorem serves_of_find? {target : QualifiedName} {i : Import} (h : t.find? target = some i) :
    i ∈ t.imports ∧ i.Serves target :=
  ⟨List.mem_of_find?_eq_some h, by simpa [Import.Serves] using List.find?_some h⟩

theorem bind_sound (h : t.Sound reserved) (target : QualifiedName) :
    (t.bind target).2.Sound reserved ∧ t.Extends (t.bind target).2 [target] ∧
      Names (t.bind target).2.imports (t.bind target).1 target := by
  cases hfind : t.find? target with
  | some i =>
    obtain ⟨hmem, hserves⟩ := serves_of_find? hfind
    rw [bind_of_find? hfind]
    exact ⟨h, ⟨fun _ hi => hi, fun _ hi => .inl hi⟩, i, hmem, hserves, rfl⟩
  | none =>
    have hbound := bound_newImport t.taken target
    have hfree : (newImport t.taken target).bound ∉ t.taken := by
      rw [hbound]
      exact freeName_notMem t.taken target.topLevel
    rw [bind_of_none hfind]
    refine ⟨⟨?_, ?_, ?_, ?_⟩, ⟨fun _ hi => List.mem_append_left _ hi, ?_⟩,
      newImport t.taken target, List.mem_append_right _ List.mem_cons_self, ⟨rfl, rfl⟩, rfl⟩
    · intro i hi
      rcases List.mem_append.1 hi with hi | hi
      · exact List.mem_cons_of_mem _ (h.taken i hi)
      · rw [List.mem_singleton.1 hi, hbound]
        exact List.mem_cons_self
    · exact fun n hn => List.mem_cons_of_mem _ (h.kept n hn)
    · rw [List.map_append, List.nodup_append]
      refine ⟨h.distinct, List.pairwise_singleton _ _, ?_⟩
      rintro n hn m hm rfl
      obtain ⟨i, hi, rfl⟩ := List.mem_map.1 hn
      have heq : i.bound = (newImport t.taken target).bound := List.mem_singleton.1 hm
      exact hfree (heq ▸ h.taken i hi)
    · intro i hi
      rcases List.mem_append.1 hi with hi | hi
      · exact h.fresh i hi
      · rw [List.mem_singleton.1 hi]
        exact fun hres => hfree (h.kept _ hres)
    · intro i hi
      rcases List.mem_append.1 hi with hi | hi
      · exact .inl hi
      · rw [List.mem_singleton.1 hi]
        exact .inr ⟨⟨target, List.mem_cons_self, rfl, rfl⟩, numbered_newImport t.taken target⟩

/-! ### Branches -/

theorem bindAll_sound (records : List Record) (h : t.Sound reserved) :
    (bindAll records t).2.Sound reserved ∧
      t.Extends (bindAll records t).2 (records.map (·.declaration.name)) ∧
      ∀ b ∈ (bindAll records t).1, Names (bindAll records t).2.imports b.bound b.target := by
  induction records generalizing t with
  | nil => exact ⟨h, extends_refl t, fun _ hb => absurd hb List.not_mem_nil⟩
  | cons r records ih =>
    obtain ⟨hsound, hextends, hnames⟩ := bind_sound h r.declaration.name
    obtain ⟨hsound', hextends', hnames'⟩ := ih hsound
    refine ⟨hsound', hextends.trans hextends', fun b hb => ?_⟩
    rcases List.mem_cons.1 hb with rfl | hb
    · exact hnames.mono hextends'.kept
    · exact hnames' b hb

theorem bindAll_branches (records : List Record) (t : ImportTable) :
    (bindAll records t).1.map (fun b => (b.identifier, b.target)) =
      records.map fun r => (r.identifier, r.declaration.name) := by
  induction records generalizing t with
  | nil => rfl
  | cons r records ih => exact congrArg _ (ih _)

/-! ### Plans -/

/-- Every name a plan uses stands for what it was meant for. -/
structure Plan.Sound (p : Plan) : Prop where
  distinct : (p.imports.map Import.bound).Nodup
  fresh : ∀ i ∈ p.imports, i.bound ≠ p.factoryName ∧ i.bound ≠ errorName
  group : Names p.imports p.groupBound p.group
  branches : ∀ b ∈ p.branches, Names p.imports b.bound b.target
  served : ∀ i ∈ p.imports, (∃ q ∈ p.group :: p.branches.map (·.target), i.Serves q) ∧ i.Numbered

theorem mem_sorted (t : ImportTable) (i : Import) : i ∈ t.sorted ↔ i ∈ t.imports :=
  (List.mergeSort_perm _ _).mem_iff

def tableFor (n : Naming) (group : QualifiedName) (records : List Record) : ImportTable :=
  (bindAll records ((ImportTable.reserve [n.factoryName group, errorName]).bind group).2).2

theorem mem_imports_make {n : Naming} {group : QualifiedName} {records : List Record} {i : Import} :
    i ∈ (Plan.make n group records).imports ↔ i ∈ (tableFor n group records).imports :=
  mem_sorted (tableFor n group records) i

theorem Plan.make_targets (n : Naming) (group : QualifiedName) (records : List Record) :
    (Plan.make n group records).branches.map (fun b => (b.identifier, b.target)) =
      records.map fun r => (r.identifier, r.declaration.name) :=
  bindAll_branches records _

theorem Plan.make_branchTargets (n : Naming) (group : QualifiedName) (records : List Record) :
    (Plan.make n group records).branches.map (·.target) = records.map (·.declaration.name) := by
  have h := congrArg (List.map Prod.snd) (Plan.make_targets n group records)
  rwa [List.map_map, List.map_map] at h

theorem Plan.make_identifiers (n : Naming) (group : QualifiedName) (records : List Record) :
    (Plan.make n group records).identifiers = records.map (·.identifier) := by
  have h := congrArg (List.map Prod.fst) (Plan.make_targets n group records)
  rwa [List.map_map, List.map_map] at h

theorem Plan.make_sound (n : Naming) (group : QualifiedName) (records : List Record) :
    (Plan.make n group records).Sound := by
  have hreserve := sound_reserve [n.factoryName group, errorName]
  obtain ⟨hsound, hextends, hnames⟩ := bind_sound hreserve group
  obtain ⟨hsound', hextends', hnames'⟩ := bindAll_sound records hsound
  have hsub : ∀ t : ImportTable, t.imports ⊆ t.sorted := fun t i hi => (mem_sorted t i).2 hi
  refine ⟨?_, ?_, (hnames.mono hextends'.kept).mono (hsub _),
    fun b hb => (hnames' b hb).mono (hsub _), ?_⟩
  · exact ((List.mergeSort_perm _ _).map Import.bound).nodup_iff.2 hsound'.distinct
  · intro i hi
    have hfresh := hsound'.fresh i (mem_imports_make.1 hi)
    simp only [List.mem_cons, List.not_mem_nil, or_false, not_or] at hfresh
    exact hfresh
  · intro i hi
    rcases (hextends.trans hextends').served i (mem_imports_make.1 hi) with hnone | hserved
    · cases hnone
    · rw [Plan.make_branchTargets]
      exact hserved

end Foundry.Factory
