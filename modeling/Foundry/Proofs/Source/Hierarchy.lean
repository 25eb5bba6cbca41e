import Mathlib.Data.List.Perm.Subperm
import Mathlib.Logic.Relation
import Foundry.Source.Description

/-!
The hierarchy of the classes of an index: what is listed, which classes stand above which, and ways
through the hierarchy that meet no class twice.
-/

namespace Foundry

/-! ### Lists side by side -/

theorem exists_right_of_mem {α β : Type} {R : α → β → Prop} {as : List α} {bs : List β} {a : α}
    (h : List.Forall₂ R as bs) (ha : a ∈ as) : ∃ b ∈ bs, R a b := by
  induction h with
  | nil => cases ha
  | cons hab _ ih =>
    rcases List.mem_cons.1 ha with rfl | ha
    · exact ⟨_, List.mem_cons_self, hab⟩
    · obtain ⟨b, hb, hr⟩ := ih ha
      exact ⟨b, List.mem_cons_of_mem _ hb, hr⟩

theorem exists_left_of_mem {α β : Type} {R : α → β → Prop} {as : List α} {bs : List β} {b : β}
    (h : List.Forall₂ R as bs) (hb : b ∈ bs) : ∃ a ∈ as, R a b :=
  exists_right_of_mem h.flip hb

namespace Source

mutual

/-- The definitions that a statement writes down. -/
def definitionsIn (module start : String) : Stmt → List Definition
  | .classDef line _ name bases keywords decorators body =>
    ⟨module, start ++ name, line, decorators, some ⟨bases, keywords, body⟩⟩ ::
      definitionsOf module (start ++ name ++ ".") body
  | .functionDef line _ name _ decorators _ => [⟨module, start ++ name, line, decorators, none⟩]
  | _ => []

def definitionsOf (module start : String) : List Stmt → List Definition
  | [] => []
  | s :: rest => definitionsIn module start s ++ definitionsOf module start rest

end

namespace Index

variable {x y : Index} {d b e : Definition} {seen : List String}

/-! ### What is listed -/

theorem get?_add {n : String} (h : (x.add d).definitions.get? n = some e) :
    x.definitions.get? n = some e ∨ e = d ∧ e.qualifiedName = n := by
  by_cases hn : n = d.qualifiedName
  · subst hn
    simp only [add, Ordered.get?_insert_self, Option.some.injEq] at h
    exact .inr ⟨h.symm, h ▸ rfl⟩
  · rw [add, Ordered.get?_insert_of_ne _ _ hn] at h
    exact .inl h

/-- An index after definitions were added to it in their order, all classes among them. -/
inductive Adds : Index → List Definition → Index → Prop
  | nil (x : Index) : Adds x [] x
  | add {x y : Index} {d : Definition} {ds : List Definition} :
    Adds (x.add d) ds y → Adds x (d :: ds) y
  | skip {x y : Index} {d : Definition} {ds : List Definition} :
    d.parts = none → Adds x ds y → Adds x (d :: ds) y

namespace Adds

variable {z : Index} {ds es : List Definition} {n : String}

theorem append (hxy : Adds x ds y) (hyz : Adds y es z) : Adds x (ds ++ es) z := by
  induction hxy with
  | nil x => exact hyz
  | add _ ih => exact .add (ih hyz)
  | skip hparts _ ih => exact .skip hparts (ih hyz)

theorem kept (h : Adds x ds y) :
    y.modules = x.modules ∧ y.annotationNames = x.annotationNames := by
  induction h with
  | nil x => exact ⟨rfl, rfl⟩
  | add _ ih => exact ih
  | skip _ _ ih => exact ih

theorem get? (h : Adds x ds y) (he : y.definitions.get? n = some e) :
    x.definitions.get? n = some e ∨ e ∈ ds ∧ e.qualifiedName = n := by
  induction h with
  | nil x => exact .inl he
  | add _ ih =>
    rcases ih he with he | ⟨hmem, hn⟩
    · rcases get?_add he with he | ⟨rfl, hn⟩
      · exact .inl he
      · exact .inr ⟨List.mem_cons_self, hn⟩
    · exact .inr ⟨List.mem_cons_of_mem _ hmem, hn⟩
  | skip _ _ ih => exact (ih he).imp_right (And.imp_left (List.mem_cons_of_mem _))

end Adds

mutual

/-- A statement adds definitions that it writes down. -/
theorem adds_addStmt {module start : String} {s : Stmt} {x y : Index}
    (hy : x.addStmt module start s = .ok y) : Adds x (definitionsIn module start s) y := by
  cases s with
  | classDef line first name bases keywords decorators body =>
    rw [addStmt] at hy
    rw [definitionsIn]
    exact .add (adds_addStmts hy)
  | functionDef line first name params decorators body =>
    rw [addStmt] at hy
    rw [definitionsIn]
    split at hy
    · cases hy
    · cases hy
      exact .skip rfl (.nil _)
    · cases hy
      exact .add (.nil _)
  | _ =>
    rw [addStmt] at hy
    · cases hy
      rw [definitionsIn]
      · exact .nil _
      all_goals intros; contradiction
    all_goals intros; contradiction

theorem adds_addStmts {module start : String} {body : List Stmt} {x y : Index}
    (hy : x.addStmts module start body = .ok y) : Adds x (definitionsOf module start body) y := by
  cases body with
  | nil =>
    rw [addStmts] at hy
    cases hy
    exact .nil _
  | cons s rest =>
    rw [addStmts] at hy
    split at hy
    · cases hy
    · rename_i z hz
      rw [definitionsOf]
      exact (adds_addStmt hz).append (adds_addStmts hy)

end

mutual

theorem module_of_mem_definitionsIn {module start : String} {s : Stmt}
    (h : d ∈ definitionsIn module start s) : d.module = module := by
  cases s with
  | classDef line first name bases keywords decorators body =>
    rw [definitionsIn, List.mem_cons] at h
    rcases h with rfl | h
    · rfl
    · exact module_of_mem_definitionsOf h
  | functionDef line first name params decorators body =>
    rw [definitionsIn, List.mem_singleton] at h
    rw [h]
  | _ =>
    rw [definitionsIn] at h
    · cases h
    all_goals intros; contradiction

theorem module_of_mem_definitionsOf {module start : String} {body : List Stmt}
    (h : d ∈ definitionsOf module start body) : d.module = module := by
  cases body with
  | nil => cases h
  | cons s rest =>
    rw [definitionsOf, List.mem_append] at h
    exact h.elim module_of_mem_definitionsIn module_of_mem_definitionsOf

end

/-- Modules and definitions are listed under their names, and every definition is written in its
module. -/
structure Keyed (x : Index) : Prop where
  module : ∀ n m, x.modules.get? n = some m → m.name = n
  definition : ∀ n d, x.definitions.get? n = some d → d.qualifiedName = n
  written : ∀ n d, x.definitions.get? n = some d →
    ∃ m, x.modules.get? d.module = some m ∧ d ∈ definitionsOf d.module "" m.body

theorem Keyed.adds {ds : List Definition} (h : x.Keyed) (hy : Adds x ds y)
    (hds : ∀ d ∈ ds, ∃ m, x.modules.get? d.module = some m ∧
      d ∈ definitionsOf d.module "" m.body) : y.Keyed := by
  have hmodules := hy.kept.1
  refine ⟨fun n m hm => h.module n m (hmodules ▸ hm), fun n d hd => ?_, fun n d hd => ?_⟩
  · exact (hy.get? hd).elim (h.definition n d) And.right
  · rw [hmodules]
    exact (hy.get? hd).elim (h.written n d) fun hd => hds d hd.1

/-- Adds the definitions of modules, unless something failed before. -/
def addModules (acc : Except Fault Index) (ms : List Module) : Except Fault Index :=
  ms.foldl (fun acc m => match acc with
    | .error f => .error f
    | .ok x => x.addStmts m.name "" m.body) acc

theorem addModules_error (f : Fault) (ms : List Module) :
    addModules (.error f) ms = .error f := by
  induction ms with
  | nil => rfl
  | cons m ms ih => exact ih

theorem exists_of_addModules {m : Module} {ms : List Module} {x y : Index}
    (hy : addModules (.ok x) (m :: ms) = .ok y) :
    ∃ z, x.addStmts m.name "" m.body = .ok z ∧ addModules (.ok z) ms = .ok y := by
  have hstep : addModules (x.addStmts m.name "" m.body) ms = .ok y := hy
  cases hz : x.addStmts m.name "" m.body with
  | error f =>
    rw [hz, addModules_error] at hstep
    cases hstep
  | ok z => exact ⟨z, rfl, hz ▸ hstep⟩

theorem adds_addModules {ms : List Module} {x y : Index} (hy : addModules (.ok x) ms = .ok y) :
    Adds x (ms.flatMap fun m => definitionsOf m.name "" m.body) y := by
  induction ms generalizing x with
  | nil =>
    cases hy
    exact .nil _
  | cons m ms ih =>
    obtain ⟨z, hz, hstep⟩ := exists_of_addModules hy
    rw [List.flatMap_cons]
    exact (adds_addStmts hz).append (ih hstep)

theorem Keyed.addModules {ms : List Module} {x y : Index} (h : x.Keyed)
    (hms : ∀ m ∈ ms, x.modules.get? m.name = some m) (hy : addModules (.ok x) ms = .ok y) :
    y.Keyed ∧ y.modules = x.modules := by
  have hadds := adds_addModules hy
  refine ⟨h.adds hadds fun d hd => ?_, hadds.kept.1⟩
  obtain ⟨m, hm, hd⟩ := List.mem_flatMap.1 hd
  have hmodule := module_of_mem_definitionsOf hd
  exact ⟨m, hmodule ▸ hms m hm, hmodule ▸ hd⟩

theorem keyed_make {modules : List Module} {annotationNames : List String}
    (h : make modules annotationNames = .ok x) :
    x.Keyed ∧ x.modules = Ordered.ofList (modules.map fun m => (m.name, m)) := by
  have hnames : ∀ n m, (Ordered.ofList (modules.map fun m => (m.name, m))).get? n = some m →
      m.name = n := by
    intro n m hm
    obtain ⟨k, -, hk⟩ := List.mem_map.1 (Ordered.mem_of_get?_ofList hm)
    exact (Prod.mk.inj hk).2 ▸ (Prod.mk.inj hk).1
  refine Keyed.addModules ⟨hnames, fun n d hd => ?_, fun n d hd => ?_⟩ (fun m hm => ?_) h
  · cases hd
  · cases hd
  · obtain ⟨⟨n, k⟩, he, rfl⟩ := List.mem_map.1 hm
    have hget := (Ordered.get?_eq_some_iff _ n k).2 he
    exact (hnames n k hget).symm ▸ hget

theorem annotationNames_make {modules : List Module} {annotationNames : List String}
    (h : make modules annotationNames = .ok x) : x.annotationNames = annotationNames :=
  (adds_addModules h).kept.2

/-! ### Classes above classes -/

/-- A class of the index is a direct base of another one. -/
def IsBase (x : Index) (d b : Definition) : Prop :=
  b ∈ x.knownBases d

/-- The class itself, or one that some links lead up to. -/
def Above (x : Index) (d e : Definition) : Prop :=
  Relation.ReflTransGen x.IsBase d e

/-- At least one link leads up. -/
def StrictlyAbove (x : Index) (d e : Definition) : Prop :=
  Relation.TransGen x.IsBase d e

/-- No class at or above this one stands above itself. -/
def Acyclic (x : Index) (d : Definition) : Prop :=
  ∀ e, x.Above d e → ¬x.StrictlyAbove e e

/-- No class at or above this one has more than one base. -/
def Linear (x : Index) (d : Definition) : Prop :=
  ∀ e, x.Above d e → (x.knownBases e).length ≤ 1

theorem Linear.eq_of_isBase (h : x.Linear d) (hde : x.Above d e) {b' : Definition}
    (hb : x.IsBase e b) (hb' : x.IsBase e b') : b = b' := by
  obtain ⟨c, hc⟩ := List.length_eq_one_iff.1
    (Nat.le_antisymm (h e hde) (List.length_pos_of_mem hb))
  rw [IsBase, hc, List.mem_singleton] at hb hb'
  rw [hb, hb']

theorem Linear.notMem_behind (h : x.Linear d) (hde : x.Above d e) {before after : List Definition}
    (hbases : x.knownBases e = before ++ b :: after) (a : Definition) : a ∉ after := by
  intro ha
  have hlen := h e hde
  rw [hbases, List.length_append, List.length_cons] at hlen
  have hpos := List.length_pos_of_mem ha
  omega

/-- Above a class there are its only base and nothing else, if that has no base. -/
theorem eq_or_eq_of_above (hd : x.knownBases d = [b]) (hb : x.knownBases b = [])
    (hde : x.Above d e) : e = d ∨ e = b := by
  rcases Relation.ReflTransGen.cases_head hde with rfl | ⟨c, hc, hce⟩
  · exact .inl rfl
  · rw [IsBase, hd, List.mem_singleton] at hc
    subst hc
    rcases Relation.ReflTransGen.cases_head hce with rfl | ⟨c', hc', -⟩
    · exact .inr rfl
    · rw [IsBase, hb] at hc'
      cases hc'

theorem linear_of_bases (hd : x.knownBases d = [b]) (hb : x.knownBases b = []) : x.Linear d := by
  intro e he
  rcases eq_or_eq_of_above hd hb he with rfl | rfl
  · rw [hd]
    exact Nat.le_refl 1
  · rw [hb]
    exact Nat.zero_le 1

theorem Acyclic.above (h : x.Acyclic d) (hde : x.Above d e) : x.Acyclic e :=
  fun c hc => h c (hde.trans hc)

theorem Acyclic.base (h : x.Acyclic d) (hb : x.IsBase d b) : x.Acyclic b :=
  h.above (.single hb)

/-- The definition is listed under its own name. -/
def Lists (x : Index) (d : Definition) : Prop :=
  x.definitions.get? d.qualifiedName = some d

theorem Keyed.lists {n : String} (h : x.Keyed) (hd : x.definitions.get? n = some d) :
    x.Lists d :=
  (congrArg x.definitions.get? (h.definition n d hd)).trans hd

theorem IsBase.lists (h : x.IsBase d b) (hx : x.Keyed) : x.Lists b := by
  obtain ⟨n, -, hn⟩ := List.mem_filterMap.1 h
  exact hx.lists (Option.eq_some_of_filter_eq_some hn)

theorem Lists.eq_of_name (h : x.Lists d) (h' : x.Lists e)
    (hn : d.qualifiedName = e.qualifiedName) : d = e :=
  Option.some.inj (h.symm.trans (hn ▸ h'))

/-! ### Ways up -/

/-- The names met on the way from a class up to another one, no name twice. -/
structure Way (x : Index) (seen : List String) (d : Definition) : Prop where
  nodup : seen.Nodup
  below : ∀ n ∈ seen, ∃ e, x.definitions.get? n = some e ∧ x.StrictlyAbove e d

theorem way_nil (x : Index) (d : Definition) : x.Way [] d :=
  ⟨List.nodup_nil, fun _ hn => absurd hn List.not_mem_nil⟩

theorem Way.next (h : x.Way seen d) (hd : x.Lists d) (hnew : d.qualifiedName ∉ seen)
    (hb : x.IsBase d b) : x.Way (d.qualifiedName :: seen) b := by
  refine ⟨List.nodup_cons.2 ⟨hnew, h.nodup⟩, fun n hn => ?_⟩
  rcases List.mem_cons.1 hn with rfl | hn
  · exact ⟨d, hd, .single hb⟩
  · obtain ⟨e, he, habove⟩ := h.below n hn
    exact ⟨e, he, habove.tail hb⟩

theorem Way.length_lt (h : x.Way seen d) (hd : x.Lists d) (hnew : d.qualifiedName ∉ seen) :
    seen.length < x.definitions.size := by
  have hsub : d.qualifiedName :: seen ⊆ x.definitions.keys := by
    intro n hn
    rw [← Ordered.isSome_get?_iff]
    rcases List.mem_cons.1 hn with rfl | hn
    · rw [hd]
      rfl
    · obtain ⟨e, he, -⟩ := h.below n hn
      rw [he]
      rfl
  have hlen := (List.nodup_cons.2 ⟨hnew, h.nodup⟩).subperm hsub |>.length_le
  simpa [Ordered.keys, Ordered.size, Nat.succ_le_iff] using hlen

theorem Way.fresh (h : x.Way seen d) (hd : x.Lists d) (hx : x.Acyclic d) :
    d.qualifiedName ∉ seen := by
  intro hmem
  obtain ⟨e, he, habove⟩ := h.below _ hmem
  obtain rfl : d = e := Option.some.inj (hd.symm.trans he)
  exact hx d .refl habove

/-- From the bases to the class, up to a class below which nothing stands above itself. -/
theorem Acyclic.induction {P : Definition → Prop} (hd : x.Acyclic d) (hx : x.Keyed)
    (hlists : x.Lists d) (step : ∀ e, x.Above d e → x.Lists e → (∀ b, x.IsBase e b → P b) → P e) :
    P d := by
  have hway : ∀ room seen e, x.Way seen e → x.Lists e → x.Above d e →
      x.definitions.size ≤ room + seen.length → P e := by
    intro room
    induction room with
    | zero =>
      intro seen e hw he habove hroom
      have hlt := hw.length_lt he (hw.fresh he (hd.above habove))
      omega
    | succ room ih =>
      intro seen e hw he habove hroom
      have hnew := hw.fresh he (hd.above habove)
      refine step e habove he fun b hb => ?_
      refine ih (e.qualifiedName :: seen) b (hw.next he hnew hb) (hb.lists hx)
        (habove.tail hb) ?_
      rw [List.length_cons]
      omega
  exact hway _ [] d (way_nil x d) hlists .refl (Nat.le_add_right _ _)

/-! ### Searches through the hierarchy -/

/-- A step up to a class that was not met on the way. -/
def FreshBase (x : Index) (seen : List String) (d b : Definition) : Prop :=
  x.IsBase d b ∧ b.qualifiedName ∉ seen

theorem mem_freshBases : b ∈ x.freshBases d seen ↔ x.FreshBase seen d b := by
  simp [freshBases, FreshBase, IsBase, List.mem_filter]

/-- A step that a search takes: up from a class that lets it pass. -/
def PassingBase (x : Index) (passes : Definition → Bool) (seen : List String) (d b : Definition) :
    Prop :=
  passes d = true ∧ x.FreshBase seen d b

theorem PassingBase.of_cons {passes : Definition → Bool} {n : String}
    (h : x.PassingBase passes (n :: seen) d b) : x.PassingBase passes seen d b :=
  ⟨h.1, h.2.1, fun hmem => h.2.2 (List.mem_cons_of_mem n hmem)⟩

/-- What can be reached without the names on the way can be reached from the end of the way without
coming back to it. -/
theorem passingBase_of_reach {passes : Definition → Bool} (hd : x.Lists d) (hx : x.Keyed)
    (h : Relation.ReflTransGen (x.PassingBase passes seen) d e) :
    d = e ∨ ∃ b, x.PassingBase passes (d.qualifiedName :: seen) d b ∧
      Relation.ReflTransGen (x.PassingBase passes (d.qualifiedName :: seen)) b e := by
  have hreach : ∀ c, Relation.ReflTransGen (x.PassingBase passes seen) c e →
      Relation.ReflTransGen (x.PassingBase passes (d.qualifiedName :: seen)) c e ∨ d = e ∨
        ∃ b, x.PassingBase passes (d.qualifiedName :: seen) d b ∧
          Relation.ReflTransGen (x.PassingBase passes (d.qualifiedName :: seen)) b e := by
    intro c hc
    induction hc using Relation.ReflTransGen.head_induction_on with
    | refl => exact .inl .refl
    | @head c b hcb _ ih =>
      rcases ih with hb | hend
      · by_cases hn : b.qualifiedName = d.qualifiedName
        · -- The way comes back to the class, so it can start there.
          obtain rfl : b = d := (hcb.2.1.lists hx).eq_of_name hd hn
          rcases Relation.ReflTransGen.cases_head hb with rfl | ⟨a, ha, hae⟩
          · exact .inr (.inl rfl)
          · exact .inr (.inr ⟨a, ha, hae⟩)
        · refine .inl (.head ⟨hcb.1, hcb.2.1, ?_⟩ hb)
          rw [List.mem_cons, not_or]
          exact ⟨hn, hcb.2.2⟩
      · exact .inr hend
  rcases hreach d h with hd' | hend
  · rcases Relation.ReflTransGen.cases_head hd' with rfl | ⟨a, ha, hae⟩
    · exact .inl rfl
    · exact .inr ⟨a, ha, hae⟩
  · exact hend

/-- A search that looks at a class and, where the class lets it pass, at its fresh bases. -/
def Searches (x : Index) (found passes : Definition → Bool)
    (search : Nat → List String → Definition → Bool) : Prop :=
  ∀ fuel seen d, search (fuel + 1) seen d =
    (found d || (passes d && (x.freshBases d (d.qualifiedName :: seen)).any
      (search fuel (d.qualifiedName :: seen))))

section Searching

variable {found passes : Definition → Bool} {search : Nat → List String → Definition → Bool}

theorem Searches.iff (hsearch : x.Searches found passes search) (hx : x.Keyed) {fuel : Nat}
    (hw : x.Way seen d) (hd : x.Lists d) (hnew : d.qualifiedName ∉ seen)
    (hroom : x.bound ≤ fuel + seen.length) :
    search fuel seen d = true ↔
      ∃ e, Relation.ReflTransGen (x.PassingBase passes seen) d e ∧ found e = true := by
  induction fuel generalizing seen d with
  | zero =>
    have hlt := hw.length_lt hd hnew
    rw [bound] at hroom
    omega
  | succ fuel ih =>
    have hnext : ∀ b, x.FreshBase (d.qualifiedName :: seen) d b →
        (search fuel (d.qualifiedName :: seen) b = true ↔ ∃ e, Relation.ReflTransGen
          (x.PassingBase passes (d.qualifiedName :: seen)) b e ∧ found e = true) := by
      intro b hb
      apply ih (hw.next hd hnew hb.1) (hb.1.lists hx) hb.2
      rw [List.length_cons]
      omega
    rw [hsearch, Bool.or_eq_true, Bool.and_eq_true, List.any_eq_true]
    constructor
    · rintro (hfound | ⟨hpasses, b, hb, hsearch⟩)
      · exact ⟨d, .refl, hfound⟩
      · have hb := mem_freshBases.1 hb
        obtain ⟨e, hbe, he⟩ := (hnext b hb).1 hsearch
        have hdb : x.PassingBase passes (d.qualifiedName :: seen) d b := ⟨hpasses, hb⟩
        have hway := Relation.ReflTransGen.mono (fun _ _ h => h.of_cons) _ _ hbe
        exact ⟨e, .head hdb.of_cons hway, he⟩
    · rintro ⟨e, hde, he⟩
      rcases passingBase_of_reach hd hx hde with rfl | ⟨b, hb, hbe⟩
      · exact .inl he
      · exact .inr ⟨hb.1, b, mem_freshBases.2 hb.2, (hnext b hb.2).2 ⟨e, hbe, he⟩⟩

/-- From a class on, with enough room, a search finds what links lead up to. -/
theorem Searches.links_iff (hsearch : x.Searches found passes search) (hx : x.Keyed)
    (hd : x.Lists d) {fuel : Nat} (hroom : x.bound ≤ fuel) :
    search fuel [] d = true ↔
      ∃ e, Relation.ReflTransGen (fun a b => passes a = true ∧ x.IsBase a b) d e ∧
        found e = true := by
  have hsteps : x.PassingBase passes [] = fun a b => passes a = true ∧ x.IsBase a b := by
    funext a b
    simp [PassingBase, FreshBase]
  rw [hsearch.iff hx (way_nil x d) hd List.not_mem_nil hroom, hsteps]

theorem Searches.above_iff (hsearch : x.Searches found (fun _ => true) search) (hx : x.Keyed)
    (hd : x.Lists d) {fuel : Nat} (hroom : x.bound ≤ fuel) :
    search fuel [] d = true ↔ ∃ e, x.Above d e ∧ found e = true := by
  simp only [hsearch.links_iff hx hd hroom, true_and]
  rfl

end Searching

end Index

end Source

end Foundry
