import Foundry.Proofs.Pass.Emission
import Foundry.Proofs.Pass.Isolation

/-!
The account a pass gives of its groups: for each an artifact or a diagnostic, no file written twice,
and every file as it was rendered.
-/

namespace Foundry.Pass

open Query

variable {ω : Type} {h : Host ω} {v : View ω} {c : Config} {f f' : Filer} {t t' : FileTree}

/-! ### One group -/

section One

variable {e : Emission}

theorem Emits.of_error {r : Rejection} (he : Emits h v c f t e f' t') (hr : e.result = .error r) :
    f' = f ∧ t.Extends t' := by
  cases he with
  | unplanned _ => exact ⟨rfl, .refl t⟩
  | refused _ _ hext => exact ⟨rfl, hext⟩
  | written _ _ => cases hr

theorem Emits.of_ok {a : Artifact} (he : Emits h v c f t e f' t') (hr : e.result = .ok a) :
    e.plan = .ok a.plan ∧ a.module = a.plan.moduleName ∧
      f.Writes a.module (Factory.render c.runtimeModule a.plan) t (.ok a.path) f' t' := by
  cases he with
  | unplanned _ => cases hr
  | refused _ _ _ => cases hr
  | written _ hw =>
    cases hr
    exact ⟨rfl, rfl, hw⟩

theorem Emits.planned (he : Emits h v c f t e f' t') : Plans h v c.naming e.group e.plan := by
  cases he with
  | unplanned hplan => exact hplan
  | refused hplan _ _ => exact hplan
  | written hplan _ => exact hplan

theorem Emits.outputDir (he : Emits h v c f t e f' t') : f'.outputDir = f.outputDir := by
  cases hr : e.result with
  | error r => rw [(he.of_error hr).1]
  | ok a =>
    obtain ⟨-, -, hw⟩ := he.of_ok hr
    rw [hw.of_ok.2.2]

theorem Emits.pathFor (he : Emits h v c f t e f' t') (m : String) : f'.pathFor m = f.pathFor m := by
  unfold Filer.pathFor
  rw [he.outputDir]

theorem Emits.contains (he : Emits h v c f t e f' t') (m : String) :
    f'.written.contains m = true ↔
      f.written.contains m = true ∨ ∃ a, e.result = .ok a ∧ a.module = m := by
  cases hr : e.result with
  | error r =>
    rw [(he.of_error hr).1]
    simp
  | ok a =>
    obtain ⟨-, -, hw⟩ := he.of_ok hr
    rw [hw.of_ok.2.2, Ordered.contains_insert, Bool.or_eq_true, decide_eq_true_eq, or_comm,
      @eq_comm _ m]
    simp

theorem Emits.find?_kept (he : Emits h v c f t e f' t') {m : String} {q : Path} {bytes : Bytes}
    (hq : f.pathFor m = .ok q) (hm : f.written.contains m = true)
    (hfind : t.find? q = some (some bytes)) : t'.find? q = some (some bytes) := by
  cases hr : e.result with
  | error r => exact (he.of_error hr).2.find? hfind
  | ok a =>
    obtain ⟨-, -, hw⟩ := he.of_ok hr
    refine hw.find?_other hq ?_ hfind
    rintro rfl
    rw [hw.of_ok.2.1] at hm
    cases hm

theorem Emits.collision (he : Emits h v c f t e f' t') {plan : Factory.Plan}
    (hplan : e.plan = .ok plan) (hm : f.written.contains plan.moduleName = true) :
    ∃ r, e.result = .error r ∧ r.code = "ArtifactWriteFailure" := by
  cases he with
  | unplanned _ => cases hplan
  | refused _ hcode _ => exact ⟨_, rfl, hcode⟩
  | written _ hw =>
    cases hplan
    rw [hw.of_ok.2.1] at hm
    cases hm

end One

/-! ### All groups -/

section All

variable {es : List Emission}

theorem EmitsAll.planned (hes : EmitsAll h v c f t es f' t') :
    ∀ e ∈ es, Plans h v c.naming e.group e.plan ∧
      ∀ a, e.result = .ok a → e.plan = .ok a.plan ∧ a.module = a.plan.moduleName := by
  induction hes with
  | nil => exact fun e he => nomatch he
  | cons he _ ih =>
    refine List.forall_mem_cons.2 ⟨⟨he.planned, fun a ha => ?_⟩, ih⟩
    obtain ⟨hplan, hmodule, -⟩ := he.of_ok ha
    exact ⟨hplan, hmodule⟩

/-- Artifacts lie at the paths of their modules, which were not written before. -/
theorem EmitsAll.pathFor (hes : EmitsAll h v c f t es f' t') :
    ∀ e ∈ es, ∀ a, e.result = .ok a →
      f.pathFor a.module = .ok a.path ∧ f.written.contains a.module = false := by
  induction hes with
  | nil => exact fun e he => nomatch he
  | cons he _ ih =>
    refine List.forall_mem_cons.2 ⟨fun a ha => ?_, fun e' he' a ha => ?_⟩
    · obtain ⟨-, -, hw⟩ := he.of_ok ha
      exact ⟨hw.of_ok.1, hw.of_ok.2.1⟩
    · obtain ⟨hp, hfree⟩ := ih e' he' a ha
      rw [he.pathFor] at hp
      refine ⟨hp, ?_⟩
      rw [Bool.eq_false_iff] at hfree ⊢
      exact fun h => hfree ((he.contains _).2 (.inl h))

theorem EmitsAll.contains (hes : EmitsAll h v c f t es f' t') (m : String) :
    f'.written.contains m = true ↔
      f.written.contains m = true ∨ ∃ e ∈ es, ∃ a, e.result = .ok a ∧ a.module = m := by
  induction hes with
  | nil => simp
  | cons he _ ih => rw [ih, he.contains, List.exists_mem_cons_iff, or_assoc]

theorem EmitsAll.find?_kept (hes : EmitsAll h v c f t es f' t') {m : String} {q : Path}
    {bytes : Bytes} (hq : f.pathFor m = .ok q) (hm : f.written.contains m = true)
    (hfind : t.find? q = some (some bytes)) : t'.find? q = some (some bytes) := by
  induction hes with
  | nil => exact hfind
  | cons he _ ih =>
    exact ih ((he.pathFor m).trans hq) ((he.contains m).2 (.inl hm)) (he.find?_kept hq hm hfind)

theorem EmitsAll.find?_artifact (hes : EmitsAll h v c f t es f' t') :
    ∀ e ∈ es, ∀ a, e.result = .ok a →
      ∃ bytes, Filer.encodeAs f.codec (Factory.render c.runtimeModule a.plan) = .ok bytes ∧
        t'.find? a.path = some (some bytes) := by
  induction hes with
  | nil => exact fun e he => nomatch he
  | cons he hes ih =>
    refine List.forall_mem_cons.2 ⟨fun a ha => ?_, fun e' he' a ha => ?_⟩
    · obtain ⟨-, -, hw⟩ := he.of_ok ha
      obtain ⟨bytes, hencode, hfind⟩ := hw.find?_self
      have hp := (he.pathFor a.module).trans hw.of_ok.1
      have hwritten := (he.contains a.module).2 (.inr ⟨a, ha, rfl⟩)
      exact ⟨bytes, hencode, hes.find?_kept hp hwritten hfind⟩
    · rw [← he.codec]
      exact ih e' he' a ha

theorem EmitsAll.split {es' : List Emission} (hes : EmitsAll h v c f t (es ++ es') f' t') :
    ∃ f₁ t₁, EmitsAll h v c f t es f₁ t₁ ∧ EmitsAll h v c f₁ t₁ es' f' t' := by
  induction es generalizing f t with
  | nil => exact ⟨f, t, .nil, hes⟩
  | cons e es ih =>
    cases hes with
    | cons he hes =>
      obtain ⟨f₁, t₁, hfirst, hrest⟩ := ih hes
      exact ⟨f₁, t₁, .cons he hfirst, hrest⟩

theorem EmitsAll.nodup_modules (hes : EmitsAll h v c f t es f' t') :
    ((accepted (results es)).map (·.module)).Nodup := by
  induction hes with
  | nil => exact .nil
  | @cons _ _ e _ _ es _ _ he hes ih =>
    cases hr : e.result with
    | error r => simpa [results, accepted, hr] using ih
    | ok a =>
      have hfree : ∀ a' ∈ accepted (results es), a'.module ≠ a.module := by
        intro a' ha' hsame
        obtain ⟨e', he', hr'⟩ := List.mem_map.1 (mem_accepted.1 ha')
        have hnot := (hes.pathFor e' he' a' hr').2
        rw [hsame, (he.contains _).2 (.inr ⟨a, hr, rfl⟩)] at hnot
        cases hnot
      rw [results, List.map_cons, hr, accepted, List.map_cons, List.nodup_cons]
      refine ⟨fun hmem => ?_, ih⟩
      obtain ⟨a', ha', hsame⟩ := List.mem_map.1 hmem
      exact hfree a' ha' hsame

theorem EmitsAll.nodup_paths (hes : EmitsAll h v c f t es f' t') :
    ((accepted (results es)).map (·.path)).Nodup := by
  have hmodules := hes.nodup_modules
  rw [List.Nodup, List.pairwise_map] at hmodules ⊢
  refine hmodules.imp_of_mem fun ha hb hne hsame => hne ?_
  obtain ⟨e, he, hr⟩ := List.mem_map.1 (mem_accepted.1 ha)
  obtain ⟨e', he', hr'⟩ := List.mem_map.1 (mem_accepted.1 hb)
  have hp := (hes.pathFor e he _ hr).1
  rw [hsame] at hp
  exact Filer.pathFor_injective hp (hes.pathFor e' he' _ hr').1

/-- A group whose module is that of an artifact before it is refused. -/
theorem EmitsAll.collision {before after : List Emission} {e : Emission}
    (hes : EmitsAll h v c f t (before ++ e :: after) f' t') {plan : Factory.Plan}
    (hplan : e.plan = .ok plan) {a : Artifact} (ha : a ∈ accepted (results before))
    (hsame : plan.moduleName = a.module) :
    ∃ r, e.result = .error r ∧ r.code = "ArtifactWriteFailure" := by
  obtain ⟨f₁, t₁, hbefore, hrest⟩ := hes.split
  cases hrest with
  | cons he _ =>
    obtain ⟨e', he', hr'⟩ := List.mem_map.1 (mem_accepted.1 ha)
    refine he.collision hplan ((hbefore.contains _).2 (.inr ⟨e', he', a, hr', hsame.symm⟩))

end All

/-! ### The whole account -/

theorem Plans.exists_make {n : Factory.Naming} {g : Group} {plan : Factory.Plan}
    (hplan : Plans h v n g (.ok plan)) :
    ∃ d : Declaration, plan = Factory.Plan.make n d.name g.records := by
  obtain ⟨w, -, hanswer⟩ := hplan
  have hafter : After (Factory.planGroup h.provider n g) w
      (fun plan _ => ∃ d : Declaration, plan = Factory.Plan.make n d.name g.records)
      fun _ _ => True := by
    unfold Factory.planGroup
    split
    · trivial
    · rw [after_bind]
      refine (after_run _ w).imp (fun found _ _ => ?_) fun _ _ _ => trivial
      cases found with
      | none => trivial
      | some d => exact ⟨d, rfl⟩
  exact hafter.of_ok (Prod.ext hanswer rfl)

theorem Plans.branches {n : Factory.Naming} {g : Group} {plan : Factory.Plan}
    (hplan : Plans h v n g (.ok plan)) :
    plan.branches.map (fun b => (b.identifier, b.target)) =
      g.records.map fun r => (r.identifier, r.declaration.name) := by
  obtain ⟨d, rfl⟩ := hplan.exists_make
  exact Factory.Plan.make_targets n d.name g.records

/-- What a finished pass gives for the groups of its registry, in their order. -/
structure Account (h : Host ω) (v : View ω) (c : Config)
    (codec : Except Text.NoCodec Text.Codec) (p : Pass) (result : PassResult)
    (t : FileTree) (es : List Emission) : Prop where
  groups : es.map (·.group) = p.registry.groups
  planned : ∀ e ∈ es, Plans h v c.naming e.group e.plan
  artifacts : result.artifacts = accepted (results es)
  diagnostics :
    result.diagnostics = p.reported ++ (rejected (results es)).map Rejection.diagnostic
  modules : (result.artifacts.map (·.module)).Nodup
  paths : (result.artifacts.map (·.path)).Nodup
  contents : ∀ a ∈ result.artifacts, ∃ bytes,
    Filer.encodeAs codec (Factory.render c.runtimeModule a.plan) = .ok bytes ∧
      t.find? a.path = some (some bytes)
  branches : ∀ e ∈ es, ∀ a, e.result = .ok a →
    e.plan = .ok a.plan ∧ a.module = a.plan.moduleName ∧
      a.plan.branches.map (fun b => (b.identifier, b.target)) =
        e.group.records.map fun r => (r.identifier, r.declaration.name)
  collisions : ∀ before e after, es = before ++ e :: after → ∀ plan, e.plan = .ok plan →
    ∀ a ∈ accepted (results before), plan.moduleName = a.module →
      ∃ r, e.result = .error r ∧ r.code = "ArtifactWriteFailure"

theorem EmitsAll.account {p : Pass} {es : List Emission} {result : PassResult}
    (hes : EmitsAll h v c f t es f' t') (hgroups : es.map (·.group) = p.registry.groups)
    (hartifacts : result.artifacts = accepted (results es))
    (hdiagnostics :
      result.diagnostics = p.reported ++ (rejected (results es)).map Rejection.diagnostic) :
    Account h v c f.codec p result t' es where
  groups := hgroups
  planned e he := (hes.planned e he).1
  artifacts := hartifacts
  diagnostics := hdiagnostics
  modules := hartifacts ▸ hes.nodup_modules
  paths := hartifacts ▸ hes.nodup_paths
  contents a ha := by
    rw [hartifacts] at ha
    obtain ⟨e, he, hr⟩ := List.mem_map.1 (mem_accepted.1 ha)
    exact hes.find?_artifact e he a hr
  branches e he a hr := by
    obtain ⟨hplanned, hartifact⟩ := hes.planned e he
    obtain ⟨hplan, hmodule⟩ := hartifact a hr
    rw [hplan] at hplanned
    exact ⟨hplan, hmodule, hplanned.branches⟩
  collisions before e after hsplit plan hplan a ha hsame := by
    subst hsplit
    exact hes.collision hplan ha hsame

/-- A pass that goes on after failures accounts for all the groups that its calls have led to. -/
theorem finish_accounts_for_groups (hh : h.Tame v) (hff : c.failFast = false) (dir : Path)
    (codec : Except Text.NoCodec Text.Codec) (calls : List (Call ω × ω)) {l : Diagnostics} {w : ω}
    (hw : v.At t l w) (hencode : Encodable h v c codec
      (driven h (fresh c (Filer.make dir codec)) calls).registry.groups) :
    ∃ result w' es,
      (finish h).run (driven h (fresh c (Filer.make dir codec)) calls, w) =
        (.ok result, fresh c (Filer.make dir codec), w') ∧
      Account h v c codec (driven h (fresh c (Filer.make dir codec)) calls) result
        (v.tree w') es := by
  have hf : (Filer.make dir codec).reset = Filer.make dir codec := rfl
  obtain ⟨log, hopen⟩ := driven_collecting h hf (collecting_fresh c _) calls
  generalize driven h (fresh c (Filer.make dir codec)) calls = p at hopen hencode ⊢
  have hgo : (c.failFast && p.failed) = false := by rw [hff, Bool.false_and]
  obtain ⟨result, w', es, t', hrun, ⟨⟨rest, hgroups, hstops⟩, f', hchain⟩, hartifacts,
    hdiagnostics, hw'⟩ := finish_answered hh hopen hgo hw hencode
  rw [hff] at hstops
  rw [hstops.rest_eq_nil, List.append_nil] at hgroups
  refine ⟨result, w', es, hrun, ?_⟩
  rw [hw'.2.1]
  exact hchain.account hgroups.symm hartifacts hdiagnostics

def filledShop : Pass :=
  driven (World.host Store.provider) (fresh Config.standard (Filer.make ⟨"", ["out"]⟩ shopCodec))
    [(.process [pure (some tea), pure (some cola)] false, World.start shop FileTree.empty)]

theorem finish_accounts_for_shop :
    filledShop.registry.groups.map (·.name) = ["shop.Drink", "shop.drink"] ∧
    ∃ result w' es,
      (finish (World.host Store.provider)).run (filledShop, World.start shop FileTree.empty) =
        (.ok result, fresh Config.standard (Filer.make ⟨"", ["out"]⟩ shopCodec), w') ∧
      Account (World.host Store.provider) (World.view (· = shop)) Config.standard shopCodec
        filledShop result w'.files es :=
  ⟨by decide +kernel,
    finish_accounts_for_groups (World.host_tame (Store.provider_within shop)) rfl ⟨"", ["out"]⟩
      shopCodec _ (w := World.start shop FileTree.empty) (t := FileTree.empty) (l := [])
      ⟨rfl, rfl, rfl⟩ fun _ _ _ _ => Filer.encodeAs_utf8 _⟩

end Foundry.Pass
