import Foundry.Generation
import Foundry.Proofs.Pass.Accounting
import Foundry.Proofs.Pass.Visits

/-!
What a pass does to files, whatever its provider answers and wherever it fails: its artifacts are
put at their paths, and every other file keeps its bytes.
-/

namespace Foundry

open Query

namespace World

variable {σ : Type}

/-- Of a provider nothing is expected where only files are looked at. -/
theorem host_orderly (p : Provider σ) :
    (host p).Orderly (view fun _ => True) fun _ => True where
  provider t l := by
    have hpart : (host p).provider.Within ((view fun _ => True).At t l) fun _ => True :=
      p.within_true.onPart (fun _ _ => trivial) fun _ _ hw _ => ⟨trivial, hw.2⟩
    exact hpart.mono fun _ _ => .inr trivial
  sink d := by
    rintro t l w ⟨-, ht, hl⟩
    exact ⟨trivial, ht, congrArg (· ++ [d]) hl⟩
  files := by
    rintro t l w ⟨-, ht, hl⟩
    exact ⟨ht, trivial, ht, hl⟩
  setFiles u := by
    rintro t l w ⟨-, -, hl⟩
    exact ⟨trivial, rfl, hl⟩
  setSpans s := by
    rintro t l w ⟨-, ht, hl⟩
    exact ⟨trivial, ht, hl⟩

end World

namespace Pass

variable {ω : Type} {h : Host ω} {v : View ω} {E : Fault → Prop} {c : Config} {f f' : Filer}
  {t t' : FileTree}

/-! ### Rounds -/

/-- A visit that leaves the files alone. -/
def Visits (v : View ω) (t : FileTree) (visit : Query ω (Option Declaration)) : Prop :=
  ∀ l, Query.Within (v.At t l) (fun _ => True) visit

/-- A pass that takes records, in a world that has the files it began with. -/
def Untouched (v : View ω) (c : Config) (f : Filer) (t : FileTree) (s : Pass × ω) : Prop :=
  Collecting c f s.1 ∧ ∃ l, v.At t l s.2

theorem report_untouched (hh : h.Orderly v E) {s : Pass × ω} (hs : Untouched v c f t s)
    (r : Rejection) :
    After (report h r) s (fun _ s' => Untouched v c f t s') fun _ _ => True := by
  obtain ⟨hp, l, hw⟩ := hs
  rw [after_report]
  exact (hh.sink r.diagnostic hw).imp (fun _ _ hw' => ⟨hp.noted r, _, hw'⟩) fun _ _ _ => trivial

theorem reports_untouched (hh : h.Orderly v E) (reports : List Rejection) {s : Pass × ω}
    (hs : Untouched v c f t s) :
    After (reports.forM (report h)) s (fun _ s' => Untouched v c f t s') fun _ _ => True := by
  induction reports generalizing s with
  | nil => exact hs
  | cons r rs ih =>
    rw [List.forM_eq_forM, List.forM_cons, after_bind]
    exact (report_untouched hh hs r).imp (fun _ _ hs' => ih hs') fun _ _ h => h

theorem visitAll_untouched (hh : h.Orderly v E) {visits : List (Query ω (Option Declaration))}
    (hvisits : ∀ visit ∈ visits, Visits v t visit) {s : Pass × ω} (hs : Untouched v c f t s)
    (k : Counts) :
    After (visitAll h visits k) s (fun _ s' => Untouched v c f t s') fun _ _ => True := by
  induction visits generalizing s k with
  | nil => exact hs
  | cons visit rest ih =>
    obtain ⟨hvisit, hrest⟩ := List.forall_mem_cons.1 hvisits
    obtain ⟨⟨log, hp⟩, l, hw⟩ := hs
    rw [visitAll, after_bind, after_ask]
    refine (hvisit l s.2 hw).imp ?_ fun _ _ _ => trivial
    intro found w hw₁
    have hs₁ : Untouched v c f t (s.1, w) := ⟨⟨log, hp⟩, l, hw₁⟩
    cases found with
    | none => exact ih hrest hs₁ k
    | some d =>
      rw [after_bind]
      refine (attempt_after (hh.provider t l) hp d hw₁).imp ?_ fun _ _ _ => trivial
      rintro outcome s₂ ⟨hw₂, out, -, rfl, hp₂, -⟩
      have hs₂ : Untouched v c f t s₂ := ⟨⟨_, hp₂⟩, l, hw₂⟩
      cases out with
      | ok r => exact ih hrest hs₂ _
      | error r =>
        simp only [rejection?, after_bind]
        refine (report_untouched hh hs₂ r).imp ?_ fun _ _ h => h
        intro _ s₃ hs₃
        rw [after_get]
        split
        · exact hs₃
        · exact ih hrest hs₃ _

theorem processRound_untouched (hh : h.Orderly v E) {visits : List (Query ω (Option Declaration))}
    (hvisits : ∀ visit ∈ visits, Visits v t visit) {s : Pass × ω} (hs : Untouched v c f t s) :
    After (processRound h visits) s (fun _ s' => Untouched v c f t s') fun _ _ => True := by
  obtain ⟨⟨log, hp⟩, l, hw⟩ := hs
  simp only [processRound, after_bind, after_update, after_get, after_tryCatch, after_discard,
    after_throw]
  have hround : Collecting c f { s.1 with round := s.1.round + 1 } :=
    ⟨log, hp.config, hp.filer, hp.phase, hp.follows⟩
  refine after_inSpan ((visitAll_untouched hh hvisits ⟨hround, l, hh.setSpans _ hw⟩ _).imp ?_ ?_)
  · rintro k s' ⟨hp', l', hw'⟩ spans
    exact ⟨hp', l', hh.setSpans _ hw'⟩
  · exact fun _ _ _ _ => trivial

theorem gather_untouched (hh : h.Orderly v E) (aside : List (Path × Source.SyntaxFault))
    (hannotated : ∀ l w, v.At t l w → After h.provider.annotated w
      (fun visits w' => v.At t l w' ∧ ∀ visit ∈ visits, Visits v t visit) fun _ _ => True)
    {s : Pass × ω} (hs : Untouched v c f t s) :
    After (gather h aside) s (fun _ s' => Untouched v c f t s') fun _ _ => True := by
  rw [gather, forM_unparsed, after_bind]
  refine (reports_untouched hh _ hs).imp ?_ fun _ _ h => h
  rintro _ s₁ ⟨hp, l, hw⟩
  rw [after_bind, after_ask]
  refine (hannotated l s₁.2 hw).imp ?_ fun _ _ h => h
  rintro visits w ⟨hw', hvisits⟩
  exact processRound_untouched hh hvisits ⟨hp, l, hw'⟩

/-! ### Emission -/

theorem Emits.keepsDirs {e : Emission} (he : Emits h v c f t e f' t') : t.KeepsDirs t' := by
  cases hr : e.result with
  | error r => exact (he.of_error hr).2.keepsDirs
  | ok a =>
    obtain ⟨-, -, hw⟩ := he.of_ok hr
    exact hw.keepsDirs

theorem EmitsAll.keepsDirs {es : List Emission} (hes : EmitsAll h v c f t es f' t') :
    t.KeepsDirs t' := by
  induction hes with
  | nil => exact fun _ hn => hn
  | cons he _ ih => exact fun place hn => ih place (he.keepsDirs place hn)

/-- A file keeps its bytes exactly if every artifact whose path leads to it has those bytes. -/
theorem EmitsAll.kept_iff {es : List Emission} (hes : EmitsAll h v c f t es f' t')
    {place : List String} {old : Bytes} (hold : t.at? place = some (some old)) :
    t'.at? place = some (some old) ↔
      ∀ a ∈ accepted (results es), t'.locate a.path = .ok place →
        Filer.encodeAs f.codec (Factory.render c.runtimeModule a.plan) = .ok old := by
  constructor
  · intro hkept a ha hl
    obtain ⟨e, he, hr⟩ := List.mem_map.1 (mem_accepted.1 ha)
    obtain ⟨bytes, hbytes, hfind⟩ := hes.find?_artifact e he a hr
    obtain ⟨place', hl', hn⟩ := FileTree.find?_eq_some_iff.1 hfind
    obtain rfl : place = place' := Except.ok.inj (hl.symm.trans hl')
    rw [hkept] at hn
    rw [hbytes, Option.some.inj (Option.some.inj hn)]
  · intro hall
    induction hes with
    | nil => exact hold
    | @cons f t e f₁ t₁ es f' t' he hes ih =>
      have hbytes : t₁.at? place = some (some old) := by
        cases hr : e.result with
        | error r => exact (he.of_error hr).2 place _ hold
        | ok a =>
          obtain ⟨-, -, hw⟩ := he.of_ok hr
          by_cases hl : t₁.locate a.path = .ok place
          · have hencode := hall a (by simp [results, accepted, hr])
              (FileTree.walk_of_keepsDirs hes.keepsDirs a.path.parts hl)
            obtain ⟨bytes, hbytes, hfind⟩ := hw.find?_self
            obtain ⟨place', hl', hn⟩ := FileTree.find?_eq_some_iff.1 hfind
            obtain rfl : place = place' := Except.ok.inj (hl.symm.trans hl')
            rw [hn, Except.ok.inj (hbytes.symm.trans hencode)]
          · refine hw.at?_kept hold fun p hp => ?_
            rwa [← Except.ok.inj hp]
      refine ih hbytes fun a ha hl => ?_
      rw [he.codec]
      refine hall a ?_ hl
      rw [results, List.map_cons]
      cases hr : e.result with
      | error r => exact ha
      | ok b => exact List.mem_cons_of_mem _ ha

/-! ### Whole passes -/

/-- A result whose artifacts are all that became of the files. -/
def WritesOnly (h : Host ω) (v : View ω) (c : Config) (f : Filer) (t : FileTree)
    (result : PassResult) (t' : FileTree) : Prop :=
  ∃ es f', EmitsAll h v c f t es f' t' ∧ result.artifacts = accepted (results es)

theorem finish_writesOnly (hh : h.Orderly v E) {s : Pass × ω} (hs : Untouched v c f t s) :
    After (finish h) s (fun r s' => WritesOnly h v c f t r (v.tree s'.2)) fun _ _ => True := by
  obtain ⟨⟨log, hp⟩, l, hw⟩ := hs
  cases hstop : c.failFast && s.1.failed with
  | true =>
    refine (finish_stopped (h := h) hp hstop s.2).imp ?_ fun _ _ _ => trivial
    rintro r s' ⟨rfl, rfl⟩
    refine ⟨[], f, ?_, rfl⟩
    rw [hw.2.1]
    exact .nil
  | false =>
    refine (finish_after hh hp hstop hw).imp ?_ fun _ _ _ => trivial
    rintro r s' ⟨-, es, t', ⟨-, f', hchain⟩, hartifacts, -, hw'⟩
    refine ⟨es, f', ?_, hartifacts⟩
    rw [hw'.2.1]
    exact hchain

theorem work_writesOnly {σ : Type} (p : Provider σ) (aside : List (Path × Source.SyntaxFault))
    (c : Config) (f : Filer) (w : World σ) :
    After (Generation.work (World.host p) aside) (fresh c f, w)
      (fun r s' => WritesOnly (World.host p) (World.view fun _ => True) c f w.files r s'.2.files)
      fun _ _ => True := by
  have hh := World.host_orderly p
  have hannotated : ∀ l u, (World.view fun _ : σ => True).At w.files l u →
      After (World.host p).provider.annotated u
        (fun visits u' => (World.view fun _ => True).At w.files l u' ∧
          ∀ visit ∈ visits, Visits (World.view fun _ => True) w.files visit) fun _ _ => True := by
    intro l u hu
    simp only [World.host, Provider.onPart, after_bind, after_lift, after_pure]
    refine (after_run _ u.memory).imp (fun visits m _ => ⟨⟨trivial, hu.2⟩, ?_⟩) fun _ _ _ => trivial
    intro visit hvisit l'
    obtain ⟨q, -, rfl⟩ := List.mem_map.1 hvisit
    exact (within_true q).lift (fun _ _ => trivial) fun _ _ hw _ => ⟨trivial, hw.2⟩
  have hstart : Untouched (World.view fun _ : σ => True) c f w.files (fresh c f, w) :=
    ⟨⟨[], open_fresh c f⟩, w.collected, trivial, rfl, rfl⟩
  have hall : After (gather (World.host p) aside >>= fun _ => finish (World.host p)) (fresh c f, w)
      (fun r s' => WritesOnly (World.host p) (World.view fun _ => True) c f w.files r s'.2.files)
      fun _ _ => True := by
    rw [after_bind]
    refine (gather_untouched hh aside hannotated hstart).imp ?_ fun _ _ h => h
    exact fun _ s hs => finish_writesOnly hh hs
  unfold After at hall ⊢
  rwa [run_work]

/-! ### A single group -/

/-- The end of a pass with one group, whose plan is made and then written or refused. -/
theorem finish_one {σ : Type} {q : Provider σ} {p : Pass} {w w' : World σ} {g : Group}
    {plan : Factory.Plan} {written : Except Rejection Path} {f : Filer} {t : FileTree}
    (hopen : p.registry.beginEmission = .ok ⟨[g], .emitting⟩)
    (hgo : (p.config.failFast && p.failed) = false)
    (hplan : (Factory.planGroup (World.host q).provider p.config.naming g).run w = (.ok plan, w'))
    (hwrite : p.filer.write plan.moduleName (Factory.render p.config.runtimeModule plan) w'.files =
      (written.mapError .rejected, f, t)) :
    After (finish (World.host q)) (p, w)
      (fun r _ => r.artifacts = (written.toOption.map (⟨plan.moduleName, ·, plan⟩)).toList)
      fun _ _ => False := by
  have hemit : After (emit (World.host q) g)
      ({ p with registry := ⟨[g], .emitting⟩ }, w)
      (fun b _ => written.toOption.map (⟨plan.moduleName, ·, plan⟩) = some b)
      fun e _ => ∃ r, e = .rejected r ∧ written.toOption = none := by
    rw [emit, after_bind, after_get, after_bind, after_ask]
    refine After.of_run hplan (after_inSpan ?_)
    simp only [opened, World.host, after_bind, after_ask, after_get, after_pure,
      after_modify, after_update, hwrite]
    cases written with
    | ok a => exact fun _ => rfl
    | error r => exact fun _ => ⟨r, rfl, rfl⟩
  simp only [finish, after_bind, after_get, after_tryCatch, after_update, after_pure,
    after_throw, hopen, hgo, Bool.false_eq_true, if_false, emitAll]
  refine hemit.imp ?_ ?_
  · intro a s ha
    rw [ha]
    rfl
  · rintro e s ⟨r, rfl, hnone⟩
    simp only [after_pure, after_bind, after_report, World.host, World.collect, after_modify,
      after_get, ite_self, hnone]
    rfl

end Pass

end Foundry
