import Foundry.Proofs.Factory.ImportTable
import Foundry.Proofs.Pass.Clearing
import Foundry.Proofs.Pass.Rounds

/-!
The end of a pass in a tame host: every group comes to an artifact or to a rejection, and what was
written for one group is not touched for another.
-/

namespace Foundry.Pass

open Query

variable {ω : Type}

/-- What became of a group: its plan, if it has one, and the artifact, if it was written. -/
structure Emission where
  group : Group
  plan : Except Rejection Factory.Plan
  result : Except Rejection Artifact

def results (es : List Emission) : List (Except Rejection Artifact) :=
  es.map (·.result)

/-- The answers of the provider make a plan for a group, or reject the group. -/
def Plans (h : Host ω) (v : View ω) (n : Factory.Naming) (g : Group)
    (plan : Except Rejection Factory.Plan) : Prop :=
  ∃ w, v.good w ∧ (Factory.planGroup h.provider n g).answer w = plan.mapError Fault.rejected

inductive Emits (h : Host ω) (v : View ω) (c : Config) :
    Filer → FileTree → Emission → Filer → FileTree → Prop
  | unplanned {f t g r} :
    Plans h v c.naming g (.error r) → Emits h v c f t ⟨g, .error r, .error r⟩ f t
  | refused {f t g plan r t'} :
    Plans h v c.naming g (.ok plan) → r.code = "ArtifactWriteFailure" → t.Extends t' →
    Emits h v c f t ⟨g, .ok plan, .error r⟩ f t'
  | written {f t g plan path f' t'} :
    Plans h v c.naming g (.ok plan) →
    f.Writes plan.moduleName (Factory.render c.runtimeModule plan) t (.ok path) f' t' →
    Emits h v c f t ⟨g, .ok plan, .ok ⟨plan.moduleName, path, plan⟩⟩ f' t'

inductive EmitsAll (h : Host ω) (v : View ω) (c : Config) :
    Filer → FileTree → List Emission → Filer → FileTree → Prop
  | nil {f t} : EmitsAll h v c f t [] f t
  | cons {f t e f' t' es f'' t''} :
    Emits h v c f t e f' t' → EmitsAll h v c f' t' es f'' t'' → EmitsAll h v c f t (e :: es) f'' t''

/-- The encoding has bytes for every text that may be rendered for groups. -/
def Encodable (h : Host ω) (v : View ω) (c : Config) (codec : Except Text.NoCodec Text.Codec)
    (gs : List Group) : Prop :=
  ∀ g ∈ gs, ∀ plan, Plans h v c.naming g (.ok plan) →
    ∃ bytes, Filer.encodeAs codec (Factory.render c.runtimeModule plan) = .ok bytes

def Unencodable (h : Host ω) (v : View ω) (c : Config) (f : Filer) (g : Group) (e : Fault) : Prop :=
  ∃ plan, Plans h v c.naming g (.ok plan) ∧
    Filer.encodeAs f.codec (Factory.render c.runtimeModule plan) = .error e

/-! ### Steps of emission -/

section Steps

variable {h : Host ω} {v : View ω} {E : Fault → Prop} {c : Config} {f f' : Filer}
  {t t' : FileTree} {l : Diagnostics} {p : Pass}

theorem Emits.codec {e : Emission} (he : Emits h v c f t e f' t') :
    f'.codec = f.codec := by
  cases he with
  | unplanned _ => rfl
  | refused _ _ _ => rfl
  | written _ hw =>
    cases hw with
    | done _ _ _ _ _ => rfl

theorem emit_after (hh : h.Orderly v E) {g : Group} (hg : g.members.entries ≠ []) {w : ω}
    (hw : v.At t l w) :
    After (emit h g) (p, w)
      (fun a s => ∃ e f' t', e.group = g ∧ e.result = .ok a ∧ Emits h v p.config p.filer t e f' t' ∧
        s.1 = { p with filer := f' } ∧ v.At t' l s.2)
      (fun x s => (∃ r e t', x = .rejected r ∧ e.group = g ∧ e.result = .error r ∧
        Emits h v p.config p.filer t e p.filer t' ∧ s.1 = p ∧ v.At t' l s.2) ∨
        Unencodable h v p.config p.filer g x ∨ ¬x.IsRejection ∧ E x) := by
  rw [emit, after_bind, after_get, after_bind, after_ask]
  refine (((hh.provider t l).planGroup p.config.naming hg w hw).and (after_run _ w)).imp ?_ ?_
  · rintro plan w₁ ⟨hw₁, hrun⟩
    have hplan : Plans h v p.config.naming g (.ok plan) := ⟨w, hw.1, congrArg Prod.fst hrun⟩
    refine after_inSpan ?_
    simp only [opened, after_bind, after_ask, after_get, after_update]
    refine (hh.files (hh.setSpans _ hw₁)).imp ?_ fun _ _ h => h.elim
    rintro t w₂ ⟨rfl, hw₂⟩
    have hwrite := Filer.write_writes p.filer plan.moduleName
      (Factory.render p.config.runtimeModule plan) t
    generalize p.filer.write plan.moduleName (Factory.render p.config.runtimeModule plan) t = out
      at hwrite ⊢
    obtain ⟨result, f', t'⟩ := out
    refine (hh.setFiles t' hw₂).imp ?_ ?_
    · intro _ w₃ hw₃
      cases result with
      | ok path =>
        exact fun spans => ⟨_, f', t', rfl, rfl, .written hplan hwrite, rfl, hh.setSpans _ hw₃⟩
      | error x =>
        obtain ⟨rfl, hext⟩ := hwrite.kept_of_error
        intro spans
        rcases hwrite.fault with ⟨r, rfl, hr⟩ | hx
        · exact .inl ⟨r, _, t', rfl, rfl, rfl, .refused hplan hr hext, rfl, hh.setSpans _ hw₃⟩
        · exact .inr (.inl ⟨plan, hplan, hx⟩)
    · rintro x w₃ ⟨⟨r, rfl, hr⟩, u, hext, hw₃⟩ spans
      exact .inl ⟨r, _, u, rfl, rfl, rfl, .refused hplan hr hext, trivial, hh.setSpans _ hw₃⟩
  · rintro x w₁ ⟨⟨hw₁, hx⟩, hrun⟩
    by_cases hreject : x.IsRejection
    · obtain ⟨r, rfl⟩ := hreject
      exact .inl ⟨r, ⟨g, .error r, .error r⟩, t, rfl, rfl, rfl,
        .unplanned ⟨w, hw.1, congrArg Prod.fst hrun⟩, rfl, hw₁⟩
    · exact .inr (.inr ⟨hreject, hx.resolve_left hreject⟩)

/-- The emissions of groups in their order, up to where they stop. -/
structure EmissionsOf (h : Host ω) (v : View ω) (c : Config) (f : Filer) (t : FileTree)
    (gs : List Group) (es : List Emission) (t' : FileTree) : Prop where
  stops : ∃ rest, gs = es.map (·.group) ++ rest ∧ Stops c.failFast (results es) rest
  chain : ∃ f', EmitsAll h v c f t es f' t'

theorem EmissionsOf.nil : EmissionsOf h v c f t [] [] t :=
  ⟨⟨[], rfl, .done⟩, f, .nil⟩

theorem EmissionsOf.cons {e : Emission} {f₁ : Filer} {t₁ : FileTree} {gs : List Group}
    {es : List Emission} (he : Emits h v c f t e f₁ t₁)
    (hgo : ∀ r, e.result = .error r → c.failFast = false)
    (hes : EmissionsOf h v c f₁ t₁ gs es t') :
    EmissionsOf h v c f t (e.group :: gs) (e :: es) t' := by
  obtain ⟨⟨rest, rfl, hstops⟩, f', hchain⟩ := hes
  refine ⟨⟨rest, rfl, ?_⟩, f', .cons he hchain⟩
  rw [results, List.map_cons]
  cases hresult : e.result with
  | ok a => exact .accepted hstops
  | error r => exact .goOn (hgo r hresult) hstops

theorem EmissionsOf.halt {e : Emission} {r : Rejection} {gs : List Group}
    (he : Emits h v c f t e f' t') (hresult : e.result = .error r) (hff : c.failFast = true) :
    EmissionsOf h v c f t (e.group :: gs) [e] t' := by
  refine ⟨⟨gs, rfl, ?_⟩, f', .cons he .nil⟩
  rw [results, List.map_singleton, hresult]
  exact .halt hff

theorem emitAll_after (hh : h.Orderly v E) (gs : List Group) (hgs : ∀ g ∈ gs, g.members.entries ≠ [])
    {w : ω} (hw : v.At t l w) (done : List Artifact) :
    After (emitAll h gs done) (p, w)
      (fun as s => ∃ es t', EmissionsOf h v p.config p.filer t gs es t' ∧
        as = done ++ accepted (results es) ∧
        s.1.reported = p.reported ++ (rejected (results es)).map Rejection.diagnostic ∧
        v.At t' (l ++ (rejected (results es)).map Rejection.diagnostic) s.2)
      (fun x _ => (∃ g ∈ gs, Unencodable h v p.config p.filer g x) ∨ E x) := by
  induction gs generalizing p t l w done with
  | nil =>
    exact ⟨[], t, .nil, by simp [results, accepted], by simp [results, rejected],
      by simpa [results, rejected] using hw⟩
  | cons g gs ih =>
    obtain ⟨hg, hrest⟩ := List.forall_mem_cons.1 hgs
    simp only [emitAll, after_bind, after_tryCatch, after_pure]
    refine (emit_after hh hg hw).imp ?_ ?_
    · rintro a ⟨_, w₁⟩ ⟨e, f₁, t₁, rfl, hresult, he, rfl, hw₁⟩
      have hgo : ∀ r, e.result = .error r → p.config.failFast = false := fun r hr => by
        rw [hresult] at hr
        cases hr
      refine (ih hrest hw₁ _).imp ?_ ?_
      · rintro as s ⟨es, t', hes, rfl, hreported, hs⟩
        refine ⟨e :: es, t', .cons he hgo hes, ?_, ?_, ?_⟩
        · simp [results, accepted, hresult]
        · simpa [results, rejected, hresult] using hreported
        · simpa [results, rejected, hresult] using hs
      · rintro x s (⟨g, hg, plan, hplan, hx⟩ | hx)
        · refine .inl ⟨g, List.mem_cons_of_mem _ hg, plan, hplan, ?_⟩
          rwa [← he.codec]
        · exact .inr hx
    · rintro x ⟨p, w₁⟩ (⟨r, e, t₁, rfl, rfl, hresult, he, rfl, hw₁⟩ | ⟨plan, hplan, hencode⟩ |
        ⟨hreject, hx⟩)
      · simp only [after_pure, after_bind, after_report, after_get]
        refine (hh.sink r.diagnostic hw₁).imp ?_ fun _ _ h => h.elim
        intro _ w₂ hw₂
        change After (if p.config.failFast then _ else _) (p.noted r, w₂) _ _
        cases hff : p.config.failFast with
        | true =>
          refine ⟨[e], t₁, .halt he hresult hff, ?_, ?_, ?_⟩
          · simp [results, accepted, hresult]
          · simp [results, rejected, hresult, noted]
          · simpa [results, rejected, hresult] using hw₂
        | false =>
          refine (ih hrest hw₂ done).imp ?_ ?_
          · rintro as s ⟨es, t', hes, rfl, hreported, hs⟩
            refine ⟨e :: es, t', .cons he (fun _ _ => hff) hes, ?_, ?_, ?_⟩
            · simp [results, accepted, hresult]
            · simpa [results, rejected, hresult, noted] using hreported
            · simpa [results, rejected, hresult] using hs
          · rintro x s (⟨g, hg, hx⟩ | hx)
            · exact .inl ⟨g, List.mem_cons_of_mem _ hg, hx⟩
            · exact .inr hx
      · -- A text that cannot be encoded is no rejection, so nothing catches it.
        cases x with
        | rejected r => cases encodeAs_isOwn hencode
        | _ => exact .inl ⟨g, List.mem_cons_self, plan, hplan, hencode⟩
      · cases x with
        | rejected r => exact absurd ⟨r, rfl⟩ hreject
        | _ => exact .inr hx

theorem finish_stopped {log : List Record} (hp : Open c f log p)
    (hstop : (c.failFast && p.failed) = true) (w : ω) :
    After (finish h) (p, w) (fun r s => s = (fresh c f.reset, w) ∧ r = ⟨[], p.reported⟩)
      fun _ _ => False := by
  simp only [finish, after_bind, after_get, after_tryCatch, after_update, after_throw,
    hp.beginEmission, hp.config, hstop, if_true, after_pure]
  simp only [clear, hp.filer, and_self]

theorem finish_after {log : List Record} (hh : h.Orderly v E) (hp : Open c f log p)
    (hgo : (c.failFast && p.failed) = false) {w : ω} (hw : v.At t l w) :
    After (finish h) (p, w)
      (fun r s => s.1 = fresh c f.reset ∧ ∃ es t', EmissionsOf h v c f t p.registry.groups es t' ∧
        r.artifacts = accepted (results es) ∧
        r.diagnostics = p.reported ++ (rejected (results es)).map Rejection.diagnostic ∧
        v.At t' (l ++ (rejected (results es)).map Rejection.diagnostic) s.2)
      (fun x s => s.1 = fresh c f.reset ∧
        ((∃ g ∈ p.registry.groups, Unencodable h v c f g x) ∨ E x)) := by
  have hcleared := finish_cleared h.raises_any ⟨log, hp⟩ w
  have hemitted := emitAll_after (p := { p with registry := ⟨p.registry.groups, .emitting⟩ }) hh
    p.registry.groups (fun g hg => hp.entries_ne_nil hg) hw []
  refine (hcleared.and (?_ : After (finish h) (p, w) _ fun x _ =>
    (∃ g ∈ p.registry.groups, Unencodable h v c f g x) ∨ E x)).imp (fun _ _ h => h)
    fun _ _ h => ⟨h.1.1, h.2⟩
  simp only [finish, after_bind, after_get, after_tryCatch, after_update, after_pure, after_throw,
    hp.beginEmission, hp.config, hp.filer, hgo, Bool.false_eq_true, if_false]
  simp only [hp.config, hp.filer] at hemitted
  refine hemitted.imp ?_ fun _ _ h => h
  rintro as s ⟨es, t', hes, rfl, hreported, hs⟩
  exact ⟨es, t', hes, rfl, hreported, hs⟩

theorem finish_answered {log : List Record} (hh : h.Tame v) (hp : Open c f log p)
    (hgo : (c.failFast && p.failed) = false) {w : ω} (hw : v.At t l w)
    (hencode : Encodable h v c f.codec p.registry.groups) :
    ∃ r w' es t', (finish h).run (p, w) = (.ok r, fresh c f.reset, w') ∧
      EmissionsOf h v c f t p.registry.groups es t' ∧ r.artifacts = accepted (results es) ∧
      r.diagnostics = p.reported ++ (rejected (results es)).map Rejection.diagnostic ∧
      v.At t' (l ++ (rejected (results es)).map Rejection.diagnostic) w' := by
  obtain ⟨r, ⟨_, w'⟩, hrun, rfl, es, t', hes⟩ := (finish_after hh.orderly hp hgo hw).exists_ok <| by
    rintro x s ⟨-, ⟨g, hg, plan, hplan, hx⟩ | hx⟩
    on_goal 2 => exact hx
    obtain ⟨bytes, hbytes⟩ := hencode g hg plan hplan
    cases hbytes.symm.trans hx
  exact ⟨r, w', es, t', hrun, hes⟩

end Steps

end Foundry.Pass
