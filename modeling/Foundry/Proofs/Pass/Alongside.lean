import Foundry.Pass
import Foundry.Proofs.Query.Alike
import Mathlib.Data.List.Forall2

/-!
Passes side by side. Where two hosts answer alike, two passes with the same records take the same
steps, whatever was reported before and however many rounds there were.
-/

namespace Foundry

open Query

variable {ω ω' α β : Type}

/-- Hosts that answer alike in related worlds. Their logs of spans may differ. -/
structure Host.Alike (R : ω → ω' → Prop) (h : Host ω) (h' : Host ω') : Prop where
  provider : h.provider.Alike R h'.provider
  sink : ∀ d, Query.Alike R (h.sink d) (h'.sink d)
  files : Query.Alike R h.files h'.files
  setFiles : ∀ t, Query.Alike R (h.setFiles t) (h'.setFiles t)
  setSpans : ∀ w w' l l', R w w' → R (h.setSpans l w) (h'.setSpans l' w')

/-- Hosts that answer alike as far as rounds can tell, which do not look at files. -/
structure Host.Attuned (R : ω → ω' → Prop) (h : Host ω) (h' : Host ω') : Prop where
  provider : h.provider.Alike R h'.provider
  sink : ∀ d, Query.Alike R (h.sink d) (h'.sink d)
  setSpans : ∀ w w' l l', R w w' → R (h.setSpans l w) (h'.setSpans l' w')

/-- Filers of one kind write alike to related files, which stay related. -/
def Filer.WriteAlike (D : Filer → Prop) (F : FileTree → FileTree → Prop) : Prop :=
  ∀ f module text t t', D f → F t t' →
    (f.write module text t').1 = (f.write module text t).1 ∧
      (f.write module text t').2.1 = (f.write module text t).2.1 ∧
      D (f.write module text t).2.1 ∧ F (f.write module text t).2.2 (f.write module text t').2.2

/-- Hosts over related files, to which filers of one kind write alike. -/
structure Host.Beside (D : Filer → Prop) (F : FileTree → FileTree → Prop) (R : ω → ω' → Prop)
    (h : Host ω) (h' : Host ω') : Prop extends Host.Attuned R h h' where
  files : ∀ w w', R w w' → Both h.files w h'.files w' (fun t t' v v' => F t t' ∧ R v v') R
  setFiles : ∀ t t', F t t' → Query.Alike R (h.setFiles t) (h'.setFiles t')
  write : Filer.WriteAlike D F

theorem Host.Alike.attuned {R : ω → ω' → Prop} {h : Host ω} {h' : Host ω'} (hh : h.Alike R h') :
    h.Attuned R h' :=
  ⟨hh.provider, hh.sink, hh.setSpans⟩

theorem Host.Alike.beside {R : ω → ω' → Prop} {h : Host ω} {h' : Host ω'} (hh : h.Alike R h') :
    h.Beside (fun _ => True) Eq R h' where
  toAttuned := hh.attuned
  files := hh.files
  setFiles := by
    rintro t _ rfl
    exact hh.setFiles t
  write := by
    rintro f module text t _ - rfl
    exact ⟨rfl, rfl, trivial, rfl⟩

structure Host.Twin (R : ω → ω' → Prop) (h : Host ω) (h' : Host ω') : Prop extends
    Host.Alike R h h' where
  annotated : ∀ w w', R w w' → Both h.provider.annotated w h'.provider.annotated w'
    (fun visits visits' v v' => List.Forall₂ (Query.Alike R) visits visits' ∧ R v v') R

namespace Pass

/-- Passes that go the same way on, after reports of their own. The first failure matters only to
those that fail fast. -/
structure Alongside (a b : Diagnostics) (p p' : Pass) : Prop where
  config : p.config = p'.config
  filer : p.filer = p'.filer
  registry : p.registry = p'.registry
  reported : ∃ new, p.reported = a ++ new ∧ p'.reported = b ++ new
  failed : p.config.failFast = true → p.failed = p'.failed

/-- Passes and worlds that are related, each with its like. -/
def Paired (A : Pass → Pass → Prop) (R : ω → ω' → Prop) (s : Pass × ω) (s' : Pass × ω') : Prop :=
  A s.1 s'.1 ∧ R s.2 s'.2

def Together (R : ω → ω' → Prop) (a b : Diagnostics) (s : Pass × ω) (s' : Pass × ω') : Prop :=
  Alongside a b s.1 s'.1 ∧ R s.2 s'.2

theorem alongside_self (p : Pass) : Alongside p.reported p.reported p p :=
  ⟨rfl, rfl, rfl, ⟨[], by simp, by simp⟩, fun _ => rfl⟩

variable {R : ω → ω' → Prop} {A : Pass → Pass → Prop} {a b : Diagnostics} {p p' : Pass}

theorem Alongside.clear_eq (h : Alongside a b p p') : p.clear = p'.clear := by
  rw [Pass.clear, Pass.clear, h.config, h.filer]

theorem Alongside.stops_eq (h : Alongside a b p p') :
    (p.config.failFast && p.failed) = (p'.config.failFast && p'.failed) := by
  rw [← h.config]
  cases hff : p.config.failFast with
  | true => rw [h.failed hff]
  | false => rfl

theorem Alongside.setRegistry (h : Alongside a b p p') (g : Registry) :
    Alongside a b { p with registry := g } { p' with registry := g } :=
  ⟨h.config, h.filer, rfl, h.reported, h.failed⟩

theorem Alongside.setFiler (h : Alongside a b p p') (f : Filer) :
    Alongside a b { p with filer := f } { p' with filer := f } :=
  ⟨h.config, rfl, h.registry, h.reported, h.failed⟩

theorem Alongside.setRound (h : Alongside a b p p') (n n' : Nat) :
    Alongside a b { p with round := n } { p' with round := n' } :=
  ⟨h.config, h.filer, h.registry, h.reported, h.failed⟩

theorem Alongside.report (h : Alongside a b p p') (d : Diagnostic) :
    Alongside a b { p with failed := true, reported := p.reported ++ [d] }
      { p' with failed := true, reported := p'.reported ++ [d] } := by
  obtain ⟨new, hnew, hnew'⟩ := h.reported
  exact ⟨h.config, h.filer, h.registry,
    ⟨new ++ [d], by simp [hnew], by simp [hnew']⟩, fun _ => rfl⟩

/-! ### Single steps -/

theorem ask_alike {q : Query ω α} {q' : Query ω' α} (h : Query.Alike R q q') :
    Query.Alike (Paired A R) (ask q) (ask q') := by
  intro s s' hs
  exact Both.lift ((h s.2 s'.2 hs.2).imp (fun _ _ _ _ hv => ⟨hv.1, hs.1, hv.2⟩)
    fun _ _ hv => ⟨hs.1, hv⟩)

theorem update_alike {g g' : Pass → Pass} (hg : ∀ p p', A p p' → A (g p) (g' p')) :
    Query.Alike (Paired A R) (update g) (update g') :=
  fun s s' hs => ⟨rfl, hg s.1 s'.1 hs.1, hs.2⟩

variable {h : Host ω} {h' : Host ω'}

theorem inSpan_alike (hh : h.Attuned R h') (name name' : String)
    (attributes attributes' : List (String × Value)) {body : (Span → Span) → Step ω α}
    {body' : (Span → Span) → Step ω' α} (close close' : α → Span → Span)
    (hbody : Query.Alike (Paired A R) (body id) (body' id)) :
    Query.Alike (Paired A R) (inSpan h name attributes body close)
      (inSpan h' name' attributes' body' close') := by
  have hset : ∀ (s : Pass × ω) (s' : Pass × ω') l l', Paired A R s s' →
      Paired A R (s.1, h.setSpans l s.2) (s'.1, h'.setSpans l' s'.2) :=
    fun s s' l l' hs => ⟨hs.1, hh.setSpans _ _ _ _ hs.2⟩
  refine .get_bind fun s s' hs => .bind (fun _ _ _ => ⟨rfl, hset s s' _ _ hs⟩) fun _ => ?_
  refine .tryCatch (hbody.bind fun x => .bind ?_ fun _ => .pure x)
    fun f => .bind ?_ fun _ => .throw f
  · exact fun t t' ht => ⟨rfl, hset t t' _ _ ht⟩
  · exact fun t t' ht => ⟨rfl, hset t t' _ _ ht⟩

theorem report_alike (hh : h.Attuned R h') (r : Rejection)
    (hreport : ∀ p p' d, A p p' → A { p with failed := true, reported := p.reported ++ [d] }
      { p' with failed := true, reported := p'.reported ++ [d] }) :
    Query.Alike (Paired A R) (report h r) (report h' r) :=
  (update_alike fun p p' hp => hreport p p' _ hp).bind fun _ => ask_alike (hh.sink _)

/-! ### Rounds -/

theorem processDeclaration_alike (hh : h.Attuned R h') (d : Declaration) :
    Query.Alike (Together R a b) (processDeclaration h d) (processDeclaration h' d) := by
  refine (ask_alike (hh.provider.extract d)).bind fun r => .get_bind fun s s' hs => ?_
  dsimp only
  rw [hs.1.config]
  refine (ask_alike (hh.provider.validate _ r)).bind fun _ => .get_bind fun t t' ht => ?_
  rw [ht.1.registry]
  cases t'.1.registry.add r with
  | ok g => exact (update_alike fun _ _ hp => hp.setRegistry g).bind fun _ => .pure r
  | error f => exact .throw f

theorem attempt_alike (hh : h.Attuned R h') (d : Declaration) :
    Query.Alike (Together R a b) (attempt h d) (attempt h' d) := by
  refine .tryCatch ((processDeclaration_alike hh d).discard.bind fun _ => .pure none) fun f => ?_
  cases f with
  | rejected r => exact .pure (some r)
  | _ => exact .throw _

theorem visitAll_alike (hh : h.Attuned R h') {visits : List (Query ω (Option Declaration))}
    {visits' : List (Query ω' (Option Declaration))}
    (hv : List.Forall₂ (Query.Alike R) visits visits') (k : Counts) :
    Query.Alike (Together R a b) (visitAll h visits k) (visitAll h' visits' k) := by
  induction hv generalizing k with
  | nil => exact .pure k
  | cons hvisit _ ih =>
    refine (ask_alike hvisit).bind fun found => ?_
    cases found with
    | none => exact ih k
    | some d =>
      refine (attempt_alike hh d).bind fun o => ?_
      cases o with
      | none => exact ih _
      | some r =>
        refine (report_alike hh r fun _ _ d hp => hp.report d).bind fun _ => .get_bind fun s s' hs => ?_
        rw [hs.1.config]
        exact .ite _ (.pure _) (ih _)

def Level (R : ω → ω' → Prop) (s : Pass × ω) (s' : Pass × ω') : Prop :=
  s.1 = s'.1 ∧ R s.2 s'.2

theorem processRound_both (hh : h.Attuned R h') {visits : List (Query ω (Option Declaration))}
    {visits' : List (Query ω' (Option Declaration))}
    (hv : List.Forall₂ (Query.Alike R) visits visits') {s : Pass × ω} {s' : Pass × ω'}
    (hs : Together R a b s s') :
    Both (processRound h visits) s (processRound h' visits') s'
      (fun _ _ t t' => Together R a b t t') (Level R) := by
  have hs₁ : Together R a b ({ s.1 with round := s.1.round + 1 }, s.2)
      ({ s'.1 with round := s'.1.round + 1 }, s'.2) := ⟨hs.1.setRound _ _, hs.2⟩
  refine Both.bind (Both.bind (Both.tryCatch ?_))
  have hvisits : Query.Alike (Paired (Alongside a b) R) (visitAll h visits ⟨0, 0⟩)
      (visitAll h' visits' ⟨0, 0⟩) := visitAll_alike hh hv ⟨0, 0⟩
  refine ((inSpan_alike hh _ _ _ _ _ _ hvisits).discard _ _ hs₁).imp ?_ ?_
  · exact fun _ _ t t' ht => ht.2
  · exact fun t t' ht f => ⟨rfl, ht.1.clear_eq, ht.2⟩

/-! ### Emission -/

/-- Passes that go the same way on, with filers of one kind. -/
def AlongsideWith (D : Filer → Prop) (a b : Diagnostics) (p p' : Pass) : Prop :=
  Alongside a b p p' ∧ D p.filer

variable {D : Filer → Prop} {F : FileTree → FileTree → Prop}

theorem emit_alike (hh : h.Beside D F R h') (g : Group) :
    Query.Alike (Paired (AlongsideWith D a b) R) (emit h g) (emit h' g) := by
  refine .get_bind fun s s' hs => ?_
  dsimp only
  rw [hs.1.1.config]
  refine (ask_alike (hh.provider.planGroup _ g)).bind fun plan => ?_
  refine inSpan_alike hh.toAttuned _ _ _ _ _ _ fun u u' hu => Both.bind (Both.lift ?_)
  refine (hh.files u.2 u'.2 hu.2).imp ?_ fun v v' hv => ⟨hu.1, hv⟩
  rintro files files' v v' ⟨hfiles, hv⟩
  refine (Alike.get_bind fun t t' ht => ?_) (u.1, v) (u'.1, v') ⟨hu.1, hv⟩
  obtain ⟨hresult, hfiler, hkind, hwritten⟩ := hh.write t.1.filer plan.moduleName
    (Factory.render t.1.config.runtimeModule plan) files files' ht.1.2 hfiles
  rw [← ht.1.1.config, ← ht.1.1.filer]
  generalize t.1.filer.write plan.moduleName (Factory.render t.1.config.runtimeModule plan)
    files = out at *
  generalize t.1.filer.write plan.moduleName (Factory.render t.1.config.runtimeModule plan)
    files' = out' at *
  obtain ⟨_, _, written⟩ := out
  obtain ⟨result, filer, written'⟩ := out'
  dsimp only at hresult hfiler hkind hwritten ⊢
  subst hresult hfiler
  refine (ask_alike (hh.setFiles written written' hwritten)).bind fun _ =>
    (update_alike fun _ _ hp => ⟨hp.1.setFiler _, hkind⟩).bind fun _ => ?_
  cases result with
  | ok path => exact .pure _
  | error f => exact .throw f

theorem emitAll_alike (hh : h.Beside D F R h') (gs : List Group) (done : List Artifact) :
    Query.Alike (Paired (AlongsideWith D a b) R) (emitAll h gs done) (emitAll h' gs done) := by
  induction gs generalizing done with
  | nil => exact .pure done
  | cons g gs ih =>
    refine Alike.bind (.tryCatch ((emit_alike hh g).bind fun x => .pure _) fun f => ?_)
      fun outcome => ?_
    · cases f with
      | rejected r => exact .pure (Except.error r)
      | _ => exact .throw _
    · cases outcome with
      | ok x => exact ih _
      | error r =>
        refine (report_alike hh.toAttuned r fun _ _ d hp => ⟨hp.1.report d, hp.2⟩).bind fun _ =>
          .get_bind fun s s' hs => ?_
        rw [hs.1.1.config]
        exact .ite _ (.pure done) (ih done)

/-- Passes over related files end with the same artifacts, and with the same diagnostics after their
own. -/
theorem finish_beside (hh : h.Beside D F R h') {s : Pass × ω} {s' : Pass × ω'}
    (hs : Together R a b s s') (hkind : D s.1.filer) :
    Both (finish h) s (finish h') s'
      (fun r r' t t' => r.artifacts = r'.artifacts ∧
        (∃ new, r.diagnostics = a ++ new ∧ r'.diagnostics = b ++ new) ∧ Level R t t')
      (Level R) := by
  have hwithin : Paired (AlongsideWith D a b) R s s' := ⟨⟨hs.1, hkind⟩, hs.2⟩
  refine Both.tryCatch (Both.bind ((Alike.get_bind (fun t t' ht => ?_) s s' hwithin).imp ?_ ?_))
  · dsimp only
    rw [ht.1.1.registry]
    cases t'.1.registry.beginEmission with
    | error f => exact .throw f
    | ok registry =>
      refine (update_alike fun _ _ hp => ⟨hp.1.setRegistry registry, hp.2⟩).bind fun _ => ?_
      rw [ht.1.1.stops_eq]
      exact .ite _ (.pure []) (emitAll_alike hh registry.groups [])
  · rintro x _ t t' ⟨rfl, ht⟩
    exact ⟨rfl, ht.1.1.reported, ht.1.1.clear_eq, ht.2⟩
  · exact fun t t' ht f => ⟨rfl, ht.1.1.clear_eq, ht.2⟩

/-- Two passes end with the same artifacts, and with the same diagnostics after their own. -/
theorem finish_both (hh : h.Alike R h') {s : Pass × ω} {s' : Pass × ω'}
    (hs : Together R a b s s') :
    Both (finish h) s (finish h') s'
      (fun r r' t t' => r.artifacts = r'.artifacts ∧
        (∃ new, r.diagnostics = a ++ new ∧ r'.diagnostics = b ++ new) ∧ Level R t t')
      (Level R) :=
  finish_beside hh.beside hs trivial

end Pass

end Foundry
