import Foundry.Proofs.Files.Writing
import Foundry.Proofs.Pass.Steps

/-!
Whatever its host does, a pass takes records between two calls, is cleared when it ends, and raises
no faults but those of the host and a few of its own.
-/

namespace Foundry

open Query

variable {ω α : Type}

/-- Faults that a pass raises by itself: for a declaration without a marker, for a value without a
text, and for the encoding of a text. -/
inductive Fault.IsOwn : Fault → Prop
  | unmarked (name : String) : IsOwn (.unmarked name)
  | unshown (u : Unshown) : IsOwn (.unshown u)
  | noCodec (p : Text.NoCodec) : IsOwn (.noCodec p)
  | codec (e : Text.CodecError) : IsOwn (.codec e)

def Fault.Leaves (P : Fault → Prop) (f : Fault) : Prop :=
  P f ∨ f.IsOwn

/-- A host that raises only certain faults, whenever it is asked. -/
structure Host.Raises (h : Host ω) (P : Fault → Prop) : Prop where
  get : ∀ n, Query.Within (fun _ => True) P (h.provider.get n)
  annotated : ∀ w, After h.provider.annotated w
    (fun visits _ => ∀ visit ∈ visits, Query.Within (fun _ => True) P visit) (fun f _ => P f)
  sink : ∀ d, Query.Within (fun _ => True) P (h.sink d)
  files : Query.Within (fun _ => True) P h.files
  setFiles : ∀ t, Query.Within (fun _ => True) P (h.setFiles t)

theorem Host.raises_any (h : Host ω) : h.Raises fun _ => True where
  get _ := within_true _
  annotated w := (after_run _ w).imp (fun _ _ _ _ _ => within_true _) fun _ _ _ => trivial
  sink _ := within_true _
  files := within_true _
  setFiles _ := within_true _

theorem Host.Raises.provider {h : Host ω} {P : Fault → Prop} (hh : h.Raises P) :
    h.provider.Within (fun _ => True) (fun f => f.IsRejection ∨ P f) where
  rejection _ := .inl ⟨_, rfl⟩
  get n := (hh.get n).mono fun _ hf => .inr hf
  resolve _ := within_true _

theorem encodeAs_isOwn {codec : Except Text.NoCodec Text.Codec} {text : String} {f : Fault}
    (h : Filer.encodeAs codec text = .error f) : f.IsOwn := by
  unfold Filer.encodeAs at h
  cases codec with
  | error p =>
    cases h
    exact .noCodec p
  | ok k =>
    simp only at h
    cases hx : k.encode text with
    | error x =>
      rw [hx] at h
      cases h
      exact .codec x
    | ok bytes =>
      rw [hx] at h
      cases h

theorem Declaration.Bars.isOwn {d : Declaration} {f : Fault} (h : d.Bars f) : f.IsOwn := by
  cases h with
  | unmarked _ => exact .unmarked _
  | unshown _ _ => exact .unshown _

namespace Pass

variable {h : Host ω} {P : Fault → Prop} {c : Config} {f : Filer} {p : Pass}

def Collecting (c : Config) (f : Filer) (p : Pass) : Prop :=
  ∃ log, Open c f log p

theorem Collecting.noted (hp : Collecting c f p) (r : Rejection) : Collecting c f (p.noted r) :=
  hp.imp fun _ h => h.noted r

/-! ### Rounds -/

theorem visitAll_collecting (hh : h.Raises P) (visits : List (Query ω (Option Declaration)))
    (hv : ∀ visit ∈ visits, Query.Within (fun _ => True) P visit) (hp : Collecting c f p)
    (k : Counts) (w : ω) :
    After (visitAll h visits k) (p, w) (fun _ s => Collecting c f s.1)
      (fun e s => Collecting c f s.1 ∧ e.Leaves P) := by
  induction visits generalizing p k w with
  | nil => exact hp
  | cons visit rest ih =>
    obtain ⟨hvisit, hrest⟩ := List.forall_mem_cons.1 hv
    rw [visitAll, after_bind, after_ask]
    refine (hvisit w trivial).imp ?_ ?_
    · intro found w₁ _
      cases found with
      | none => exact ih hrest hp k w₁
      | some d =>
        obtain ⟨log, hopen⟩ := hp
        rw [after_bind]
        refine (attempt_after hh.provider hopen d trivial).imp ?_ ?_
        · rintro o ⟨p₁, w₂⟩ ⟨-, out, -, rfl, hopen₁, -⟩
          cases out with
          | ok r => exact ih hrest ⟨_, hopen₁⟩ _ w₂
          | error r =>
            have hnoted : Collecting c f (p₁.noted r) := ⟨_, hopen₁.noted r⟩
            simp only [rejection?, after_bind, after_report, after_get]
            refine (hh.sink _ w₂ trivial).imp ?_ ?_
            · intro _ w₃ _
              split
              · exact hnoted
              · exact ih hrest hnoted _ w₃
            · rintro e w₃ ⟨-, he⟩
              exact ⟨hnoted, .inl he⟩
        · rintro e ⟨_, w₂⟩ ⟨-, rfl, hreject, he⟩
          refine ⟨⟨log, hopen⟩, ?_⟩
          rcases he with (he | he) | hbars
          · exact absurd he hreject
          · exact .inl he
          · exact .inr hbars.isOwn
    · rintro e w₁ ⟨-, he⟩
      exact ⟨hp, .inl he⟩

theorem processRound_collecting (hh : h.Raises P) (visits : List (Query ω (Option Declaration)))
    (hv : ∀ visit ∈ visits, Query.Within (fun _ => True) P visit) (hp : Collecting c f p) (w : ω) :
    After (processRound h visits) (p, w) (fun _ s => Collecting c f s.1)
      (fun e s => s.1 = fresh c f.reset ∧ e.Leaves P) := by
  have hround : Collecting c f { p with round := p.round + 1 } :=
    hp.imp fun _ h => ⟨h.config, h.filer, h.phase, h.follows⟩
  simp only [processRound, after_bind, after_update, after_get, after_tryCatch, after_discard,
    after_throw]
  refine after_inSpan ?_
  refine (visitAll_collecting hh visits hv hround _ _).imp (fun _ _ h _ => h) ?_
  rintro e s ⟨⟨log, hopen⟩, he⟩ -
  refine ⟨?_, he⟩
  rw [clear, hopen.config, hopen.filer]

/-- A declaration whose marker has no text ends its round, and everything is forgotten. -/
theorem processRound_unshown (h : Host ω) {d : Declaration} {a : Marking} {u : Unshown}
    (hd : d.marking = some a) (hu : a.unshown? = some u)
    (rest : List (Query ω (Option Declaration))) (s : Pass × ω) :
    After (processRound h (pure (some d) :: rest)) s (fun _ _ => False)
      (fun e s' => e = .unshown u ∧ s'.1 = s.1.clear) := by
  simp only [processRound, after_bind, after_update, after_get, after_tryCatch, after_discard,
    after_throw]
  refine after_inSpan ?_
  simp only [visitAll, attempt, processDeclaration, extract_unshown h.provider hd hu, after_bind,
    after_ask, after_pure, after_tryCatch, after_discard, after_throw, Fault.unshown]
  exact fun _ => ⟨trivial, rfl⟩

theorem process_unshown (h : Host ω) {d : Declaration} {a : Marking} {u : Unshown}
    (hd : d.marking = some a) (hu : a.unshown? = some u)
    (rest : List (Query ω (Option Declaration))) (isLast : Bool) (s : Pass × ω) :
    After (process h (pure (some d) :: rest) isLast) s (fun _ _ => False)
      (fun e s' => e = .unshown u ∧ s'.1 = s.1.clear) := by
  rw [process, after_bind]
  exact (processRound_unshown h hd hu rest s).imp (fun _ _ h => h.elim) fun _ _ h => h

/-! ### Emission -/

structure Based (c : Config) (f : Filer) (p : Pass) : Prop where
  config : p.config = c
  filer : p.filer.reset = f.reset

theorem Open.based {log : List Record} (hp : Open c f log p) : Based c f p :=
  ⟨hp.config, congrArg Filer.reset hp.filer⟩

theorem Based.clear (hp : Based c f p) : p.clear = fresh c f.reset := by
  rw [Pass.clear, hp.config, hp.filer]

theorem emit_based (hh : h.Raises P) (hp : Based c f p) {g : Group} (hg : g.members.entries ≠ [])
    (w : ω) :
    After (emit h g) (p, w) (fun _ s => Based c f s.1)
      (fun e s => Based c f s.1 ∧ (e.IsRejection ∨ e.Leaves P)) := by
  rw [emit, after_bind, after_get, after_bind, after_ask]
  refine (hh.provider.planGroup _ hg w trivial).imp ?_ ?_
  · intro plan w₁ _
    refine after_inSpan ?_
    simp only [opened, after_bind, after_ask, after_get, after_update]
    refine (hh.files _ trivial).imp ?_ ?_
    · intro files w₂ _
      have hwrite := Filer.write_writes p.filer plan.moduleName
        (Factory.render p.config.runtimeModule plan) files
      refine (hh.setFiles _ w₂ trivial).imp ?_ ?_
      · intro _ w₃ _
        have hbased : Based c f { p with filer := (p.filer.write plan.moduleName
            (Factory.render p.config.runtimeModule plan) files).2.1 } :=
          ⟨hp.config, hwrite.reset.trans hp.filer⟩
        cases hresult : (p.filer.write plan.moduleName
            (Factory.render p.config.runtimeModule plan) files).1 with
        | ok path => exact fun _ => hbased
        | error e =>
          rw [hresult] at hwrite
          have hfault : e.IsRejection ∨ e.Leaves P :=
            hwrite.fault.imp (·.isRejection) fun he => .inr (encodeAs_isOwn he)
          exact fun _ => ⟨hbased, hfault⟩
      · rintro e w₃ ⟨-, he⟩ -
        exact ⟨hp, .inr (.inl he)⟩
    · rintro e w₂ ⟨-, he⟩ -
      exact ⟨hp, .inr (.inl he)⟩
  · rintro e w₁ ⟨-, he⟩
    exact ⟨hp, he.imp_right .inl⟩

theorem emitAll_based (hh : h.Raises P) (gs : List Group)
    (hgs : ∀ g ∈ gs, g.members.entries ≠ []) (hp : Based c f p) (done : List Artifact) (w : ω) :
    After (emitAll h gs done) (p, w) (fun _ s => Based c f s.1)
      (fun e s => Based c f s.1 ∧ e.Leaves P) := by
  induction gs generalizing p done w with
  | nil => exact hp
  | cons g gs ih =>
    obtain ⟨hg, hrest⟩ := List.forall_mem_cons.1 hgs
    simp only [emitAll, after_bind, after_tryCatch, after_pure]
    refine (emit_based hh hp hg w).imp ?_ ?_
    · rintro a ⟨p₁, w₁⟩ hp₁
      exact ih hrest hp₁ _ w₁
    · rintro e ⟨p₁, w₁⟩ ⟨hp₁, he⟩
      cases e with
      | rejected r =>
        have hnoted : Based c f (p₁.noted r) := ⟨hp₁.config, hp₁.filer⟩
        simp only [after_pure, after_bind, after_report, after_get]
        refine (hh.sink _ w₁ trivial).imp ?_ ?_
        · intro _ w₂ _
          split
          · exact hnoted
          · exact ih hrest hnoted _ w₂
        · rintro e w₂ ⟨-, he⟩
          exact ⟨hnoted, .inl he⟩
      | _ => exact ⟨hp₁, he.resolve_left (by rintro ⟨_, ⟨⟩⟩)⟩

theorem finish_cleared (hh : h.Raises P) (hp : Collecting c f p) (w : ω) :
    After (finish h) (p, w) (fun _ s => s.1 = fresh c f.reset)
      (fun e s => s.1 = fresh c f.reset ∧ e.Leaves P) := by
  obtain ⟨log, hopen⟩ := hp
  simp only [finish, after_bind, after_get, after_tryCatch, after_update, after_pure, after_throw,
    hopen.beginEmission]
  have hbased : Based c f { p with registry := ⟨p.registry.groups, .emitting⟩ } :=
    ⟨hopen.based.config, hopen.based.filer⟩
  split
  · exact hbased.clear
  · refine (emitAll_based hh _ (fun g hg => hopen.entries_ne_nil hg) hbased [] w).imp ?_ ?_
    · intro _ s hs
      exact hs.clear
    · rintro e s ⟨hs, he⟩
      exact ⟨hs.clear, he⟩

end Pass

end Foundry
