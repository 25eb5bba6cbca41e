import Foundry.Provider

/-!
What a question leads to: a condition on its answer or on its fault, and on the state after it. The
conditions are pushed through a question step by step.
-/

namespace Foundry.Query

variable {σ τ α β : Type}

def After (q : Query σ α) (s : σ) (ok : α → σ → Prop) (err : Fault → σ → Prop) : Prop :=
  match q.run s with
  | (.ok a, t) => ok a t
  | (.error f, t) => err f t

theorem run_tryCatch (q : Query σ α) (handle : Fault → Query σ α) (s : σ) :
    (tryCatch q handle).run s = match q.run s with
      | (.ok a, t) => (.ok a, t)
      | (.error f, t) => (handle f).run t := by
  change (ExceptT.tryCatch q handle).run s = _
  unfold ExceptT.tryCatch
  simp only [ExceptT.run, ExceptT.mk, bind, StateT.bind]
  rcases q s with ⟨f | a, t⟩
  · rfl
  · rfl

theorem run_bind_ok {q : Query σ α} {s t : σ} {a : α} (h : q.run s = (.ok a, t))
    (f : α → Query σ β) : (q >>= f).run s = (f a).run t := by
  change ExceptT.bindCont f (q.run s).1 (q.run s).2 = _
  rw [h]
  rfl

theorem run_bind_congr {q q' : Query σ α} {s : σ} (h : q.run s = q'.run s)
    (f : α → Query σ β) : (q >>= f).run s = (q' >>= f).run s := by
  change ExceptT.bindCont f (q.run s).1 (q.run s).2 = ExceptT.bindCont f (q'.run s).1 (q'.run s).2
  rw [h]

theorem run_discard_congr {q q' : Query σ α} {s : σ} (h : q.run s = q'.run s) :
    (discard q).run s = (discard q').run s := by
  change ((fun _ => ()) <$> q).run s = ((fun _ => ()) <$> q').run s
  rw [map_eq_pure_bind, map_eq_pure_bind, run_bind_congr h]

theorem run_tryCatch_congr {q q' : Query σ α} {s : σ} (h : q.run s = q'.run s)
    (handle : Fault → Query σ α) : (tryCatch q handle).run s = (tryCatch q' handle).run s := by
  rw [run_tryCatch, run_tryCatch, h]

theorem run_get_bind (f : σ → Query σ α) (s : σ) : (get >>= f).run s = (f s).run s := rfl

section Rules

variable {s : σ} {ok : α → σ → Prop} {err : Fault → σ → Prop}

@[simp] theorem after_pure (a : α) : After (pure a) s ok err ↔ ok a s := Iff.rfl

@[simp] theorem after_throw (f : Fault) : After (throw f) s ok err ↔ err f s := Iff.rfl

@[simp] theorem after_get {ok : σ → σ → Prop} : After get s ok err ↔ ok s s := Iff.rfl

@[simp] theorem after_set {ok : PUnit → σ → Prop} (t : σ) : After (set t) s ok err ↔ ok ⟨⟩ t :=
  Iff.rfl

@[simp] theorem after_modify {ok : PUnit → σ → Prop} (g : σ → σ) :
    After (modify g) s ok err ↔ ok ⟨⟩ (g s) := Iff.rfl

@[simp] theorem after_bind {ok : β → σ → Prop} (q : Query σ α) (f : α → Query σ β) :
    After (q >>= f) s ok err ↔ After q s (fun a t => After (f a) t ok err) err := by
  have hrun : (q >>= f).run s = ExceptT.bindCont f (q.run s).1 (q.run s).2 := rfl
  unfold After
  rw [hrun]
  rcases q.run s with ⟨e | a, t⟩
  · rfl
  · rfl

@[simp] theorem after_map {ok : β → σ → Prop} (q : Query σ α) (g : α → β) :
    After (g <$> q) s ok err ↔ After q s (fun a t => ok (g a) t) err := by
  rw [map_eq_pure_bind, after_bind]
  rfl

@[simp] theorem after_discard {ok : Unit → σ → Prop} (q : Query σ α) :
    After (discard q) s ok err ↔ After q s (fun _ t => ok () t) err :=
  after_map q _

@[simp] theorem after_tryCatch (q : Query σ α) (handle : Fault → Query σ α) :
    After (tryCatch q handle) s ok err ↔
      After q s ok (fun f t => After (handle f) t ok err) := by
  unfold After
  rw [run_tryCatch]
  rcases q.run s with ⟨e | a, t⟩
  · rfl
  · rfl

@[simp] theorem after_lift {ok : α → τ → Prop} {err : Fault → τ → Prop} (get : τ → σ)
    (set : σ → τ → τ) (q : Query σ α) (t : τ) :
    After (Provider.lift get set q) t ok err ↔
      After q (get t) (fun a s => ok a (set s t)) (fun f s => err f (set s t)) := by
  have hrun : (Provider.lift get set q).run t = ((q.run (get t)).1, set (q.run (get t)).2 t) := rfl
  unfold After
  rw [hrun]
  rcases q.run (get t) with ⟨e | a, s⟩
  · rfl
  · rfl

theorem After.imp {ok' : α → σ → Prop} {err' : Fault → σ → Prop} {q : Query σ α}
    (h : After q s ok err) (hok : ∀ a t, ok a t → ok' a t) (herr : ∀ f t, err f t → err' f t) :
    After q s ok' err' := by
  unfold After at h ⊢
  rcases hrun : q.run s with ⟨f | a, t⟩
  · rw [hrun] at h
    exact herr f t h
  · rw [hrun] at h
    exact hok a t h

theorem After.and {ok' : α → σ → Prop} {err' : Fault → σ → Prop} {q : Query σ α}
    (h : After q s ok err) (h' : After q s ok' err') :
    After q s (fun a t => ok a t ∧ ok' a t) (fun f t => err f t ∧ err' f t) := by
  unfold After at h h' ⊢
  rcases hrun : q.run s with ⟨f | a, t⟩
  · rw [hrun] at h h'
    exact ⟨h, h'⟩
  · rw [hrun] at h h'
    exact ⟨h, h'⟩

theorem after_run (q : Query σ α) (s : σ) :
    After q s (fun a t => q.run s = (.ok a, t)) (fun f t => q.run s = (.error f, t)) := by
  unfold After
  rcases q.run s with ⟨f | a, t⟩
  · rfl
  · rfl

theorem After.of_run {q : Query σ α} {a : α} {t : σ} (hrun : q.run s = (.ok a, t))
    (h : ok a t) : After q s ok err := by
  rwa [After, hrun]

theorem After.of_ok {q : Query σ α} (h : After q s ok err) {a : α} {t : σ}
    (hrun : q.run s = (.ok a, t)) : ok a t := by
  rwa [After, hrun] at h

/-- What a question that is answered leaves behind. -/
theorem After.of_isOk {q : Query σ α} {P : σ → Prop} (h : After q s (fun _ t => P t) err)
    (hok : (q.run s).1.isOk = true) : P (q.run s).2 := by
  unfold After at h
  rcases hrun : q.run s with ⟨f | a, t⟩
  · rw [hrun] at hok
    cases hok
  · rw [hrun] at h
    exact h

theorem After.of_error {q : Query σ α} (h : After q s ok err) {f : Fault} {t : σ}
    (hrun : q.run s = (.error f, t)) : err f t := by
  rwa [After, hrun] at h

/-- Questions that leave the state as it is, one after the other. -/
theorem after_mapM_same {f : α → Query σ β} {l : List α}
    (h : ∀ a ∈ l, After (f a) s (fun _ t => t = s) err) :
    After (l.mapM f) s (fun _ t => t = s) err := by
  induction l with
  | nil =>
    rw [List.mapM_nil, after_pure]
  | cons a l ih =>
    rw [List.mapM_cons, after_bind]
    refine (h a List.mem_cons_self).imp ?_ fun _ _ he => he
    rintro b _ rfl
    rw [after_bind]
    refine (ih fun a' ha => h a' (List.mem_cons_of_mem a ha)).imp ?_ fun _ _ he => he
    rintro bs _ rfl
    rw [after_pure]

theorem after_forM_same {f : α → Query σ PUnit} {l : List α}
    (h : ∀ a ∈ l, After (f a) s (fun _ t => t = s) err) :
    After (l.forM f) s (fun _ t => t = s) err := by
  induction l with
  | nil => rfl
  | cons a l ih =>
    rw [List.forM_eq_forM, List.forM_cons, after_bind]
    refine (h a List.mem_cons_self).imp ?_ fun _ _ he => he
    rintro b _ rfl
    exact ih fun a' ha => h a' (List.mem_cons_of_mem a ha)

/-- A question that cannot fail is answered. -/
theorem After.exists_ok {q : Query σ α} (h : After q s ok err) (herr : ∀ f t, ¬err f t) :
    ∃ a t, q.run s = (.ok a, t) ∧ ok a t := by
  unfold After at h
  rcases hrun : q.run s with ⟨f | a, t⟩
  · rw [hrun] at h
    exact absurd h (herr f t)
  · rw [hrun] at h
    exact ⟨a, t, rfl, h⟩

theorem After.exists_error {q : Query σ α} (h : After q s ok err) (hok : ∀ a t, ¬ok a t) :
    ∃ f t, q.run s = (.error f, t) ∧ err f t := by
  unfold After at h
  rcases hrun : q.run s with ⟨f | a, t⟩
  · rw [hrun] at h
    exact ⟨f, t, rfl, h⟩
  · rw [hrun] at h
    exact absurd h (hok a t)

end Rules

end Foundry.Query
