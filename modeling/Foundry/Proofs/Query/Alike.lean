import Foundry.Proofs.Provider.Answers
import Foundry.Proofs.Query.After
import Foundry.Factory.Plan
import Foundry.Extraction
import Foundry.Validation

/-!
Questions asked side by side in two states: both are answered, or both stop with the same fault.
What a pass asks about a declaration or a group depends on the answers of its provider only.
-/

namespace Foundry

variable {σ τ α β γ δ : Type}

namespace Query

def Both (q : Query σ α) (s : σ) (q' : Query τ β) (t : τ) (ok : α → β → σ → τ → Prop)
    (err : σ → τ → Prop) : Prop :=
  match q.run s, q'.run t with
  | (.ok a, s'), (.ok b, t') => ok a b s' t'
  | (.error f, s'), (.error g, t') => f = g ∧ err s' t'
  | _, _ => False

/-- Related states are led to related states with the same answer. -/
def Alike (R : σ → τ → Prop) (q : Query σ α) (q' : Query τ α) : Prop :=
  ∀ s t, R s t → Both q s q' t (fun a b s' t' => a = b ∧ R s' t') R

section Rules

variable {s : σ} {t : τ} {err : σ → τ → Prop}

theorem Both.imp {ok ok' : α → β → σ → τ → Prop} {err' : σ → τ → Prop} {q : Query σ α}
    {q' : Query τ β} (h : Both q s q' t ok err) (hok : ∀ a b s' t', ok a b s' t' → ok' a b s' t')
    (herr : ∀ s' t', err s' t' → err' s' t') : Both q s q' t ok' err' := by
  unfold Both at h ⊢
  generalize q.run s = x at h ⊢
  generalize q'.run t = y at h ⊢
  rcases x with ⟨f | a, s'⟩ <;> rcases y with ⟨g | b, t'⟩
  · exact ⟨h.1, herr s' t' h.2⟩
  · exact h
  · exact h
  · exact hok a b s' t' h

theorem Both.bind {ok : γ → δ → σ → τ → Prop} {q : Query σ α} {q' : Query τ β}
    {f : α → Query σ γ} {f' : β → Query τ δ}
    (h : Both q s q' t (fun a b s' t' => Both (f a) s' (f' b) t' ok err) err) :
    Both (q >>= f) s (q' >>= f') t ok err := by
  have hrun : (q >>= f).run s = ExceptT.bindCont f (q.run s).1 (q.run s).2 := rfl
  have hrun' : (q' >>= f').run t = ExceptT.bindCont f' (q'.run t).1 (q'.run t).2 := rfl
  unfold Both at h ⊢
  rw [hrun, hrun']
  generalize q.run s = x at h ⊢
  generalize q'.run t = y at h ⊢
  rcases x with ⟨e | a, s'⟩ <;> rcases y with ⟨e' | b, t'⟩
  · exact h
  · exact h.elim
  · exact h.elim
  · exact h

theorem Both.bind_run {ok : γ → δ → σ → τ → Prop} {q : Query σ α} {q' : Query τ β}
    {f : α → Query σ γ} {f' : β → Query τ δ} {a : α} {b : β} {s' : σ} {t' : τ}
    (hrun : q.run s = (.ok a, s')) (hrun' : q'.run t = (.ok b, t'))
    (h : Both (f a) s' (f' b) t' ok err) : Both (q >>= f) s (q' >>= f') t ok err := by
  refine Both.bind ?_
  unfold Both
  rw [hrun, hrun']
  exact h

theorem Both.tryCatch {ok : α → β → σ → τ → Prop} {q : Query σ α} {q' : Query τ β}
    {handle : Fault → Query σ α} {handle' : Fault → Query τ β}
    (h : Both q s q' t ok fun s' t' => ∀ f, Both (handle f) s' (handle' f) t' ok err) :
    Both (tryCatch q handle) s (tryCatch q' handle') t ok err := by
  unfold Both at h ⊢
  rw [run_tryCatch, run_tryCatch]
  generalize q.run s = x at h ⊢
  generalize q'.run t = y at h ⊢
  rcases x with ⟨e | a, s'⟩ <;> rcases y with ⟨e' | b, t'⟩
  · obtain ⟨rfl, h⟩ := h
    exact h e
  · exact h.elim
  · exact h.elim
  · exact h

theorem Both.map {ok : γ → δ → σ → τ → Prop} {q : Query σ α} {q' : Query τ β} {g : α → γ}
    {g' : β → δ} (h : Both q s q' t (fun a b s' t' => ok (g a) (g' b) s' t') err) :
    Both (g <$> q) s (g' <$> q') t ok err := by
  rw [map_eq_pure_bind, map_eq_pure_bind]
  exact Both.bind h

theorem Both.lift {σ' τ' : Type} {s : σ'} {t : τ'} {err : σ' → τ' → Prop}
    {ok : α → β → σ' → τ' → Prop} {get : σ' → σ} {get' : τ' → τ} {set : σ → σ' → σ'}
    {set' : τ → τ' → τ'} {q : Query σ α} {q' : Query τ β}
    (h : Both q (get s) q' (get' t) (fun a b u v => ok a b (set u s) (set' v t))
      fun u v => err (set u s) (set' v t)) :
    Both (Provider.lift get set q) s (Provider.lift get' set' q') t ok err := by
  have hrun : (Provider.lift get set q).run s =
    ((q.run (get s)).1, set (q.run (get s)).2 s) := rfl
  have hrun' : (Provider.lift get' set' q').run t =
    ((q'.run (get' t)).1, set' (q'.run (get' t)).2 t) := rfl
  unfold Both at h ⊢
  rw [hrun, hrun']
  generalize q.run (get s) = x at h ⊢
  generalize q'.run (get' t) = y at h ⊢
  rcases x with ⟨e | a, u⟩ <;> rcases y with ⟨e' | b, v⟩
  · exact h
  · exact h
  · exact h
  · exact h

/-- What each question leads to by itself adds to what both lead to. -/
theorem Both.and {ok : α → β → σ → τ → Prop} {ok₁ : α → σ → Prop} {err₁ : Fault → σ → Prop}
    {ok₂ : β → τ → Prop} {err₂ : Fault → τ → Prop} {q : Query σ α} {q' : Query τ β}
    (h : Both q s q' t ok err) (h₁ : After q s ok₁ err₁) (h₂ : After q' t ok₂ err₂) :
    Both q s q' t (fun a b s' t' => ok a b s' t' ∧ ok₁ a s' ∧ ok₂ b t')
      (fun s' t' => err s' t' ∧ (∃ f, err₁ f s') ∧ ∃ f, err₂ f t') := by
  unfold Both at h ⊢
  unfold After at h₁ h₂
  generalize q.run s = x at h h₁ ⊢
  generalize q'.run t = y at h h₂ ⊢
  rcases x with ⟨e | a, s'⟩ <;> rcases y with ⟨e' | b, t'⟩
  · exact ⟨h.1, h.2, ⟨e, h₁⟩, e', h₂⟩
  · exact h
  · exact h
  · exact ⟨h, h₁, h₂⟩

theorem Both.of_after {ok₁ : α → σ → Prop} {ok₂ : β → τ → Prop} {q : Query σ α} {q' : Query τ β}
    (h₁ : After q s ok₁ fun _ _ => False) (h₂ : After q' t ok₂ fun _ _ => False) :
    Both q s q' t (fun a b s' t' => ok₁ a s' ∧ ok₂ b t') err := by
  obtain ⟨a, s', hrun, ha⟩ := h₁.exists_ok fun _ _ h => h
  obtain ⟨b, t', hrun', hb⟩ := h₂.exists_ok fun _ _ h => h
  unfold Both
  rw [hrun, hrun']
  exact ⟨ha, hb⟩

/-- Answers that agree in part, and states that are related. -/
theorem Both.map_answer_eq {R : σ → τ → Prop} {q : Query σ α} {q' : Query τ β} (g : α → γ)
    (g' : β → γ) (h : Both q s q' t (fun a b s' t' => g a = g' b ∧ R s' t') R) :
    (q.answer s).map g = (q'.answer t).map g' ∧ R (q.run s).2 (q'.run t).2 := by
  unfold Both at h
  unfold answer
  generalize q.run s = x at h ⊢
  generalize q'.run t = y at h ⊢
  rcases x with ⟨e | a, s'⟩ <;> rcases y with ⟨e' | b, t'⟩
  · exact ⟨congrArg Except.error h.1, h.2⟩
  · exact h.elim
  · exact h.elim
  · exact ⟨congrArg Except.ok h.1, h.2⟩

theorem Both.answer_eq {R : σ → τ → Prop} {q : Query σ α} {q' : Query τ α}
    (h : Both q s q' t (fun a b s' t' => a = b ∧ R s' t') R) :
    q.answer s = q'.answer t ∧ R (q.run s).2 (q'.run t).2 := by
  simpa only [Except.map_id, id_eq] using h.map_answer_eq id id

end Rules

section Invariants

variable {R : σ → τ → Prop}

theorem Alike.pure (a : α) : Alike R (pure a) (pure a) :=
  fun _ _ hR => ⟨rfl, hR⟩

theorem Alike.throw (f : Fault) : Alike R (throw f : Query σ α) (throw f) :=
  fun _ _ hR => ⟨rfl, hR⟩

theorem Alike.bind {q : Query σ α} {q' : Query τ α} {f : α → Query σ β} {f' : α → Query τ β}
    (h : Alike R q q') (hf : ∀ a, Alike R (f a) (f' a)) : Alike R (q >>= f) (q' >>= f') := by
  intro s t hR
  refine Both.bind ((h s t hR).imp ?_ fun _ _ h => h)
  rintro a b s' t' ⟨rfl, hR'⟩
  exact hf a s' t' hR'

theorem Alike.get_bind {f : σ → Query σ α} {f' : τ → Query τ α}
    (h : ∀ s t, R s t → Alike R (f s) (f' t)) : Alike R (get >>= f) (get >>= f') :=
  fun s t hR => Both.bind (h s t hR s t hR)

theorem Alike.map {q : Query σ α} {q' : Query τ α} (h : Alike R q q') (g : α → β) :
    Alike R (g <$> q) (g <$> q') := by
  intro s t hR
  exact Both.map ((h s t hR).imp (fun _ _ _ _ h => ⟨congrArg g h.1, h.2⟩) fun _ _ h => h)

theorem Alike.discard {q : Query σ α} {q' : Query τ α} (h : Alike R q q') :
    Alike R (discard q) (discard q') :=
  h.map _

theorem Alike.lift {σ' τ' : Type} {S : σ' → τ' → Prop} {get : σ' → σ} {get' : τ' → τ}
    {set : σ → σ' → σ'} {set' : τ → τ' → τ'} {q : Query σ α} {q' : Query τ α} (h : Alike R q q')
    (hget : ∀ u v, S u v → R (get u) (get' v))
    (hset : ∀ s t u v, S u v → R s t → S (set s u) (set' t v)) :
    Alike S (Provider.lift get set q) (Provider.lift get' set' q') := by
  intro u v hS
  exact Both.lift ((h _ _ (hget u v hS)).imp (fun _ _ s t ht => ⟨ht.1, hset s t u v hS ht.2⟩)
    fun s t ht => hset s t u v hS ht)

theorem Alike.ite {q r : Query σ α} {q' r' : Query τ α} (c : Prop) [Decidable c]
    (h : Alike R q q') (h' : Alike R r r') :
    Alike R (if c then q else r) (if c then q' else r') := by
  split
  · exact h
  · exact h'

theorem Alike.tryCatch {q : Query σ α} {q' : Query τ α} {handle : Fault → Query σ α}
    {handle' : Fault → Query τ α} (h : Alike R q q')
    (hh : ∀ f, Alike R (handle f) (handle' f)) :
    Alike R (tryCatch q handle) (tryCatch q' handle') := by
  intro s t hR
  refine Both.tryCatch ((h s t hR).imp (fun _ _ _ _ h => h) ?_)
  intro s' t' hR' f
  exact hh f s' t' hR'

end Invariants

end Query

open Query

/-- Providers that answer alike in related states. -/
structure Provider.Alike (R : σ → τ → Prop) (p : Provider σ) (p' : Provider τ) : Prop where
  get : ∀ n, Query.Alike R (p.get n) (p'.get n)
  resolve : ∀ r, Query.Alike R (p.resolve r) (p'.resolve r)

namespace Provider.Alike

variable {R : σ → τ → Prop} {p : Provider σ} {p' : Provider τ}

theorem onPart {σ' τ' : Type} {S : σ' → τ' → Prop} {get : σ' → σ} {get' : τ' → τ}
    {set : σ → σ' → σ'} {set' : τ → τ' → τ'} (h : p.Alike R p')
    (hget : ∀ u v, S u v → R (get u) (get' v))
    (hset : ∀ s t u v, S u v → R s t → S (set s u) (set' t v)) :
    (p.onPart get set).Alike S (p'.onPart get' set') where
  get n := (h.get n).lift hget hset
  resolve r := (h.resolve r).lift hget hset

theorem searchEach {step : String → Search → Query σ (Option Search)}
    {step' : String → Search → Query τ (Option Search)}
    (hstep : ∀ n x, Query.Alike R (step n x) (step' n x)) (ns : List String) (x : Search) :
    Query.Alike R (searchEach step ns x) (searchEach step' ns x) := by
  induction ns generalizing x with
  | nil => exact .pure _
  | cons n ns ih =>
    refine (hstep n x).bind fun found => ?_
    cases found with
    | none => exact .pure _
    | some x => exact ih x

variable (h : p.Alike R p')

include h

theorem typeName (scope : Option String) (type : Value) :
    Query.Alike R (typeName? p scope type) (typeName? p' scope type) := by
  cases type with
  | reference r => exact h.resolve r
  | text s => exact .ite _ (.pure none) (h.resolve _)
  | _ => exact .pure _

theorem typeDeclaration (scope : Option String) (type : Value) :
    Query.Alike R (typeDeclaration? p scope type) (typeDeclaration? p' scope type) := by
  refine (h.typeName scope type).bind fun name => ?_
  cases name with
  | none => exact .pure none
  | some n => exact .ite _ (.pure none) (h.get n)

theorem resolveGroup (owner : Option Declaration) (type : Value) :
    Query.Alike R (resolveGroup p owner type) (resolveGroup p' owner type) := by
  refine ((h.typeDeclaration _ type).tryCatch fun f => ?_).bind fun found => ?_
  · cases f with
    | rejected r => exact .throw _
    | _ => exact .throw _
  · cases found with
    | none => exact .throw _
    | some d => exact .pure _

theorem extract (d : Declaration) :
    Query.Alike R (Record.extract p d) (Record.extract p' d) := by
  unfold Record.extract
  cases d.marking with
  | none => exact .throw _
  | some a =>
    cases hi : identifierOf d a.identifier with
    | error r => simpa only [hi] using Query.Alike.throw _
    | ok identifier =>
      simp only [hi]
      exact (h.resolveGroup (some d) a.type).bind fun group => .pure _

theorem searchFrom (group : String) (depth : Nat) (path : List String) (n : String) (x : Search) :
    Query.Alike R (searchFrom p group depth path n x) (searchFrom p' group depth path n x) := by
  induction depth generalizing path n x with
  | zero => exact .pure _
  | succ depth ih =>
    refine .ite _ (.pure none) (.ite _ (.pure _) (.ite _ (.pure _) ?_))
    refine (h.get n).bind fun parent => ?_
    cases parent with
    | none => exact .pure _
    | some d => exact searchEach (fun n x => ih (_ :: path) n x) d.superclasses _

theorem checkSubtype (limit : Nat) (r : Record) :
    Query.Alike R (checkSubtype p limit r) (checkSubtype p' limit r) := by
  refine (h.get r.group).bind fun group => ?_
  cases group with
  | none => exact .throw _
  | some g =>
    refine .ite _ (.ite _ (.pure ()) (.throw _)) ?_
    refine (searchEach (fun n x => h.searchFrom r.group limit _ n x) _ _).bind fun found => ?_
    cases found with
    | none => exact .pure ()
    | some x => exact .throw _

theorem check (limit : Nat) (r : Record) (rule : Rule) :
    Query.Alike R (rule.check p limit r) (rule.check p' limit r) := by
  cases rule with
  | kind => exact .ite _ (.pure ()) (.throw _)
  | visibility => exact .ite _ (.pure ()) (.throw _)
  | concreteness => exact .ite _ (.throw _) (.pure ())
  | subtype => exact h.checkSubtype limit r
  | constructor => exact .ite _ (.pure ()) (.throw _)

theorem checkAll (limit : Nat) (r : Record) (rules : List Rule) :
    Query.Alike R (rules.forM (Rule.check p limit r)) (rules.forM (Rule.check p' limit r)) := by
  induction rules with
  | nil => exact .pure ()
  | cons rule rules ih => exact (h.check limit r rule).bind fun _ => ih

theorem validate (limit : Nat) (r : Record) :
    Query.Alike R (validate p limit r) (validate p' limit r) :=
  h.checkAll limit r Rule.all

theorem planGroup (n : Factory.Naming) (g : Group) :
    Query.Alike R (Factory.planGroup p n g) (Factory.planGroup p' n g) := by
  refine .ite _ (.throw _) ((h.get g.name).bind fun found => ?_)
  cases found with
  | none => exact .throw _
  | some d => exact .pure _

end Provider.Alike

end Foundry
