import Foundry.Proofs.Markers
import Foundry.Proofs.Query.After
import Foundry.Factory.Plan
import Foundry.Validation

/-!
What the questions of a pass leave alone, and the faults they can stop with, when as much is known
of the provider.
-/

namespace Foundry

variable {σ α β : Type}

namespace Query

/-- A condition on states is kept, and every fault is an expected one. -/
def Within (I : σ → Prop) (E : Fault → Prop) (q : Query σ α) : Prop :=
  ∀ s, I s → After q s (fun _ t => I t) fun f t => I t ∧ E f

variable {I : σ → Prop} {E E' : Fault → Prop}

theorem Within.pure (a : α) : Within I E (pure a) :=
  fun _ hs => hs

theorem Within.throw {f : Fault} (hf : E f) : Within I E (throw f : Query σ α) :=
  fun _ hs => ⟨hs, hf⟩

theorem Within.bind {q : Query σ α} {f : α → Query σ β} (h : Within I E q)
    (hf : ∀ a, Within I E (f a)) : Within I E (q >>= f) := by
  intro s hs
  rw [after_bind]
  exact (h s hs).imp (fun a t ht => hf a t ht) fun _ _ h => h

theorem Within.ite {q r : Query σ α} (c : Prop) [Decidable c] (h : Within I E q)
    (h' : Within I E r) : Within I E (if c then q else r) := by
  split
  · exact h
  · exact h'

theorem Within.tryCatch {q : Query σ α} {handle : Fault → Query σ α} (h : Within I E' q)
    (hh : ∀ f, E' f → Within I E (handle f)) : Within I E (tryCatch q handle) := by
  intro s hs
  rw [after_tryCatch]
  exact (h s hs).imp (fun _ _ h => h) fun f t ht => hh f ht.2 t ht.1

theorem Within.lift {τ : Type} {J : τ → Prop} {get : τ → σ} {set : σ → τ → τ} {q : Query σ α}
    (h : Within I E q) (hget : ∀ t, J t → I (get t)) (hset : ∀ s t, J t → I s → J (set s t)) :
    Within J E (Provider.lift get set q) := by
  intro t ht
  rw [after_lift]
  exact (h _ (hget t ht)).imp (fun _ s hs => hset s t ht hs) fun _ s hs => ⟨hset s t ht hs.1, hs.2⟩

theorem Within.mono {q : Query σ α} (h : Within I E q) (hE : ∀ f, E f → E' f) :
    Within I E' q :=
  fun s hs => (h s hs).imp (fun _ _ h => h) fun f _ ht => ⟨ht.1, hE f ht.2⟩

theorem within_true (q : Query σ α) : Within (fun _ => True) (fun _ => True) q :=
  fun s _ => (after_run q s).imp (fun _ _ _ => trivial) fun _ _ _ => ⟨trivial, trivial⟩

end Query

open Query

/-- A type without a text names no declaration, and is not refused in words. -/
theorem resolveGroup_unshown (p : Provider σ) {owner : Option Declaration} {type : Value}
    {u : Unshown} (h : Unshown.of? (describeType type) = some u) :
    resolveGroup p owner type = throw (.unshown u) := by
  have hnone : typeDeclaration? p (owner.map (·.name.module)) type = pure none := by
    cases type with
    | none => cases h
    | reference r => cases h
    | liveClass m q => cases h
    | text t => cases h
    | _ => rfl
  have hfault : unresolved owner type none = .unshown u := by
    rcases unresolved_cases owner type none with ⟨hsome, -⟩ | ⟨u', hu', heq⟩
    · cases hsome.symm.trans h
    · rw [heq, Option.some.inj (hu'.symm.trans h)]
  unfold resolveGroup
  rw [hnone, ← hfault]
  rfl

/-- A marker without a text stops extraction, whatever the provider does. -/
theorem extract_unshown (p : Provider σ) {d : Declaration} {a : Marking} {u : Unshown}
    (hd : d.marking = some a) (hu : a.unshown? = some u) :
    Record.extract p d = throw (.unshown u) := by
  unfold Record.extract
  simp only [hd]
  rcases identifierOf_cases d a with
    ⟨t, -, -, hi, htype⟩ | ⟨f, hi, ⟨-, hnone⟩ | ⟨u', rfl, hu'⟩⟩
  · simp only [hi, resolveGroup_unshown p (htype.symm.trans hu)]
    rfl
  · cases hnone.symm.trans hu
  · simp only [hi]
    rw [Option.some.inj (hu'.symm.trans hu)]

/-- A provider whose answers about names stop with expected faults only, rejections among them. -/
structure Provider.Within (I : σ → Prop) (E : Fault → Prop) (p : Provider σ) : Prop where
  rejection : ∀ r, E (.rejected r)
  get : ∀ n, Query.Within I E (p.get n)
  resolve : ∀ r, Query.Within I (fun _ => True) (p.resolve r)

theorem Provider.within_true (p : Provider σ) : p.Within (fun _ => True) fun _ => True where
  rejection _ := trivial
  get _ := Query.within_true _
  resolve _ := Query.within_true _

namespace Provider.Within

variable {I : σ → Prop} {E : Fault → Prop} {p : Provider σ}

theorem mono {E' : Fault → Prop} (h : p.Within I E) (hE : ∀ f, E f → E' f) : p.Within I E' where
  rejection r := hE _ (h.rejection r)
  get n := (h.get n).mono hE
  resolve := h.resolve

theorem onPart {τ : Type} {J : τ → Prop} {get : τ → σ} {set : σ → τ → τ} (h : p.Within I E)
    (hget : ∀ t, J t → I (get t)) (hset : ∀ s t, J t → I s → J (set s t)) :
    (p.onPart get set).Within J E where
  rejection := h.rejection
  get n := (h.get n).lift hget hset
  resolve r := (h.resolve r).lift hget hset

theorem searchEach {step : String → Search → Query σ (Option Search)}
    (hstep : ∀ n x, Query.Within I E (step n x)) (ns : List String) (x : Search) :
    Query.Within I E (searchEach step ns x) := by
  induction ns generalizing x with
  | nil => exact .pure _
  | cons n ns ih =>
    refine (hstep n x).bind fun found => ?_
    cases found with
    | none => exact .pure _
    | some x => exact ih x

theorem searchFrom (hget : ∀ n, Query.Within I E (p.get n)) (group : String) (depth : Nat)
    (path : List String) (n : String) (x : Search) :
    Query.Within I E (searchFrom p group depth path n x) := by
  induction depth generalizing path n x with
  | zero => exact .pure _
  | succ depth ih =>
    refine .ite _ (.pure none) (.ite _ (.pure _) (.ite _ (.pure _) ?_))
    refine (hget n).bind fun parent => ?_
    cases parent with
    | none => exact .pure _
    | some d => exact searchEach (fun n x => ih (_ :: path) n x) d.superclasses _

variable (h : p.Within I E)

include h

theorem typeName (scope : Option String) (type : Value) :
    Query.Within I (fun _ => True) (typeName? p scope type) := by
  cases type with
  | reference r => exact h.resolve r
  | text s => exact .ite _ (.pure none) (h.resolve _)
  | _ => exact .pure _

/-- Whatever stops the resolution of a type, the type is rejected for it, if it can be. -/
theorem resolveGroup (owner : Option Declaration) (type : Value) :
    Query.Within I (fun f => f.IsRejection ∨
      ∃ u, Unshown.of? (describeType type) = some u ∧ f = .unshown u)
      (resolveGroup p owner type) := by
  have hfault : ∀ cause, (unresolved owner type cause).IsRejection ∨
      ∃ u, Unshown.of? (describeType type) = some u ∧ unresolved owner type cause = .unshown u :=
    fun cause => (unresolved_cases owner type cause).imp And.right id
  have htype : Query.Within I (fun _ => True)
      (typeDeclaration? p (owner.map (·.name.module)) type) := by
    refine (h.typeName _ type).bind fun name => ?_
    cases name with
    | none => exact .pure none
    | some n => exact .ite _ (.pure none) ((h.get n).mono fun _ _ => trivial)
  refine (htype.tryCatch fun f _ => ?_).bind fun found => ?_
  · cases f with
    | rejected r => exact .throw (.inl ⟨r, rfl⟩)
    | _ => exact .throw (hfault _)
  · cases found with
    | none => exact .throw (hfault _)
    | some d => exact .pure _

theorem extract (d : Declaration) :
    Query.Within I (fun f => f.IsRejection ∨ d.Bars f) (Record.extract p d) := by
  unfold Record.extract
  cases hm : d.marking with
  | none => exact .throw (.inr (.unmarked hm))
  | some a =>
    rcases identifierOf_cases d a with
      ⟨s, -, -, hi, hunshown⟩ | ⟨f, hi, ⟨⟨r, rfl⟩, -⟩ | ⟨u, rfl, hunshown⟩⟩
    · simp only [hi]
      refine ((h.resolveGroup (some d) a.type).mono ?_).bind fun group => .pure _
      rintro f (hf | ⟨u, hu, rfl⟩)
      · exact .inl hf
      · exact .inr (.unshown hm (hunshown.trans hu))
    · simp only [hi]
      exact .throw (.inl ⟨r, rfl⟩)
    · simp only [hi]
      exact .throw (.inr (.unshown hm hunshown))

theorem checkSubtype (limit : Nat) (r : Record) :
    Query.Within I E (checkSubtype p limit r) := by
  refine (h.get r.group).bind fun group => ?_
  cases group with
  | none => exact .throw (h.rejection _)
  | some g =>
    refine .ite _ (.ite _ (.pure ()) (.throw (h.rejection _))) ?_
    refine (searchEach (fun n x => searchFrom h.get r.group limit _ n x) _ _).bind fun found => ?_
    cases found with
    | none => exact .pure ()
    | some x => exact .throw (h.rejection _)

theorem check (limit : Nat) (r : Record) (rule : Rule) :
    Query.Within I E (rule.check p limit r) := by
  cases rule with
  | kind => exact .ite _ (.pure ()) (.throw (h.rejection _))
  | visibility => exact .ite _ (.pure ()) (.throw (h.rejection _))
  | concreteness => exact .ite _ (.throw (h.rejection _)) (.pure ())
  | subtype => exact h.checkSubtype limit r
  | constructor => exact .ite _ (.pure ()) (.throw (h.rejection _))

theorem validate (limit : Nat) (r : Record) : Query.Within I E (validate p limit r) := by
  unfold Foundry.validate
  induction Rule.all with
  | nil => exact .pure ()
  | cons rule rules ih => exact (h.check limit r rule).bind fun _ => ih

/-- A group that has members is never refused for being empty. -/
theorem planGroup (n : Factory.Naming) {g : Group} (hg : g.members.entries ≠ []) :
    Query.Within I E (Factory.planGroup p n g) := by
  have hne : g.members.isEmpty = false := by
    simpa [Ordered.isEmpty] using hg
  unfold Factory.planGroup
  rw [hne]
  refine (h.get g.name).bind fun found => ?_
  cases found with
  | none => exact .throw (h.rejection _)
  | some d => exact .pure _

end Provider.Within

end Foundry
