import Foundry.Proofs.Provider.Answers
import Foundry.Proofs.Query.Within
import Foundry.Proofs.Source.Abstracts

/-!
What earlier questions do to an answer of the provider: nothing but the abstract mark depends on
them, and that one only where some class stands above itself.
-/

namespace Foundry

open Query

variable {σ : Type}

/-- A question to a provider. -/
inductive Question
  | get (name : String)
  | resolve (r : Reference)
  /-- A whole iteration over the marked declarations. -/
  | iterate
  /-- One visit of an iteration in between other questions. -/
  | visit (position : Nat)

namespace Provider

def ask (p : Provider σ) : Question → Query σ Unit
  | .get n => discard (p.get n)
  | .resolve r => discard (p.resolve r)
  | .iterate => do
    let visits ← p.annotated
    visits.forM fun v => discard v
  | .visit i => do
    let visits ← p.annotated
    match visits[i]? with
    | some v => discard v
    | none => return ()

/-- The state that questions lead to, whether or not they are answered. -/
def after (p : Provider σ) (questions : List Question) (s : σ) : σ :=
  questions.foldl (fun s q => ((p.ask q).run s).2) s

end Provider

namespace Query

variable {α β : Type} {I : σ → Prop} {E : Fault → Prop}

theorem Within.discard {q : Query σ α} (h : Within I E q) : Within I E (discard q) := by
  intro s hs
  rw [after_discard]
  exact (h s hs).imp (fun _ _ ht => ht) fun _ _ ht => ht

theorem Within.forM {f : α → Query σ Unit} {as : List α} (h : ∀ a ∈ as, Within I E (f a)) :
    Within I E (as.forM f) := by
  induction as with
  | nil => exact .pure ()
  | cons a as ih =>
    change Within I E (f a >>= fun _ => as.forM f)
    exact (h a List.mem_cons_self).bind fun _ => ih fun b hb => h b (List.mem_cons_of_mem a hb)

theorem Within.state {q : Query σ α} (h : Within I E q) {s : σ} (hs : I s) :
    I (q.run s).2 := by
  have hq := h s hs
  unfold After at hq
  rcases hrun : q.run s with ⟨f | a, t⟩
  · rw [hrun] at hq
    exact hq.1
  · rw [hrun] at hq
    exact hq

end Query

theorem Provider.after_keeps {p : Provider σ} {I : σ → Prop}
    (hget : ∀ n, Query.Within I (fun _ => True) (p.get n))
    (hresolve : ∀ r, Query.Within I (fun _ => True) (p.resolve r))
    (hvisits : ∀ s, I s → After p.annotated s
      (fun visits t => I t ∧ ∀ v ∈ visits, Query.Within I (fun _ => True) v) fun _ t => I t)
    (questions : List Question) {s : σ} (hs : I s) : I (p.after questions s) := by
  have hiterate : ∀ f : List (Query σ (Option Declaration)) → Query σ Unit,
      (∀ visits, (∀ v ∈ visits, Query.Within I (fun _ => True) v) →
        Query.Within I (fun _ => True) (f visits)) →
      Query.Within I (fun _ => True) (p.annotated >>= f) := by
    intro f hf s hs
    rw [after_bind]
    exact (hvisits s hs).imp (fun visits t h => hf visits h.2 t h.1) fun _ _ h => ⟨h, trivial⟩
  have hask : ∀ q, Query.Within I (fun _ => True) (p.ask q) := by
    intro q
    cases q with
    | get n => exact (hget n).discard
    | resolve r => exact (hresolve r).discard
    | iterate => exact hiterate _ fun visits hv => .forM fun v hmem => (hv v hmem).discard
    | visit i =>
      refine hiterate _ fun visits hv => ?_
      split
      · rename_i v hfound
        exact (hv v (List.mem_of_getElem? hfound)).discard
      · exact .pure ()
  induction questions generalizing s with
  | nil => exact hs
  | cons q rest ih => exact ih ((hask q).state hs)

/-- A declaration as it would be if nothing were left abstract. -/
def Declaration.asConcrete (a : Declaration) : Declaration :=
  { a with isAbstract := false }

theorem Declaration.eq_of_asConcrete {a b : Declaration} (h : a.asConcrete = b.asConcrete)
    (habs : a.isAbstract = b.isAbstract) : a = b := by
  cases a
  cases b
  simp only [asConcrete, Declaration.mk.injEq] at h
  cases habs
  simp [h]

namespace Source.Index

variable {x : Index} {d : Definition} {mem mem' : AbstractMemory} {s t : Memory}

/-! ### Descriptions -/

theorem describe_asConcrete (x : Index) (d : Definition) (mem mem' : AbstractMemory) :
    (x.describe d mem).map (fun r => r.1.asConcrete) =
      (x.describe d mem').map fun r => r.1.asConcrete := by
  unfold describe
  split
  · rfl
  · split
    · rfl
    · split
      · simp only [Except.map, describeClass, Declaration.asConcrete]
      · rfl

theorem describe_error {f : Fault} (h : x.describe d mem = .error f) (mem' : AbstractMemory) :
    x.describe d mem' = .error f := by
  have heq := describe_asConcrete x d mem mem'
  rw [h] at heq
  cases h' : x.describe d mem' with
  | error g =>
    rw [h'] at heq
    injection heq with heq
    rw [heq]
  | ok r =>
    rw [h'] at heq
    cases heq

theorem describeClass_isAbstract (name : QualifiedName) (marking : Option Marking)
    (location : Location) :
    (x.describeClass d name marking location mem).1.isAbstract =
      (x.usesAbstractBase x.bound [] d && !(x.abstractNames x.bound [] d mem).1.isEmpty) := by
  unfold describeClass
  cases huses : x.usesAbstractBase x.bound [] d with
  | true => simp
  | false => simp

/-- A definition is described under its name and with its marker, a class by all that the source
says of it. -/
theorem describe_cases {a : Declaration} (h : x.describe d mem = .ok (a, mem')) :
    x.marking? d = .ok a.marking ∧
    QualifiedName.ofTexts? d.module d.qualname = .ok a.name ∧
    ((d.parts.isSome = true ∧ ∃ location,
        x.describeClass d a.name a.marking location mem = (a, mem')) ∨
      (d.parts.isSome = false ∧ a.isAbstract = false ∧ mem' = mem)) := by
  unfold describe at h
  split at h
  · cases h
  · rename_i marking hmarking
    split at h
    · cases h
    · rename_i name hname
      split at h
      · rename_i hclass
        obtain ⟨rfl, rfl⟩ := Prod.mk.inj (Except.ok.inj h)
        exact ⟨hmarking, hname, .inl ⟨hclass, _, rfl⟩⟩
      · rename_i hfunction
        obtain ⟨rfl, rfl⟩ := Prod.mk.inj (Except.ok.inj h)
        exact ⟨hmarking, hname, .inr ⟨Bool.eq_false_iff.2 hfunction, rfl, rfl⟩⟩

theorem describe_error_cases {f : Fault} (h : x.describe d mem = .error f) :
    x.marking? d = .error f ∨ ∃ p, f = .name p := by
  unfold describe at h
  split at h
  · rename_i hmarking
    cases h
    exact .inl hmarking
  · split at h
    · cases h
      exact .inr ⟨_, rfl⟩
    · split at h
      · cases h
      · cases h

theorem describe_isAbstract {a : Declaration} (h : x.describe d mem = .ok (a, mem')) :
    a.isAbstract = (d.parts.isSome && x.usesAbstractBase x.bound [] d &&
      !(x.abstractNames x.bound [] d mem).1.isEmpty) := by
  obtain ⟨-, -, ⟨hclass, location, hdescribed⟩ | ⟨hfunction, habs, -⟩⟩ := describe_cases h
  · have habs := congrArg (fun r => r.1.isAbstract) hdescribed
    rw [describeClass_isAbstract] at habs
    rw [← habs, hclass, Bool.true_and]
  · rw [habs, hfunction, Bool.false_and, Bool.false_and]

theorem describe_memory (hx : x.Keyed) (hd : x.Lists d) (hmem : x.Faithful mem) {a : Declaration}
    (h : x.describe d mem = .ok (a, mem')) : x.Faithful mem' := by
  have hnext := (abstractNames_accounts hx (way_nil x d) hd List.not_mem_nil
    (Nat.le_add_right _ _) hmem).2
  obtain ⟨-, -, ⟨-, location, hdescribed⟩ | ⟨-, -, rfl⟩⟩ := describe_cases h
  · have hmem' := congrArg Prod.snd hdescribed
    simp only [describeClass] at hmem'
    split at hmem'
    · exact hmem' ▸ hnext
    · exact hmem' ▸ hmem
  · exact hmem

/-- A declaration that the definition is given in some state of the memory. -/
def Describes (x : Index) (d : Definition) (a : Declaration) : Prop :=
  ∃ mem mem', x.Faithful mem ∧ x.describe d mem = .ok (a, mem')

theorem Describes.asConcrete_eq {a b : Declaration} (ha : x.Describes d a) (hb : x.Describes d b) :
    a.asConcrete = b.asConcrete := by
  obtain ⟨m, m', -, ha⟩ := ha
  obtain ⟨k, k', -, hb⟩ := hb
  have heq := describe_asConcrete x d m k
  rw [ha, hb] at heq
  exact Except.ok.inj heq

/-- The abstract mark is only given for a reason. -/
theorem Describes.exists_abstract {a : Declaration} (hx : x.Keyed) (hd : x.Lists d)
    (ha : x.Describes d a) (habs : a.isAbstract = true) :
    d.parts.isSome = true ∧ x.usesAbstractBase x.bound [] d = true ∧
      ∃ n, x.LeavesAbstract d n := by
  obtain ⟨m, m', hm, ha⟩ := ha
  rw [describe_isAbstract ha, Bool.and_eq_true, Bool.and_eq_true] at habs
  obtain ⟨⟨hparts, huses⟩, hnames⟩ := habs
  have haccounts := (abstractNames_accounts hx (way_nil x d) hd List.not_mem_nil
    (Nat.le_add_right _ _) hm).1
  obtain ⟨n, hn⟩ := List.exists_mem_of_ne_nil (x.abstractNames x.bound [] d m).1
    (by simpa using hnames)
  exact ⟨hparts, huses, n, haccounts.sound n hn⟩

/-- Where no class stands above itself, the mark is given whenever there is a reason. -/
theorem Describes.isAbstract_iff {a : Declaration} (hx : x.Keyed) (hd : x.Lists d)
    (hacyclic : x.Acyclic d) (ha : x.Describes d a) :
    a.isAbstract = true ↔ d.parts.isSome = true ∧ x.usesAbstractBase x.bound [] d = true ∧
      ∃ n, x.LeavesAbstract d n := by
  refine ⟨ha.exists_abstract hx hd, ?_⟩
  rintro ⟨hparts, huses, n, hn⟩
  obtain ⟨m, m', hm, ha⟩ := ha
  have haccounts := (abstractNames_accounts hx (way_nil x d) hd List.not_mem_nil
    (Nat.le_add_right _ _) hm).1
  have hmem := haccounts.complete hacyclic n hn
  have hne : (x.abstractNames x.bound [] d m).1 ≠ [] := List.ne_nil_of_mem hmem
  rw [describe_isAbstract ha, hparts, huses]
  simpa using hne

/-- A class whose mark depends on what else its ancestors leave abstract. -/
def Leans (x : Index) (d : Definition) : Prop :=
  x.usesAbstractBase x.bound [] d = true ∧ x.ownAbstract d = []

theorem Describes.isAbstract_eq {a b : Declaration} (hx : x.Keyed) (hd : x.Lists d)
    (hacyclic : x.Leans d → x.Acyclic d) (ha : x.Describes d a) (hb : x.Describes d b) :
    a.isAbstract = b.isAbstract := by
  cases huses : x.usesAbstractBase x.bound [] d with
  | false =>
    obtain ⟨m, m', -, ha⟩ := ha
    obtain ⟨k, k', -, hb⟩ := hb
    rw [describe_isAbstract ha, describe_isAbstract hb, huses]
    simp
  | true =>
    cases hown : x.ownAbstract d with
    | nil =>
      have hacyclic := hacyclic ⟨huses, hown⟩
      rw [Bool.eq_iff_iff, ha.isAbstract_iff hx hd hacyclic, hb.isAbstract_iff hx hd hacyclic]
    | cons n rest =>
      have hmem : n ∈ x.ownAbstract d := hown ▸ List.mem_cons_self
      obtain ⟨m, m', hm, ha⟩ := ha
      obtain ⟨k, k', hk, hb⟩ := hb
      have hne : ∀ mem, x.Faithful mem → (x.abstractNames x.bound [] d mem).1.isEmpty = false := by
        intro mem hmem'
        have haccounts := (abstractNames_accounts hx (way_nil x d) hd List.not_mem_nil
          (Nat.le_add_right _ _) hmem').1
        rw [List.isEmpty_eq_false_iff]
        exact List.ne_nil_of_mem (haccounts.own n hmem)
      rw [describe_isAbstract ha, describe_isAbstract hb, hne m hm, hne k hk]

theorem Describes.unique {a b : Declaration} (hx : x.Keyed) (hd : x.Lists d)
    (hacyclic : x.Leans d → x.Acyclic d) (ha : x.Describes d a) (hb : x.Describes d b) : a = b :=
  Declaration.eq_of_asConcrete (ha.asConcrete_eq hb) (ha.isAbstract_eq hx hd hacyclic hb)

/-! ### What the provider remembers -/

structure Remembers (x : Index) (s : Memory) : Prop where
  abstracts : x.Faithful s.abstracts
  declarations : ∀ n a, s.declarations.get? n = some a →
    ∃ d, x.definitions.get? n = some d ∧ x.Describes d a

theorem remembers_empty (x : Index) : x.Remembers Memory.empty :=
  ⟨faithful_empty x, fun _ _ h => by cases h⟩

/-- An answer about a name that leads to a definition. -/
inductive Answers (x : Index) (n : String) : Except Fault (Option Declaration) → Prop
  | unknown : x.definitions.get? (x.canon n) = none → Answers x n (.ok none)
  | known {d : Definition} {a : Declaration} : x.definitions.get? (x.canon n) = some d →
    x.Describes d a → Answers x n (.ok (some a))
  | refused {d : Definition} {f : Fault} : x.definitions.get? (x.canon n) = some d →
    (∀ mem, x.describe d mem = .error f) → Answers x n (.error f)

theorem get_answers (hx : x.Keyed) (n : String) (hs : x.Remembers s) :
    After (x.get n) s (fun a t => x.Remembers t ∧ x.Answers n (.ok a))
      fun f t => x.Remembers t ∧ x.Answers n (.error f) := by
  unfold get
  cases hd : x.definitions.get? (x.canon n) with
  | none =>
    simp only [hd]
    exact ⟨hs, .unknown hd⟩
  | some d =>
    simp only [hd]
    rw [after_bind, after_get]
    cases hfound : s.declarations.get? (x.canon n) with
    | some a =>
      simp only
      obtain ⟨e, he, ha⟩ := hs.declarations _ a hfound
      exact ⟨hs, .known he ha⟩
    | none =>
      simp only
      cases hdesc : x.describe d s.abstracts with
      | error f =>
        simp only
        exact ⟨hs, .refused hd fun mem => describe_error hdesc mem⟩
      | ok r =>
        obtain ⟨a, abstracts⟩ := r
        simp only
        have ha : x.Describes d a := ⟨s.abstracts, abstracts, hs.abstracts, hdesc⟩
        rw [after_bind, after_set]
        refine ⟨⟨describe_memory hx (hx.lists hd) hs.abstracts hdesc, fun m b hb => ?_⟩,
          .known hd ha⟩
        by_cases hm : m = x.canon n
        · subst hm
          rw [Ordered.get?_insert_self, Option.some.injEq] at hb
          exact ⟨d, hd, hb ▸ ha⟩
        · rw [Ordered.get?_insert_of_ne _ _ hm] at hb
          exact hs.declarations m b hb

theorem get_within (hx : x.Keyed) (n : String) :
    Query.Within x.Remembers (fun _ => True) (x.get n) :=
  fun _ hs => (get_answers hx n hs).imp (fun _ _ h => h.1) fun _ _ h => ⟨h.1, trivial⟩

theorem remembers_after (hx : x.Keyed) (questions : List Question) (hs : x.Remembers s) :
    x.Remembers (x.provider.after questions s) := by
  refine Provider.after_keeps (p := x.provider) (get_within hx) (fun r => .pure _) ?_ questions hs
  refine fun t ht => ⟨ht, fun v hv => ?_⟩
  obtain ⟨⟨n, d⟩, -, rfl⟩ := List.mem_map.1 hv
  dsimp only
  split
  · exact .throw trivial
  · exact .pure none
  · exact get_within hx n

theorem after_remembers (hx : x.Keyed) (questions : List Question) :
    x.Remembers (x.provider.after questions Memory.empty) :=
  remembers_after hx questions (remembers_empty x)

theorem answer_get (hx : x.Keyed) (n : String) (hs : x.Remembers s) :
    x.Answers n ((x.get n).answer s) := by
  have h := get_answers hx n hs
  unfold After at h
  unfold Query.answer
  rcases hrun : (x.get n).run s with ⟨f | a, t⟩
  · rw [hrun] at h
    exact h.2
  · rw [hrun] at h
    exact h.2

theorem Answers.same {n : String} {r r' : Except Fault (Option Declaration)}
    (h : x.Answers n r) (h' : x.Answers n r') :
    r = r' ∨ ∃ d a b, x.definitions.get? (x.canon n) = some d ∧ x.Describes d a ∧
      x.Describes d b ∧ r = .ok (some a) ∧ r' = .ok (some b) := by
  cases h with
  | unknown hd =>
    cases h' with
    | unknown _ => exact .inl rfl
    | known hd' _ => cases hd.symm.trans hd'
    | refused hd' _ => cases hd.symm.trans hd'
  | @known d a hd ha =>
    cases h' with
    | unknown hd' => cases hd.symm.trans hd'
    | @known e b hd' hb =>
      obtain rfl : d = e := Option.some.inj (hd.symm.trans hd')
      exact .inr ⟨d, a, b, hd, ha, hb, rfl, rfl⟩
    | @refused e f hd' hf =>
      obtain rfl : d = e := Option.some.inj (hd.symm.trans hd')
      obtain ⟨m, m', -, ha⟩ := ha
      cases (hf m).symm.trans ha
  | @refused d f hd hf =>
    cases h' with
    | unknown hd' => cases hd.symm.trans hd'
    | @known e b hd' hb =>
      obtain rfl : d = e := Option.some.inj (hd.symm.trans hd')
      obtain ⟨m, m', -, hb⟩ := hb
      cases (hf m).symm.trans hb
    | @refused e g hd' hg =>
      obtain rfl : d = e := Option.some.inj (hd.symm.trans hd')
      have hfg := (hf Ordered.empty).symm.trans (hg Ordered.empty)
      exact .inl (congrArg Except.error (Except.error.inj hfg))

/-- Whatever was asked before, an answer differs in the abstract mark at most. It is the same unless
the class has no abstract method of its own and some class at or above it stands above itself. -/
theorem get_independent_of_history {modules : List Module} {annotationNames : List String}
    (hx : make modules annotationNames = .ok x) (questions others : List Question) (n : String) :
    let answer := fun (qs : List Question) =>
      (x.provider.get n).answer (x.provider.after qs Memory.empty)
    (answer questions).map (Option.map Declaration.asConcrete) =
      (answer others).map (Option.map Declaration.asConcrete) ∧
    ((∀ d, x.definitions.get? (x.canon n) = some d → x.Leans d → x.Acyclic d) →
      answer questions = answer others) := by
  have hkeyed := (keyed_make hx).1
  have hanswer : ∀ qs, x.Answers n
      ((x.provider.get n).answer (x.provider.after qs Memory.empty)) :=
    fun qs => answer_get hkeyed n (after_remembers hkeyed qs)
  rcases (hanswer questions).same (hanswer others) with heq | ⟨d, a, b, hd, ha, hb, hr, hr'⟩
  · exact ⟨congrArg _ heq, fun _ => heq⟩
  · dsimp only
    rw [hr, hr']
    refine ⟨congrArg (fun c => Except.ok (some c)) (ha.asConcrete_eq hb), fun hacyclic => ?_⟩
    rw [ha.unique hkeyed (hkeyed.lists hd) (hacyclic d hd) hb]

/-- Two classes that derive from each other, the first with an abstract method. -/
def ring : Module :=
  Module.make "m" (Path.ofText "m.py")
    [.importFrom (some "abc") [⟨"ABC", none⟩, ⟨"abstractmethod", none⟩] 0,
     .classDef 3 3 "A" [.name "B", .name "ABC"] [] []
       [.functionDef 5 4 "f" (.mk [] [.mk "self" none none] none [] none)
         [.name "abstractmethod"] [.pass]],
     .classDef 7 7 "B" [.name "A"] [] [] [.pass]]

def ringIndex : Index :=
  (make [ring] []).toOption.getD ⟨Ordered.empty, Ordered.empty, []⟩

theorem make_ring : make [ring] [] = .ok ringIndex := rfl

theorem ring_answers_alike :
    make [ring] [] = .ok ringIndex ∧
    (ringIndex.provider.get "m.A").answer
        (ringIndex.provider.after [.get "m.B", .iterate] Memory.empty) =
      (ringIndex.provider.get "m.A").answer (ringIndex.provider.after [] Memory.empty) := by
  refine ⟨make_ring, (get_independent_of_history make_ring _ _ "m.A").2 fun d hd hleans => ?_⟩
  have hown : (ringIndex.definitions.get? (ringIndex.canon "m.A")).map ringIndex.ownAbstract =
      some ["f"] := by rfl
  rw [hd, Option.map_some, hleans.2] at hown
  cases hown

/-- The second class of the ring is abstract when it is asked for first, and is not after the first
class was asked for: the search from there stopped short of it and remembered too little. -/
theorem ring_answers_apart :
    make [ring] [] = .ok ringIndex ∧
    ((ringIndex.provider.get "m.B").answer (ringIndex.provider.after [] Memory.empty)).map
      (Option.map Declaration.isAbstract) = .ok (some true) ∧
    ((ringIndex.provider.get "m.B").answer
      (ringIndex.provider.after [.get "m.A"] Memory.empty)).map
      (Option.map Declaration.isAbstract) = .ok (some false) ∧
    (ringIndex.provider.get "m.B").answer (ringIndex.provider.after [] Memory.empty) ≠
      (ringIndex.provider.get "m.B").answer
        (ringIndex.provider.after [.get "m.A"] Memory.empty) := by
  have hfirst : ((ringIndex.provider.get "m.B").answer
      (ringIndex.provider.after [] Memory.empty)).map
      (Option.map Declaration.isAbstract) = .ok (some true) := by rfl
  have hsecond : ((ringIndex.provider.get "m.B").answer
      (ringIndex.provider.after [.get "m.A"] Memory.empty)).map
      (Option.map Declaration.isAbstract) = .ok (some false) := by rfl
  refine ⟨make_ring, hfirst, hsecond, fun heq => ?_⟩
  rw [heq] at hfirst
  cases hfirst.symm.trans hsecond

end Source.Index

end Foundry
