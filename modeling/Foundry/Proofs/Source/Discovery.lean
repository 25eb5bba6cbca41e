import Foundry.Proofs.Source.References

/-!
What an iteration over the marked declarations yields: every marked definition of the index once, in
the order of the index, unless it stops at one that cannot be described.
-/

namespace Foundry

open Query Text

variable {σ : Type}

/-- Everything that visits yield, one after the other. -/
def Provider.exhaust : List (Query σ (Option Declaration)) → Query σ (List Declaration)
  | [] => return []
  | visit :: rest => do
    let found ← visit
    let others ← exhaust rest
    return found.toList ++ others

def Provider.discover (p : Provider σ) : Query σ (List Declaration) := do
  exhaust (← p.annotated)

namespace Source.Index

variable {x : Index} {d : Definition} {n : String} {s : Memory}

def IsMarked (x : Index) (d : Definition) : Prop :=
  (x.marker? d).isSome = true

instance (x : Index) (d : Definition) : Decidable (x.IsMarked d) :=
  inferInstanceAs (Decidable (_ = true))

/-- The marker of a definition can be read, and its names are dotted words. -/
structure Describable (x : Index) (d : Definition) : Prop where
  marker : ∃ marking, x.marking? d = .ok marking
  module : Name.isDotted (strip d.module) = true
  qualname : Name.isDotted (strip d.qualname) = true

theorem marking?_eq_none_iff : x.marking? d = .ok none ↔ ¬x.IsMarked d := by
  unfold marking? IsMarked
  cases x.marker? d with
  | none => simp
  | some e =>
    simp only [Option.isSome_some, not_true_eq_false, iff_false]
    cases readMarker d.module e <;> exact fun h => by cases h

theorem Describable.describe_ne_error {f : Fault} {mem : AbstractMemory} (hd : x.Describable d) :
    x.describe d mem ≠ .error f := by
  obtain ⟨marking, hmarking⟩ := hd.marker
  exact Index.describe_ne_error hmarking (QualifiedName.ofTexts?_of_isDotted hd.module hd.qualname)

theorem Describes.describable {a : Declaration} (ha : x.Describes d a) : x.Describable d := by
  obtain ⟨mem, mem', -, ha⟩ := ha
  obtain ⟨hmarking, hname, -⟩ := describe_cases ha
  obtain ⟨hmodule, hqualname⟩ := QualifiedName.isDotted_of_ofTexts? hname
  exact ⟨⟨a.marking, hmarking⟩, hmodule, hqualname⟩

theorem Describes.qualifiedName_eq {a : Declaration} (ha : x.Describes d a) :
    a.qualifiedName = d.qualifiedName := by
  rw [Declaration.qualifiedName, ha.name_eq]
  rfl

theorem Describes.marking_eq {a : Declaration} (ha : x.Describes d a) :
    x.marking? d = .ok a.marking := by
  obtain ⟨mem, mem', -, ha⟩ := ha
  exact (describe_cases ha).1

/-! ### One visit -/

/-- The visit to a definition. -/
def visit (x : Index) (e : String × Definition) : Query Memory (Option Declaration) :=
  match x.marking? e.2 with
  | .error f => throw f
  | .ok none => return none
  | .ok (some _) => x.get e.1

theorem annotated_eq (x : Index) : x.annotated = x.definitions.entries.map x.visit := rfl

/-- A marked definition of the index is described. -/
structure Yields (x : Index) (e : String × Definition) (a : Declaration) : Prop where
  listed : x.definitions.get? e.1 = some e.2
  marked : x.IsMarked e.2
  describes : x.Describes e.2 a

theorem Yields.qualifiedName_eq {e : String × Definition} {a : Declaration} (h : x.Yields e a)
    (hx : x.Keyed) : a.qualifiedName = e.1 :=
  h.describes.qualifiedName_eq.trans (hx.definition e.1 e.2 h.listed)

/-- What a visit says about a definition. -/
def Sees (x : Index) (e : String × Definition) : Option Declaration → Prop
  | none => ¬x.IsMarked e.2
  | some a => x.Yields e a

def Refuses (x : Index) (d : Definition) (f : Fault) : Prop :=
  x.IsMarked d ∧ ∀ mem, x.describe d mem = .error f

theorem Refuses.not_describable {f : Fault} (h : x.Refuses d f) : ¬x.Describable d :=
  fun hd => hd.describe_ne_error (h.2 Ordered.empty)

theorem visit_after (hx : x.Keyed) (hd : x.definitions.get? n = some d) (hs : x.Remembers s) :
    After (x.visit (n, d)) s (fun a t => x.Remembers t ∧ x.Sees (n, d) a)
      fun f t => x.Remembers t ∧ x.Refuses d f := by
  unfold visit
  cases hmarking : x.marking? d with
  | error f =>
    have hmarked : x.IsMarked d := by
      by_contra hnot
      rw [marking?_eq_none_iff.2 hnot] at hmarking
      cases hmarking
    exact ⟨hs, hmarked, fun mem => describe_eq_error hmarking⟩
  | ok marking =>
    cases marking with
    | none => exact ⟨hs, marking?_eq_none_iff.1 hmarking⟩
    | some k =>
      have hmarked : x.IsMarked d := by
        by_contra hnot
        rw [marking?_eq_none_iff.2 hnot] at hmarking
        cases hmarking
      refine (get_answers hx n hs).imp ?_ ?_
      · rintro a t ⟨ht, ha⟩
        rcases ha.of_listed hd with ⟨b, hb, hdescribes⟩ | ⟨f, hf, -⟩
        · cases hb
          exact ⟨ht, hd, hmarked, hdescribes⟩
        · cases hf
      · rintro f t ⟨ht, hf⟩
        rcases hf.of_listed hd with ⟨b, hb, -⟩ | ⟨f', hf', hrefused⟩
        · cases hb
        · cases hf'
          exact ⟨ht, hmarked, hrefused⟩

/-! ### All visits -/

theorem exhaust_after (hx : x.Keyed) {es : List (String × Definition)}
    (hes : ∀ e ∈ es, x.definitions.get? e.1 = some e.2) (hs : x.Remembers s) :
    After (Provider.exhaust (es.map x.visit)) s
      (fun as t => x.Remembers t ∧
        List.Forall₂ x.Yields (es.filter fun e => x.IsMarked e.2) as)
      fun f t => x.Remembers t ∧ ∃ e ∈ es, x.Refuses e.2 f := by
  induction es generalizing s with
  | nil => exact ⟨hs, .nil⟩
  | cons e es ih =>
    obtain ⟨he, hrest⟩ := List.forall_mem_cons.1 hes
    rw [List.map_cons, Provider.exhaust, after_bind]
    refine (visit_after hx he hs).imp ?_ ?_
    · rintro found t ⟨ht, hfound⟩
      rw [after_bind]
      refine (ih hrest ht).imp ?_ ?_
      · rintro as u ⟨hu, has⟩
        refine ⟨hu, ?_⟩
        cases found with
        | none => simpa [List.filter_cons, show ¬x.IsMarked e.2 from hfound] using has
        | some a => simpa [List.filter_cons, hfound.marked] using ⟨hfound, has⟩
      · rintro f u ⟨hu, e', he', hf⟩
        exact ⟨hu, e', List.mem_cons_of_mem e he', hf⟩
    · rintro f t ⟨ht, hf⟩
      exact ⟨ht, e, List.mem_cons_self, hf⟩

/-- The names of the marked definitions, in their order. -/
def markedNames (x : Index) : List String :=
  (x.definitions.entries.filter fun e => x.IsMarked e.2).map (·.1)

theorem nodup_markedNames (x : Index) : x.markedNames.Nodup :=
  x.definitions.nodup_keys.sublist (List.filter_sublist.map _)

theorem mem_markedNames :
    n ∈ x.markedNames ↔ ∃ d, x.definitions.get? n = some d ∧ x.IsMarked d := by
  simp [markedNames, Ordered.get?_eq_some_iff]

/-- An iteration either stops at a marked definition that cannot be described, or yields. -/
def Discovers (x : Index) (s : Memory) (P : List Declaration → Prop) : Prop :=
  (∃ f, x.provider.discover.answer s = .error f ∧
    ∃ n d, x.definitions.get? n = some d ∧ x.Refuses d f) ∨
  ∃ as, x.provider.discover.answer s = .ok as ∧ P as

theorem discovers_markedNames (hx : x.Keyed) (hs : x.Remembers s) :
    x.Discovers s fun as => as.map Declaration.qualifiedName = x.markedNames ∧
      ∀ a ∈ as, ∃ n d, x.Yields (n, d) a := by
  have hentries : ∀ e ∈ x.definitions.entries, x.definitions.get? e.1 = some e.2 :=
    fun e he => (Ordered.get?_eq_some_iff _ e.1 e.2).2 he
  have hafter : After x.provider.discover s _ _ := exhaust_after hx hentries hs
  have hrun := hafter.and (after_run _ s)
  unfold Discovers Query.answer
  cases hresult : x.provider.discover.run s with
  | mk result t =>
    cases result with
    | error f =>
      obtain ⟨⟨-, e, he, hf⟩, -⟩ := hrun.of_error hresult
      exact .inl ⟨f, rfl, e.1, e.2, hentries e he, hf⟩
    | ok as =>
      obtain ⟨⟨-, has⟩, -⟩ := hrun.of_ok hresult
      refine .inr ⟨as, rfl, ?_, fun a ha => ?_⟩
      · have hnames := has.imp fun e a h => h.qualifiedName_eq hx
        exact List.forall₂_eq_eq_eq ▸ List.forall₂_map_left_iff.2
          (List.forall₂_map_right_iff.2 hnames.flip)
      · obtain ⟨e, -, hyields⟩ := exists_left_of_mem has ha
        exact ⟨e.1, e.2, hyields⟩

theorem Discovers.imp {P Q : List Declaration → Prop} (h : x.Discovers s P)
    (hPQ : ∀ as, P as → Q as) : x.Discovers s Q :=
  h.imp_right fun ⟨as, has, hP⟩ => ⟨as, has, hPQ as hP⟩

end Source.Index

end Foundry
