import Foundry.Proofs.Source.History
import Foundry.Proofs.Source.Links
import Foundry.Proofs.Text.Dotted

/-!
What references are resolved to: definitions that links lead to, each of which is described under
the name it was resolved to unless its marker cannot be read.
-/

namespace Foundry

open Text

namespace Source

/-- A module read from a source file under a dotted name, whose classes have plain names. -/
structure Module.IsSource (m : Module) : Prop where
  read : m.IsRead
  named : Name.isDotted (strip m.name) = true
  classes : ∀ d ∈ definitionsOf m.name "" m.body, d.parts.isSome = true →
    Name.isDotted (strip d.qualname) = true

namespace Index

variable {x : Index} {d : Definition} {r : Reference} {n : String}

theorem mem_modules {modules : List Module} {annotationNames : List String} {m : Module}
    (hx : make modules annotationNames = .ok x) (hm : x.modules.get? n = some m) :
    m ∈ modules := by
  rw [(keyed_make hx).2] at hm
  obtain ⟨k, hk, heq⟩ := List.mem_map.1 (Ordered.mem_of_get?_ofList hm)
  exact (Prod.mk.inj heq).2 ▸ hk

theorem wellRead_make {modules : List Module} {annotationNames : List String}
    (hx : make modules annotationNames = .ok x) (hread : ∀ m ∈ modules, m.IsRead) :
    x.WellRead :=
  ⟨(keyed_make hx).1, fun _ m hm => (hread m (mem_modules hx hm)).owns⟩

/-! ### Where links start -/

/-- The name that the first segment of a reference stands for in its module, with what follows the
segment; a reference that means nothing there is a name itself. -/
def origin (x : Index) (r : Reference) : String :=
  match r.scope.bind x.modules.get? with
  | none => r.name
  | some m =>
    match x.headTarget m (firstSegment r.name) with
    | none => r.name
    | some base =>
      let rest := afterFirstSegment r.name
      let full := if rest == "" then base else base ++ "." ++ rest
      if x.canon full == "" then r.name else full

theorem resolveReference_eq (x : Index) (r : Reference) :
    x.resolveReference r =
      if x.defines (x.canon (x.origin r)) then some (x.canon (x.origin r)) else none := by
  obtain ⟨name, scope⟩ := r
  unfold resolveReference origin
  cases scope with
  | none => rfl
  | some module =>
    simp only [Option.bind_some, resolveName]
    cases x.modules.get? module with
    | none =>
      cases x.defines name with
      | true => simp only [if_true, ite_self]
      | false => simp only [Bool.false_eq_true, if_false]
    | some m =>
      simp only [resolveIn]
      obtain ⟨target, hhead⟩ : ∃ t, x.headTarget m (firstSegment name) = t := ⟨_, rfl⟩
      cases target with
      | none => simp only [hhead, Option.map_none]
      | some base =>
        simp only [hhead, Option.map_some]
        generalize (if (afterFirstSegment name == "") = true then base
          else base ++ "." ++ afterFirstSegment name) = full
        cases hfull : x.canon full == "" with
        | true => simp only [if_true]
        | false => simp only [Bool.false_eq_true, if_false]

theorem resolveReference_eq_none_iff (hx : x.WellRead) (r : Reference) :
    x.resolveReference r = none ↔
      ∀ k n, k ≤ maxHops → Steps x.Link k (x.origin r) n → x.defines n = false := by
  rw [resolveReference_eq, ite_eq_right_iff]
  constructor
  · intro hnone k n hk hsteps
    rw [← Bool.not_eq_true]
    intro hdef
    cases hnone (canonical_complete hx hsteps hk hdef)
  · intro hnone hdef
    obtain ⟨k, hk, hsteps⟩ := canonical_sound hx hdef
    have hfalse := hnone k _ hk hsteps
    exact absurd hdef (by simp [canon, hfalse])

/-! ### Imports in a circle -/

theorem circle_of_link {a b : String} (ha : Relation.TransGen x.ImportLink a a)
    (h : Relation.ReflTransGen x.Link a b) : Relation.TransGen x.ImportLink b b := by
  induction h with
  | refl => exact ha
  | tail _ hbc ih =>
    obtain ⟨c, hc, hback⟩ := Relation.TransGen.head'_iff.1 ih
    obtain rfl := Link.eq_of_importLink hbc hc
    exact .tail' hback hc

theorem undefined_of_circle {a b : String} (ha : Relation.ReflTransGen x.ImportLink a n)
    (hn : Relation.TransGen x.ImportLink n n) (hb : Relation.ReflTransGen x.Link a b) :
    x.defines b = false := by
  induction ha using Relation.ReflTransGen.head_induction_on with
  | refl =>
    obtain ⟨c, hc, -⟩ := Relation.TransGen.head'_iff.1 (circle_of_link hn hb)
    exact Link.undefined (.inl hc)
  | head hac _ ih =>
    rcases Relation.ReflTransGen.cases_head hb with rfl | ⟨c, hc, hcb⟩
    · exact Link.undefined (.inl hac)
    · obtain rfl := Link.eq_of_importLink hc hac
      exact ih hcb

theorem resolveReference_circle (hx : x.WellRead)
    (ha : Relation.ReflTransGen x.ImportLink (x.origin r) n)
    (hn : Relation.TransGen x.ImportLink n n) : x.resolveReference r = none := by
  rw [resolveReference_eq_none_iff hx]
  intro k b _ hsteps
  exact undefined_of_circle ha hn hsteps.reaches

/-! ### Answers about definitions -/

theorem Describes.name_eq {a : Declaration} (ha : x.Describes d a) :
    a.name = ⟨d.module, d.qualname⟩ := by
  obtain ⟨mem, mem', -, ha⟩ := ha
  exact QualifiedName.eq_of_ofTexts? (describe_cases ha).2.1

theorem describe_eq_error {f : Fault} {mem : AbstractMemory} (h : x.marking? d = .error f) :
    x.describe d mem = .error f := by
  unfold describe
  rw [h]

theorem describe_ne_error {f : Fault} {mem : AbstractMemory} {marking : Option Marking}
    {name : QualifiedName} (hm : x.marking? d = .ok marking)
    (hname : QualifiedName.ofTexts? d.module d.qualname = .ok name) :
    x.describe d mem ≠ .error f := by
  unfold describe
  rw [hm, hname]
  intro h
  dsimp only at h
  split at h <;> cases h

theorem Answers.of_listed {r : Except Fault (Option Declaration)} (h : x.Answers n r)
    (hd : x.definitions.get? n = some d) :
    (∃ a, r = .ok (some a) ∧ x.Describes d a) ∨
      ∃ f, r = .error f ∧ ∀ mem, x.describe d mem = .error f := by
  cases h with
  | unknown hnone =>
    rw [canon_of_get? hd, hd] at hnone
    cases hnone
  | @known e a he ha =>
    rw [canon_of_get? hd, hd, Option.some.injEq] at he
    exact .inl ⟨a, rfl, he ▸ ha⟩
  | @refused e f he hf =>
    rw [canon_of_get? hd, hd, Option.some.injEq] at he
    exact .inr ⟨f, rfl, he ▸ hf⟩

/-- Whatever was asked before, an answer about a definition is a description of it or the reason why
it has none. -/
theorem answer_of_defines (hx : x.Keyed) (hd : x.definitions.get? n = some d)
    (questions : List Question) :
    let answer := (x.provider.get n).answer (x.provider.after questions Memory.empty)
    (∃ a, answer = .ok (some a) ∧ x.Describes d a) ∨
      ∃ f, answer = .error f ∧ ∀ mem, x.describe d mem = .error f :=
  (answer_get hx n (after_remembers hx questions)).of_listed hd

theorem name_of_definition {modules : List Module} {annotationNames : List String}
    (hx : make modules annotationNames = .ok x) (hsource : ∀ m ∈ modules, m.IsSource)
    (hd : x.definitions.get? n = some d)
    (hnamed : d.parts.isSome = true ∨ Name.isDotted (strip d.qualname) = true) :
    Name.isDotted (strip d.module) = true ∧ Name.isDotted (strip d.qualname) = true := by
  have hkeyed := (keyed_make hx).1
  obtain ⟨m, hm, hwritten⟩ := hkeyed.written n d hd
  have hname := hkeyed.module _ m hm
  have hm := hsource m (mem_modules hx hm)
  refine ⟨hname ▸ hm.named, ?_⟩
  rcases hnamed with hclass | hnamed
  · exact hm.classes d (hname ▸ hwritten) hclass
  · exact hnamed

theorem described_of_definition {modules : List Module} {annotationNames : List String}
    {marking : Option Marking} (hx : make modules annotationNames = .ok x)
    (hsource : ∀ m ∈ modules, m.IsSource) (hd : x.definitions.get? n = some d)
    (hmarking : x.marking? d = .ok marking)
    (hnamed : d.parts.isSome = true ∨ Name.isDotted (strip d.qualname) = true)
    (questions : List Question) :
    ∃ a, (x.provider.get n).answer (x.provider.after questions Memory.empty) = .ok (some a) ∧
      x.Describes d a := by
  rcases answer_of_defines (keyed_make hx).1 hd questions with hfound | ⟨f, -, hf⟩
  · exact hfound
  · obtain ⟨hmodule, hqualname⟩ := name_of_definition hx hsource hd hnamed
    have hname := QualifiedName.ofTexts?_of_isDotted hmodule hqualname
    exact absurd (hf Ordered.empty) (describe_ne_error hmarking hname)

theorem answer_of_definition {modules : List Module} {annotationNames : List String}
    (hx : make modules annotationNames = .ok x) (hsource : ∀ m ∈ modules, m.IsSource)
    (hd : x.definitions.get? n = some d) (questions : List Question) :
    let answer := (x.provider.get n).answer (x.provider.after questions Memory.empty)
    (∀ f, x.marking? d = .error f → answer = .error f) ∧
    (∀ marking, x.marking? d = .ok marking →
      d.parts.isSome = true ∨ Name.isDotted (strip d.qualname) = true →
      ∃ a, answer = .ok (some a) ∧ a.qualifiedName = n) := by
  have hkeyed := (keyed_make hx).1
  refine ⟨fun f hf => ?_, fun marking hmarking hnamed => ?_⟩
  · rcases answer_of_defines hkeyed hd questions with ⟨a, -, mem, mem', -, ha⟩ | ⟨g, hg, hdesc⟩
    · cases (describe_eq_error hf).symm.trans ha
    · rw [hg, ← Except.error.inj ((hdesc Ordered.empty).symm.trans (describe_eq_error hf))]
  · obtain ⟨a, hanswer, ha⟩ := described_of_definition hx hsource hd hmarking hnamed questions
    refine ⟨a, hanswer, ?_⟩
    rw [← hkeyed.definition n d hd, Declaration.qualifiedName, ha.name_eq]
    rfl

/-- Names are followed along links: what is found is reached by no more links than the limit, and
what imports by name reach within the limit is found. A reference leads to a definition, which is
described under its name unless its marker cannot be read, or to nothing: when no link chain within
the limit reaches a definition, as when imports by name lead into a circle. -/
theorem names_follow_links {modules : List Module} {annotationNames : List String}
    (hx : make modules annotationNames = .ok x) (hsource : ∀ m ∈ modules, m.IsSource) :
    (∀ name, x.defines (x.canon name) = true →
      ∃ k, k ≤ maxHops ∧ Steps x.Link k name (x.canon name)) ∧
    (∀ name n k, Steps x.ImportLink k name n → k ≤ maxHops → x.defines n = true →
      x.canon name = n) ∧
    (∀ r, x.resolveReference r = none ↔
      ∀ k n, k ≤ maxHops → Steps x.Link k (x.origin r) n → x.defines n = false) ∧
    (∀ r n, Relation.ReflTransGen x.ImportLink (x.origin r) n →
      Relation.TransGen x.ImportLink n n → x.resolveReference r = none) ∧
    ∀ r n, x.resolveReference r = some n →
      (∃ k, k ≤ maxHops ∧ Steps x.Link k (x.origin r) n) ∧
      ∃ d, x.definitions.get? n = some d ∧ ∀ questions,
        let answer := (x.provider.get n).answer (x.provider.after questions Memory.empty)
        (∀ f, x.marking? d = .error f → answer = .error f) ∧
        (∀ marking, x.marking? d = .ok marking →
          d.parts.isSome = true ∨ Name.isDotted (strip d.qualname) = true →
          ∃ a, answer = .ok (some a) ∧ a.qualifiedName = n) := by
  have hread : x.WellRead := wellRead_make hx fun m hm => (hsource m hm).read
  refine ⟨fun name => canonical_sound hread, fun name n k h hk => canonical_imports hread h hk,
    resolveReference_eq_none_iff hread, fun r n => resolveReference_circle hread, ?_⟩
  intro r n hr
  rw [resolveReference_eq, Option.ite_none_right_eq_some, Option.some.injEq] at hr
  obtain ⟨hdef, rfl⟩ := hr
  obtain ⟨d, hd⟩ := Option.isSome_iff_exists.1 hdef
  exact ⟨canonical_sound hread hdef, d, hd, answer_of_definition hx hsource hd⟩

/-- A module with a class, and one that passes it on. -/
def makers : List Module :=
  [Module.make "a" (Path.ofText "a.py") [.importFrom (some "b") [⟨"C", none⟩] 0],
   Module.make "b" (Path.ofText "b.py") [.classDef 1 1 "C" [] [] [] [.pass]]]

def makersIndex : Index :=
  (make makers []).toOption.getD ⟨Ordered.empty, Ordered.empty, []⟩

theorem makers_sources : ∀ m ∈ makers, m.IsSource := by
  intro m hm
  simp only [makers, List.mem_cons, List.not_mem_nil, or_false] at hm
  rcases hm with rfl | rfl
  · exact ⟨⟨_, _, _, rfl⟩, rfl, fun d hd => by cases hd⟩
  · refine ⟨⟨_, _, _, rfl⟩, rfl, fun d hd _ => ?_⟩
    obtain rfl := List.mem_singleton.1 hd
    rfl

theorem passed_on_class_described :
    make makers [] = .ok makersIndex ∧
    makersIndex.resolveReference ⟨"C", some "a"⟩ = some "b.C" ∧
    ∃ a, (makersIndex.provider.get "b.C").answer
      (makersIndex.provider.after [.get "a.C", .iterate] Memory.empty) = .ok (some a) ∧
        a.qualifiedName = "b.C" := by
  have hresolve : makersIndex.resolveReference ⟨"C", some "a"⟩ = some "b.C" := by rfl
  obtain ⟨-, -, -, -, hfound⟩ := names_follow_links (show make makers [] = .ok makersIndex from rfl)
    makers_sources
  obtain ⟨-, d, hd, hanswer⟩ := hfound _ _ hresolve
  have hparts : ((makersIndex.definitions.get? "b.C").map fun d =>
    (d.parts.isSome, (makersIndex.marking? d).toOption.isSome)) = some (true, true) := by rfl
  rw [hd, Option.map_some, Option.some.injEq, Prod.mk.injEq] at hparts
  cases hmarking : makersIndex.marking? d with
  | error f =>
    rw [hmarking] at hparts
    cases hparts.2
  | ok marking =>
    exact ⟨rfl, hresolve, (hanswer _).2 marking hmarking (.inl hparts.1)⟩

/-- A class whose marker is given a formatted text with a character that has to be escaped. -/
def escaping : Module :=
  Module.make "m" (Path.ofText "m.py")
    [.importFrom (some "factorygen") [⟨"factory", none⟩] 0,
     .classDef 4 3 "A" [] []
       [.call (.name "factory") []
         [.mk (some "identifier")
           (.joined [.field (.constant (.text "\u00a0" false)) none none]),
          .mk (some "type") (.constant (.text "T" false))]]
       [.pass]]

def escapingIndex : Index :=
  (make [escaping] ["factorygen.factory"]).toOption.getD ⟨Ordered.empty, Ordered.empty, []⟩

-- The character is looked for in the whole table of characters that are shown as themselves.
set_option maxRecDepth 10000 in
/-- A name that a reference is resolved to and that is then refused. -/
theorem resolved_name_refused :
    make [escaping] ["factorygen.factory"] = .ok escapingIndex ∧
    escapingIndex.resolveReference ⟨"m.A", none⟩ = some "m.A" ∧
    (escapingIndex.provider.get "m.A").answer (escapingIndex.provider.after [] Memory.empty) =
      .error (.raised "ValueError" "Unable to avoid backslash in f-string expression part") :=
  ⟨rfl, rfl, rfl⟩

end Index

end Source

end Foundry
