import Foundry.Proofs.Live.Definitions
import Foundry.Proofs.Live.Fields
import Foundry.Proofs.Live.Skeletons

/-!
Runs of class statements whose classes may be decorated as data classes, and what they leave on the
heap, class by class: the fields of a data class are its own and those of the classes behind it.
-/

namespace Foundry.Live

open Foundry.Source (Definition FieldRole Index)

/-- What a class body binds as far as fields go: what the source says of each, and no other way to
make instances than the source knows. -/
structure BindsFields (x : Index) (d : Definition) (own : Names) : Prop where
  plain : own.get? "__new__" = none
  constructor : x.ownConstructor? d = none → own.get? "__init__" = none
  fields : ∀ n, x.fieldRole? d n = bodyRole own n
  unlisted : ∀ n, hintAt own n = some .classVariable → n ∈ x.classVariables d

/-- The source says of a class how it is decorated. -/
structure Decorates (x : Index) (d : Definition) (options : Option DataOptions) : Prop where
  isDataClass : options.isSome = x.isDataClass d
  makesConstructor : ∀ o, options = some o → o.makesConstructor = x.hasFieldConstructor d

namespace Heap

variable {x : Index} {h h' : Heap} {p q : Nat} {d e : Definition} {c k : Class} {n : String}

/-- Makes a class a data class, if it is decorated as one. -/
def decorated (h : Heap) (p : Nat) : Option DataOptions → Except Fault Heap
  | none => .ok h
  | some o => h.makeDataClass p o

/-- Heaps that class statements lead to, each of which is run once and whose classes may be
decorated as data classes. -/
inductive DataRuns (x : Index) : Heap → Prop
  | library : DataRuns x libraryHeap
  | other {h h' : Heap} : DataRuns x h → h.Extends h' → h'.classes = h.classes → DataRuns x h'
  | statement {h h₁ h' : Heap} {d : Definition} {written : List Nat} {own : Names}
      {options : Option DataOptions} : DataRuns x h → x.Lists d → d.parts.isSome = true →
    (∀ q, ¬h.Depicts x q d) → List.Forall₂ (h.Stands x) (x.bases d) written →
    BindsFields x d own → Decorates x d options → h.define d written own = some h₁ →
    h₁.decorated h.classes.size options = .ok h' → DataRuns x h'

/-- What a class with these names gives out under a name, with these classes behind it. -/
def foundFor (h : Heap) (own : Names) (behind : List Nat) (n : String) : Option Object :=
  ((own.get? n).or ((h.findIn behind n).map (·.2))).map given

theorem member?_eq_foundFor (hc : h.class? p = some c) (hfirst : c.order = p :: c.order.tail) :
    h.member? p n = h.foundFor c.attributes c.order.tail n := by
  rw [member?_eq, rawAttribute, order_of_class? hc, foundFor]
  conv_lhs => rw [hfirst, findIn_cons, attribute?, hc, Option.bind_some]
  cases c.attributes.get? n with
  | none =>
    rw [Option.map_none, Option.none_or, Option.none_or, Option.map_map]
    rfl
  | some o => rfl

/-- What is known about a class that a class statement made and that may be decorated. -/
structure Fielded (x : Index) (h : Heap) (p : Nat) (d : Definition) (c : Class) : Prop where
  there : h.class? p = some c
  depicts : h.Depicts x p d
  plain : c.attributes.get? "__new__" = none
  undecorated : x.isDataClass d = false → c.fields = none
  decorated : x.isDataClass d = true → ∃ own listed, BindsFields x d own ∧
    c.fields = some ((h.inheritedFields c.order.tail).insertAll listed) ∧
    ∀ n, (Ordered.lastGiven n listed).map Field.argument? =
      (hintAt own n).map (HintRole.argument? (h.foundFor own c.order.tail n))
  constructor : x.hasFieldConstructor d = true → x.ownConstructor? d = none →
    ∃ fields f k, c.fields = some fields ∧ c.attributes.get? "__init__" = some (.function f) ∧
      h.function? f = some k ∧ k.params = constructorParams (argumentsOf fields)

/-- A heap whose classes beyond those of the library were made by class statements and may be
decorated. -/
structure WellFielded (x : Index) (h : Heap) : Prop where
  skeleton : Runs x anyBody h.skeleton
  made : ∀ p c, h.class? p = some c → librarySize ≤ p → ∃ d, Fielded x h p d c

theorem WellFielded.library (hw : WellFielded x h) : libraryHeap.Extends h :=
  library_of_skeleton hw.skeleton.wellMade.library

/-- The skeleton of a class is made of its definition. -/
theorem Fielded.made (hw : WellFielded x h) (hf : Fielded x h p d c) :
    Made x anyBody h.skeleton p d c.skeleton := by
  obtain ⟨k, hk⟩ := hw.skeleton.wellMade.made_of_depicts (depicts_skeleton.2 hf.depicts)
  have hthere := hk.there
  rw [class?_skeleton, hf.there, Option.map_some, if_neg (Nat.not_lt_of_le hf.depicts.after),
    Option.some.injEq] at hthere
  exact hthere ▸ hk

theorem WellFielded.fielded_of_depicts (hw : WellFielded x h) (hd : h.Depicts x p d) :
    ∃ c, Fielded x h p d c := by
  obtain ⟨c, hc, -⟩ := hd.named
  obtain ⟨e, hf⟩ := hw.made p c hc hd.after
  exact ⟨c, hd.unique hf.depicts ▸ hf⟩

/-! ### What lies behind a class -/

/-- What lies behind a class was made before it. -/
theorem Made.behind {r : BodyReading} (hw : WellMade x r h) (hm : Made x r h p d c) :
    ∀ q ∈ c.order.tail, q < p ∧ ∀ q' ∈ h.order q, q' < p := by
  intro q hq
  obtain ⟨b, hb, hmem⟩ := (hm.searched hw).only q hq
  have hle := hw.le_of_mem_order (hm.base_ancestral hb) hmem
  have hlt := hm.below b hb
  refine ⟨by omega, fun q' hq' => ?_⟩
  have hle' := hw.le_of_mem_order
    (hw.ancestral_of_mem_order (hm.base_ancestral hb) hmem) hq'
  omega

theorem Extends.class?_eq (hx : h.Extends h') (hq : q < h.classes.size) :
    h'.class? q = h.class? q := by
  have hc : h.class? q = some h.classes[q] := Array.getElem?_eq_getElem hq
  rw [hc, hx.classes q _ hc]

theorem inheritedFields_congr {order : List Nat} (hsame : ∀ q < p, h'.class? q = h.class? q)
    (hbehind : ∀ q ∈ order, q < p ∧ ∀ q' ∈ h.order q, q' < p) :
    h'.inheritedFields order = h.inheritedFields order := by
  unfold inheritedFields
  congr 1
  refine List.map_congr_left fun q hq => ?_
  obtain ⟨hlt, hall⟩ := hbehind q hq
  have horder : h'.order q = h.order q := by rw [Heap.order, Heap.order, hsame q hlt]
  unfold fieldsFrom
  rw [horder]
  congr 1
  generalize h.order q = places at hall
  induction places with
  | nil => rfl
  | cons q' rest ih =>
    rw [List.findSome?_cons, List.findSome?_cons, hsame q' (hall q' List.mem_cons_self),
      ih fun q'' hq'' => hall q'' (List.mem_cons_of_mem q' hq'')]

theorem foundFor_congr {own : Names} {order : List Nat}
    (hsame : ∀ q < p, h'.class? q = h.class? q) (hbehind : ∀ q ∈ order, q < p) :
    h'.foundFor own order n = h.foundFor own order n := by
  have hfind : h'.findIn order n = h.findIn order n := by
    induction order with
    | nil => rfl
    | cons q rest ih =>
      rw [findIn_cons, findIn_cons, attribute?, attribute?, hsame q (hbehind q List.mem_cons_self),
        ih fun q' hq' => hbehind q' (List.mem_cons_of_mem q hq')]
  rw [foundFor, foundFor, hfind]

theorem Fielded.behind (hw : WellFielded x h) (hf : Fielded x h p d c) :
    ∀ q ∈ c.order.tail, q < p ∧ ∀ q' ∈ h.order q, q' < p := by
  have hbehind := (hf.made hw).behind hw.skeleton.wellMade
  rw [order_skeleton] at hbehind
  exact hbehind

theorem Fielded.extends (hw : WellFielded x h) (hf : Fielded x h p d c) (hx : h.Extends h') :
    Fielded x h' p d c := by
  have hbehind := hf.behind hw
  have hsame : ∀ q < p, h'.class? q = h.class? q := by
    intro q hq
    have hlt := lt_of_class? hf.there
    exact hx.class?_eq (by omega)
  refine ⟨hx.classes p c hf.there, hf.depicts.extends hx, hf.plain, hf.undecorated,
    fun hdata => ?_, fun hfields hown => ?_⟩
  · obtain ⟨own, listed, hbinds, hfields, hlisted⟩ := hf.decorated hdata
    refine ⟨own, listed, hbinds, ?_, fun n => ?_⟩
    · rw [inheritedFields_congr hsame hbehind]
      exact hfields
    · rw [foundFor_congr hsame fun q hq => (hbehind q hq).1]
      exact hlisted n
  · obtain ⟨fields, f, k, hsome, hinit, hk, hparams⟩ := hf.constructor hfields hown
    exact ⟨fields, f, k, hsome, hinit, hx.functions f k hk, hparams⟩

/-! ### Decorated classes -/

/-- What decorating a class changes: its attributes and its fields. -/
structure Redecorates (h h' : Heap) (p : Nat) (c c' : Class) : Prop where
  class? : ∀ q, h'.class? q = if p = q then some c' else h.class? q
  skeleton : c'.skeleton = c.skeleton
  functions : ∀ q f, h.function? q = some f → h'.function? q = some f

theorem Redecorates.skeleton_classes (hr : Redecorates h h' p c k) (hc : h.class? p = some c)
    (hafter : librarySize ≤ p) :
    h.skeleton.Extends h'.skeleton ∧ h'.skeleton.classes = h.skeleton.classes := by
  have hsame : ∀ q, h'.skeleton.class? q = h.skeleton.class? q := by
    intro q
    rw [class?_skeleton, class?_skeleton, hr.class?]
    by_cases hq : p = q
    · subst hq
      simp [hc, Nat.not_lt_of_le hafter, hr.skeleton]
    · rw [if_neg hq]
  exact ⟨⟨fun q l hl => (hsame q).trans hl, hr.functions⟩, Array.ext_getElem? hsame⟩

theorem withConstructor_new {o : DataOptions} {fields : Ordered String Field}
    (hnew : c.attributes.get? "__new__" = none) :
    (h.withConstructor c o fields).1.get? "__new__" = none := by
  unfold withConstructor
  split
  · exact (Ordered.get?_insert_of_ne _ _ (by decide)).trans (withoutFields_get?_none hnew)
  · exact withoutFields_get?_none hnew

theorem withConstructor_init (h : Heap) {o : DataOptions} (fields : Ordered String Field)
    (hmakes : o.makesConstructor = true) (hinit : c.attributes.get? "__init__" = none) :
    (h.withConstructor c o fields).1.get? "__init__" = some (.function h.functions.size) ∧
      (h.withConstructor c o fields).2.function? h.functions.size =
        some (fieldConstructor c fields) := by
  have hwithout : (withoutFields c.attributes).contains "__init__" = false := by
    rw [Ordered.contains, withoutFields_get?_none hinit]
    rfl
  unfold withConstructor
  rw [hmakes, hwithout]
  exact ⟨Ordered.get?_insert_self .., Array.getElem?_push_size⟩

theorem withConstructor_keeps (h : Heap) (c : Class) (o : DataOptions)
    (fields : Ordered String Field) :
    (h.withConstructor c o fields).2.classes = h.classes ∧
      ∀ q f, h.function? q = some f → (h.withConstructor c o fields).2.function? q = some f := by
  unfold withConstructor
  split
  · exact ⟨rfl, (extends_addFunction h _).functions⟩
  · exact ⟨rfl, fun _ _ hf => hf⟩

theorem redecorates_of_makeDataClass {o : DataOptions} (hc : h.class? p = some c)
    (hmake : h.makeDataClass p o = .ok h') :
    ∃ k own, Redecorates h h' p c k ∧
      h.ownFields p o.namedOnly (hintsOf c.attributes) = .ok own ∧
      k.fields = some (h.mergeFields p own) ∧
      (c.attributes.get? "__new__" = none → k.attributes.get? "__new__" = none) ∧
      (o.makesConstructor = true → c.attributes.get? "__init__" = none →
        ∃ f l, k.attributes.get? "__init__" = some (.function f) ∧ h'.function? f = some l ∧
          l.params = constructorParams (argumentsOf (h.mergeFields p own))) := by
  obtain ⟨own, hown, rfl⟩ := makeDataClass_eq_ok hc hmake
  obtain ⟨hclasses, hfunctions⟩ :=
    withConstructor_keeps h c o (h.mergeFields p own)
  refine ⟨{ c with
      attributes := (h.withConstructor c o (h.mergeFields p own)).1
      fields := some (h.mergeFields p own) }, own, ⟨fun q => ?_, rfl, hfunctions⟩, hown, rfl,
    withConstructor_new, fun hmakes hinit => ?_⟩
  · rw [class?_updateClass, class?, hclasses, ← class?]
    by_cases hq : p = q
    · subst hq
      rw [if_pos rfl, if_pos rfl, hc]
      rfl
    · rw [if_neg hq, if_neg hq]
  · obtain ⟨hget, hfunction⟩ := withConstructor_init h (h.mergeFields p own) hmakes hinit
    exact ⟨_, _, hget, hfunction, rfl⟩

theorem redecorates_refl (hc : h.class? p = some c) : Redecorates h h p c c := by
  refine ⟨fun q => ?_, rfl, fun _ _ hf => hf⟩
  by_cases hq : p = q
  · rw [if_pos hq, ← hq, hc]
  · rw [if_neg hq]

/-! ### Runs -/

theorem WellFielded.other (hw : WellFielded x h) (hx : h.Extends h')
    (hsame : h'.classes = h.classes) : WellFielded x h' := by
  have hskeleton : h'.skeleton.classes = h.skeleton.classes := by
    unfold Heap.skeleton
    rw [hsame]
  refine ⟨hw.skeleton.other hx.skeleton hskeleton, fun p c hc hafter => ?_⟩
  have hback : h.class? p = some c := by
    rwa [class?, hsame] at hc
  obtain ⟨d, hf⟩ := hw.made p c hback hafter
  exact ⟨d, hf.extends hw hx⟩

theorem wellFielded_library : WellFielded x libraryHeap := by
  refine ⟨?_, fun p c hc hafter => ?_⟩
  · rw [skeleton_library]
    exact .library
  · have hlt := lt_of_class? hc
    unfold librarySize at hafter
    omega

/-- The class that a class statement leaves, decorated or not. -/
theorem fielded_of_decorated {options : Option DataOptions} {own : Names} {h₁ : Heap}
    (hm : Made x anyBody h₁.skeleton p d c.skeleton) (hc : h₁.class? p = some c)
    (hfields : c.fields = none) (hown : c.attributes = own) (hbinds : BindsFields x d own)
    (hdecorates : Decorates x d options) (hw : WellMade x anyBody h₁.skeleton)
    (hdecorated : h₁.decorated p options = .ok h') :
    ∃ k, Redecorates h₁ h' p c k ∧ Fielded x h' p d k := by
  have hdepicts : ∀ {h' k}, Redecorates h₁ h' p c k → h'.Depicts x p d := by
    intro h' k hr
    obtain ⟨hgrows, -⟩ := hr.skeleton_classes hc hm.depicts.after
    exact depicts_skeleton.1 (hm.depicts.extends hgrows)
  cases options with
  | none =>
    obtain rfl := Except.ok.inj hdecorated
    have hr := redecorates_refl hc
    have hplain : x.isDataClass d = false := hdecorates.isDataClass.symm
    refine ⟨c, hr, hc, hdepicts hr, hown ▸ hbinds.plain, fun _ => hfields, fun hdata => ?_,
      fun hconstructor _ => ?_⟩
    · rw [hplain] at hdata
      cases hdata
    · rw [Index.isDataClass_of_hasFieldConstructor hconstructor] at hplain
      cases hplain
  | some o =>
    obtain ⟨k, listed, hr, hlisted, hsome, hnew, hinit⟩ := redecorates_of_makeDataClass hc hdecorated
    have hk : h'.class? p = some k := (hr.class? p).trans (if_pos rfl)
    have horder : k.order = c.order := by
      change k.skeleton.order = c.skeleton.order
      rw [hr.skeleton]
    have hsame : ∀ q < p, h'.class? q = h₁.class? q :=
      fun q hq => (hr.class? q).trans (if_neg (Nat.ne_of_gt hq))
    have hbehind : ∀ q ∈ c.order.tail, q < p ∧ ∀ q' ∈ h₁.order q, q' < p := by
      have hbehind := hm.behind hw
      rw [order_skeleton] at hbehind
      exact hbehind
    rw [mergeFields_eq, order_of_class? hc] at hsome
    refine ⟨k, hr, hk, hdepicts hr, hnew (hown ▸ hbinds.plain), fun hplain => ?_,
      fun _ => ⟨own, listed, hbinds, ?_, fun n => ?_⟩, fun hconstructor hnone => ?_⟩
    · have hdata := hdecorates.isDataClass
      rw [hplain] at hdata
      cases hdata
    · rw [horder, inheritedFields_congr hsame hbehind]
      exact hsome
    · have hmember : h₁.member? p n = h'.foundFor own k.order.tail n := by
        rw [horder, foundFor_congr hsame fun q hq => (hbehind q hq).1, ← hown]
        exact member?_eq_foundFor hc (hm.searched hw).order
      rw [lastGiven_ownFields hlisted, hmember, hown]
      rfl
    · obtain ⟨f, l, hget, hl, hparams⟩ := hinit
        ((hdecorates.makesConstructor o rfl).trans hconstructor)
        (hown ▸ hbinds.constructor hnone)
      exact ⟨_, f, l, hsome, hget, hl, by rw [hparams, mergeFields_eq, order_of_class? hc]⟩

theorem WellFielded.statement {h₁ : Heap} {written : List Nat} {own : Names}
    {options : Option DataOptions} (hw : WellFielded x h) (hd : x.Lists d)
    (hclass : d.parts.isSome = true) (hnew : ∀ q, ¬h.Depicts x q d)
    (hwritten : List.Forall₂ (h.Stands x) (x.bases d) written) (hbinds : BindsFields x d own)
    (hdecorates : Decorates x d options) (hdefine : h.define d written own = some h₁)
    (hdecorated : h₁.decorated h.classes.size options = .ok h') :
    WellFielded x h' ∧ Defines x h h' d := by
  obtain ⟨hdefine', c, rfl, hown, hfields⟩ :=
    hw.skeleton.wellMade.define_skeleton hwritten hdefine
  obtain ⟨hruns, hdefines⟩ := hw.skeleton.define hd hclass
    (fun q hq => hnew q (depicts_skeleton.1 hq)) (hwritten.imp fun _ _ hs => hs.skeleton) rfl trivial
    hdefine'
  have hc := h.class?_addClass c
  have hafter : librarySize ≤ h.classes.size := hw.library.size_le
  have hdepicts : (h.addClass c).2.skeleton.Depicts x h.classes.size d := by
    have hdepicts := hdefines.depicts
    rwa [size_skeleton] at hdepicts
  obtain ⟨k, hk⟩ := hruns.wellMade.made_of_depicts hdepicts
  have hthere := hk.there
  rw [class?_skeleton, hc, Option.map_some, if_neg (Nat.not_lt_of_le hafter),
    Option.some.injEq] at hthere
  subst hthere
  obtain ⟨l, hr, hf⟩ := fielded_of_decorated hk hc hfields hown hbinds hdecorates hruns.wellMade
    hdecorated
  obtain ⟨hgrows, hsame⟩ := hr.skeleton_classes hc hafter
  have hextends : h.Extends h' := by
    refine ⟨fun q k hk => ?_, fun q f hf => hr.functions q f hf⟩
    have hlt := lt_of_class? hk
    rw [hr.class?, if_neg (Nat.ne_of_gt hlt)]
    exact (h.extends_addClass c).classes q k hk
  refine ⟨⟨hruns.other hgrows hsame, fun q k hk hq => ?_⟩, ⟨hextends, ?_, hf.depicts, ?_⟩⟩
  · by_cases hlast : h.classes.size = q
    · subst hlast
      obtain rfl := Option.some.inj (hf.there.symm.trans hk)
      exact ⟨d, hf⟩
    · rw [hr.class?, if_neg hlast] at hk
      obtain ⟨e, he⟩ := hw.made q k (class?_of_addClass hk (Ne.symm hlast)) hq
      exact ⟨e, he.extends hw hextends⟩
  · have hsize := congrArg Array.size hsame
    rw [size_skeleton, size_skeleton] at hsize
    rw [hsize, addClass, Array.size_push]
  · intro q e hq
    by_cases hlast : h.classes.size = q
    · subst hlast
      exact .inl ⟨rfl, hq.unique hf.depicts⟩
    · obtain ⟨k, hk, hnamed⟩ := hq.named
      rw [hr.class?, if_neg hlast] at hk
      exact .inr ⟨hq.after, hq.lists, hq.isClass, k, class?_of_addClass hk (Ne.symm hlast), hnamed⟩

theorem DataRuns.wellFielded (hr : DataRuns x h) : WellFielded x h := by
  induction hr with
  | library => exact wellFielded_library
  | other _ hx hsame ih => exact ih.other hx hsame
  | statement _ hd hclass hnew hwritten hbinds hdecorates hdefine hdecorated ih =>
    exact (ih.statement hd hclass hnew hwritten hbinds hdecorates hdefine hdecorated).1

end Heap

end Foundry.Live
