import Foundry.Proofs.Live.Decorated

/-!
The fields of running data classes along the order of ancestors: of a field that the class does not
declare itself, the first base tells that knows the field, if data classes are not broken up by
classes that are none.
-/

namespace Foundry

theorem findSome?_of_find? {α β : Type} {f : α → Option β} {l : List α} {a : α}
    (h : l.find? (fun b => (f b).isSome) = some a) : l.findSome? f = f a := by
  induction l with
  | nil => cases h
  | cons b rest ih =>
    rw [List.find?_cons] at h
    rw [List.findSome?_cons]
    cases hb : f b with
    | none =>
      rw [hb] at h
      exact ih h
    | some v =>
      rw [hb] at h
      obtain rfl := Option.some.inj h
      exact hb.symm

namespace Live.Heap

open Foundry.Source (Definition FieldRole Index)

variable {x : Index} {h : Heap} {p q b : Nat} {d e a : Definition} {c k : Class} {n : String}

/-! ### Classes and their skeletons -/

theorem definitionAt_skeleton (h : Heap) : h.skeleton.definitionAt x = h.definitionAt x := by
  funext p
  have hname := map_class?_skeleton (f := qualifiedName) (fun _ => rfl) h p
  have hget : ∀ h : Heap, ((h.class? p).bind fun c => x.definitions.get? (qualifiedName c)) =
      ((h.class? p).map qualifiedName).bind x.definitions.get? := by
    intro h
    rw [Option.bind_map]
    rfl
  rw [definitionAt, definitionAt, hget, hget, hname]

theorem speaksAt_skeleton (h : Heap) (speaks : Definition → Bool) :
    h.skeleton.speaksAt x speaks = h.speaksAt x speaks := by
  funext p
  rw [speaksAt, speaksAt, definitionAt_skeleton]

theorem Fielded.order_eq (hw : WellFielded x h) (hf : Fielded x h p d c) :
    c.order = p :: c.order.tail :=
  ((hf.made hw).searched hw.skeleton.wellMade).order

theorem Fielded.nodup_tail (hw : WellFielded x h) (hf : Fielded x h p d c) : c.order.tail.Nodup :=
  ((hf.made hw).searched hw.skeleton.wellMade).nodup_tail

theorem Fielded.part (hw : WellFielded x h) (hf : Fielded x h p d c) (hb : b ∈ c.bases) :
    (h.order b).Sublist c.order.tail := by
  have hpart := ((hf.made hw).searched hw.skeleton.wellMade).part b hb
  rw [order_skeleton] at hpart
  exact hpart

theorem Fielded.bases_sublist (hw : WellFielded x h) (hf : Fielded x h p d c) :
    c.bases.Sublist c.order.tail :=
  (hf.made hw).bases_sublist

theorem WellFielded.depicts_of_definitionAt (hw : WellFielded x h)
    (hd : h.definitionAt x p = some d) : h.Depicts x p d := by
  rw [← definitionAt_skeleton] at hd
  exact depicts_skeleton.1 (hw.skeleton.wellMade.depicts_of_definitionAt hd)

theorem Fielded.knownBases_eq (hw : WellFielded x h) (hx : Apart x) (hf : Fielded x h p d c) :
    x.knownBases d = h.definitionsIn x c.bases := by
  have hbases := (hf.made hw).knownBases_eq hx
  rw [definitionsIn, definitionAt_skeleton] at hbases
  exact hbases

theorem Fielded.above (hw : WellFielded x h) (hx : Apart x) (hf : Fielded x h p d c)
    (hq : q ∈ c.order) (he : h.Depicts x q e) : x.Above d e := by
  obtain ⟨k, hk⟩ := hw.skeleton.wellMade.made_of_depicts (depicts_skeleton.2 he)
  exact ((hf.made hw).above_iff hw.skeleton.wellMade hx).2 ⟨q, hq, k, hk⟩

theorem Fielded.exists_base (hw : WellFielded x h) (hx : Apart x) (hf : Fielded x h p d c)
    (hb : x.IsBase d e) : ∃ b ∈ c.bases, h.Depicts x b e := by
  obtain ⟨b, hb, k, hk⟩ := (hf.made hw).exists_base hw.skeleton.wellMade hx hb
  exact ⟨b, hb, depicts_skeleton.1 hk.depicts⟩

/-- A class behind another one stands in the order of a base. -/
theorem Fielded.base_of_mem_tail (hw : WellFielded x h) (hf : Fielded x h p d c)
    (hq : q ∈ c.order.tail) (he : h.Depicts x q e) :
    ∃ b ∈ c.bases, ∃ g, x.IsBase d g ∧ h.Depicts x b g ∧ q ∈ h.order b := by
  obtain ⟨k, hk⟩ := hw.skeleton.wellMade.made_of_depicts (depicts_skeleton.2 he)
  obtain ⟨b, hb, g, l, hg, hl, hmem⟩ :=
    (hf.made hw).base_of_mem_tail hw.skeleton.wellMade hk hq
  have horder := congrFun (order_skeleton h) b
  rw [order_of_class? hl.there] at horder
  exact ⟨b, hb, g, hg, depicts_skeleton.1 hl.depicts, horder ▸ hmem⟩

/-! ### Where fields come from -/

theorem fields_library :
    [Place.object, placeOf "ABC"].all (fun p => ((libraryHeap.class? p).bind Class.fields).isNone) =
      true := by
  decide +kernel

/-- A class without data classes at or above it has no fields. -/
theorem WellFielded.fields_eq_none (hw : WellFielded x h) (hp : h.skeleton.Ancestral p)
    (hnone : ∀ e, h.Depicts x p e → x.isDataClass e = false) :
    (h.class? p).bind Class.fields = none := by
  have hlibrary : ∀ p ∈ [Place.object, placeOf "ABC"], (h.class? p).bind Class.fields = none := by
    intro p hp
    obtain ⟨c, hc⟩ : ∃ c, libraryHeap.class? p = some c := by
      have hancestral : libraryHeap.Ancestral p := by
        simp only [List.mem_cons, List.not_mem_nil, or_false] at hp
        rcases hp with rfl | rfl
        · exact .object
        · exact .abstractBase
      exact hancestral.exists (.refl _)
    have hfields := Option.isNone_iff_eq_none.1 (List.all_eq_true.1 fields_library p hp)
    rw [hc] at hfields
    rw [hw.library.classes p c hc]
    exact hfields
  cases hp.of_skeleton with
  | object => exact hlibrary _ (by simp)
  | abstractBase => exact hlibrary _ (by simp)
  | made hafter hk =>
    obtain ⟨e, hf⟩ := hw.made p _ hk hafter
    rw [hk, Option.bind_some, hf.undecorated (hnone e hf.depicts)]

theorem Fielded.ancestral_of_mem_tail (hw : WellFielded x h) (hf : Fielded x h p d c)
    (hq : q ∈ c.order.tail) : h.skeleton.Ancestral q :=
  (hf.made hw).ancestral_of_mem_order hw.skeleton.wellMade (List.mem_of_mem_tail hq)

/-- The definition of a class behind another one stands above that of the other one, which it is
not. -/
theorem Fielded.above_of_mem_tail (hw : WellFielded x h) (hx : Apart x) (hf : Fielded x h p d c)
    (hq : q ∈ c.order.tail) (he : h.Depicts x q e) : x.Above d e ∧ e ≠ d := by
  refine ⟨hf.above hw hx (List.mem_of_mem_tail hq) he, ?_⟩
  rintro rfl
  have hsame := hw.skeleton.wellMade.once p q _ (depicts_skeleton.2 hf.depicts)
    (depicts_skeleton.2 he)
  have hlt := (hf.behind hw q hq).1
  omega

theorem Fielded.fieldsFrom_eq (hw : WellFielded x h) (hf : Fielded x h p d c)
    {fields : Ordered String Field} (hfields : c.fields = some fields) :
    h.fieldsFrom p = fields := by
  unfold fieldsFrom
  rw [order_of_class? hf.there, hf.order_eq hw, List.findSome?_cons, hf.there, Option.bind_some,
    hfields]
  rfl

theorem fieldsFrom_eq_empty (hnone : ∀ q ∈ h.order p, (h.class? q).bind Class.fields = none) :
    h.fieldsFrom p = Ordered.empty := by
  unfold fieldsFrom
  rw [List.findSome?_eq_none_iff.2 hnone]
  rfl

/-- What a class behind another one hands on: the fields of a data class, or nothing. -/
theorem Fielded.fieldsFrom_cases (hw : WellFielded x h) (hx : Apart x) (hf : Fielded x h p d c)
    (hdecorated : x.Decorated d) (hq : q ∈ c.order.tail) :
    (∃ e k, Fielded x h q e k ∧ x.isDataClass e = true ∧ k.fields = some (h.fieldsFrom q)) ∨
      h.fieldsFrom q = Ordered.empty ∧
        ∀ e, h.Depicts x q e → x.Silent (x.declares n) e := by
  have hancestral := hf.ancestral_of_mem_tail hw hq
  by_cases hdata : ∃ e, h.Depicts x q e ∧ x.isDataClass e = true
  · obtain ⟨e, he, hdata⟩ := hdata
    obtain ⟨k, hk⟩ := hw.fielded_of_depicts he
    obtain ⟨own, listed, -, hfields, -⟩ := hk.decorated hdata
    exact .inl ⟨e, k, hk, hdata, hfields.trans (congrArg some (hk.fieldsFrom_eq hw hfields).symm)⟩
  · have hplain : ∀ e a, h.Depicts x q e → x.Above e a → x.isDataClass a = false := by
      intro e a he ha
      obtain ⟨habove, hne⟩ := hf.above_of_mem_tail hw hx hq he
      refine hdecorated.isDataClass_of_above habove hne (Bool.eq_false_iff.2 fun htrue => ?_) ha
      exact hdata ⟨e, he, htrue⟩
    refine .inr ⟨fieldsFrom_eq_empty fun q' hq' => ?_, fun e he a ha => ?_⟩
    · have hmem : q' ∈ h.skeleton.order q := by rwa [order_skeleton]
      refine hw.fields_eq_none (hw.skeleton.wellMade.ancestral_of_mem_order hancestral hmem)
        fun e' he' => ?_
      have hle := hw.skeleton.wellMade.le_of_mem_order hancestral hmem
      have hafter := he'.after
      obtain ⟨hobject, habstract, -⟩ := library_lt
      cases hancestral with
      | object => omega
      | abstractBase => omega
      | made hge hk =>
        obtain ⟨e, hm⟩ := hw.skeleton.wellMade.made q _ hk hge
        obtain ⟨k, hk⟩ := hw.fielded_of_depicts (depicts_skeleton.1 hm.depicts)
        rw [order_of_class? hk.there] at hq'
        exact hplain e e' hk.depicts (hk.above hw hx hq' he')
    · rw [Index.declares, hplain e a he ha, Bool.false_and]

/-! ### What the fields of a class say -/

/-- Nothing behind a class has an attribute under the name of a field that the class annotates
only. -/
def Unprovided (x : Index) (h : Heap) (d : Definition) : Prop :=
  ∀ q e n, h.Depicts x q e → x.Above d e → x.fieldRole? e n = some .bare →
    h.findIn (h.order q).tail n = none

theorem Unprovided.above (hu : h.Unprovided x d) (hde : x.Above d e) : h.Unprovided x e :=
  fun q g n hq hg => hu q g n hq (hde.trans hg)

/-- What the body of a class itself says of a field. -/
theorem argument?_listed {own : Names} {listed : List (String × Field)} (hb : BindsFields x d own)
    (hlisted : (Ordered.lastGiven n listed).map Field.argument? =
      (hintAt own n).map (HintRole.argument? (h.foundFor own c.order.tail n)))
    (hbare : x.fieldRole? d n = some .bare → h.findIn c.order.tail n = none)
    (hclean : n ∉ x.classVariables d) :
    (Ordered.lastGiven n listed).map Field.argument? =
      (x.fieldRole? d n).map FieldRole.argument? := by
  rw [hlisted]
  have hrole := hb.fields n
  unfold bodyRole at hrole
  cases hhint : hintAt own n with
  | none =>
    rw [hhint] at hrole
    rw [hrole]
    rfl
  | some role =>
    have hvariable : role ≠ .classVariable := by
      rintro rfl
      exact hclean (hb.unlisted n hhint)
    have hsome : x.fieldRole? d n = some (roleOf ((own.get? n).map given)) := by
      rw [hrole, hhint]
      cases role with
      | classVariable => exact absurd rfl hvariable
      | _ => rfl
    have hfound : h.foundFor own c.order.tail n = (own.get? n).map given := by
      unfold foundFor
      cases hown : own.get? n with
      | some o => rfl
      | none =>
        rw [hown] at hsome
        rw [hbare hsome]
        rfl
    rw [hsome, hfound]
    cases role with
    | classVariable => exact absurd rfl hvariable
    | _ => rfl

/-- A class hands on what the first class says that speaks of a field in a walk through the bases,
and nothing where all are silent. -/
structure Knows (x : Index) (h : Heap) (n : String) (q : Nat) : Prop where
  first : ∀ e a, h.Depicts x q e → x.FirstToSpeak (x.declares n) e a →
    ((h.fieldsFrom q).get? n).map Field.argument? = (x.fieldRole? a n).map FieldRole.argument?
  silent : (∀ e, h.Depicts x q e → x.Silent (x.declares n) e) → (h.fieldsFrom q).get? n = none

theorem Knows.isSome_iff (hk : h.Knows x n q) (hkeyed : x.Keyed) (he : h.Depicts x q e)
    (hacyclic : x.Acyclic e) :
    ((h.fieldsFrom q).get? n).isSome = true ↔ ¬x.Silent (x.declares n) e := by
  constructor
  · intro hsome hsilent
    rw [hk.silent fun e' he' => he'.unique he ▸ hsilent] at hsome
    cases hsome
  · intro hloud
    obtain ⟨a, ha⟩ := Index.exists_firstToSpeak hkeyed he.lists hacyclic hloud
    obtain ⟨r, hr⟩ := Index.exists_fieldRole ha.above.2
    have hfirst := hk.first e a he ha
    rw [hr, Option.map_some, Option.map_eq_some_iff] at hfirst
    obtain ⟨f, hf, -⟩ := hfirst
    rw [hf]
    rfl

/-- The first class behind another one that knows a field is made of the first base that is not
silent about it. -/
theorem Fielded.find?_of_knows (hw : WellFielded x h) (hx : Apart x) (hkeyed : x.Keyed)
    (hf : Fielded x h p d c) (hknows : ∀ q ∈ c.order.tail, h.Knows x n q) {b : Definition}
    {before after : List Definition} (hbases : x.knownBases d = before ++ b :: after)
    (hbefore : ∀ b' ∈ before, x.Silent (x.declares n) b') (hb : ¬x.Silent (x.declares n) b) :
    ∃ q ∈ c.order.tail, h.Depicts x q b ∧
      c.order.tail.find? (fun q => ((h.fieldsFrom q).get? n).isSome) = some q := by
  have hacyclic : x.Acyclic d := (hf.made hw).acyclic hw.skeleton.wellMade hx
  have hiff : ∀ q ∈ c.order.tail, ∀ e, h.Depicts x q e →
      (((h.fieldsFrom q).get? n).isSome = true ↔ ¬x.Silent (x.declares n) e) :=
    fun q hq e he => (hknows q hq).isSome_iff hkeyed he
      (hacyclic.above (hf.above_of_mem_tail hw hx hq he).1)
  have hmem : ∀ b ∈ c.bases, b ∈ c.order.tail := fun b hb => (hf.bases_sublist hw).subset hb
  obtain ⟨bp, hbp, hbdepicts⟩ := hf.exists_base hw hx (Index.isBase_of_append hbases)
  cases hfind : c.order.tail.find? (fun q => ((h.fieldsFrom q).get? n).isSome) with
  | none =>
    have hnone := List.find?_eq_none.1 hfind bp (hmem bp hbp)
    exact absurd ((hiff bp (hmem bp hbp) b hbdepicts).2 hb) hnone
  | some q =>
    have hq := List.mem_of_find?_eq_some hfind
    have hknown := List.find?_some hfind
    obtain ⟨e, he, hloud⟩ : ∃ e, h.Depicts x q e ∧ ¬x.Silent (x.declares n) e := by
      by_contra hall
      rw [(hknows q hq).silent fun e he => by_contra fun hloud => hall ⟨e, he, hloud⟩] at hknown
      cases hknown
    -- The base that it stands above knows the field as well, so it is that base.
    obtain ⟨b₁, hb₁, g, hg, hgdepicts, hqb⟩ := hf.base_of_mem_tail hw hq he
    obtain ⟨k, hk⟩ := hw.fielded_of_depicts hgdepicts
    have hfirst : b₁ = q := by
      have hsub := find?_of_sublist (hf.part hw hb₁) (hf.nodup_tail hw) hfind hqb
      have hloud' : ¬x.Silent (x.declares n) g := fun hsilent =>
        hloud (hsilent.above (hk.above hw hx (order_of_class? hk.there ▸ hqb) he))
      rw [order_of_class? hk.there, hk.order_eq hw, List.find?_cons,
        (hiff b₁ (hmem b₁ hb₁) g hgdepicts).2 hloud'] at hsub
      exact Option.some.inj hsub
    subst hfirst
    obtain rfl := hgdepicts.unique he
    have hfirst := find?_of_sublist (hf.bases_sublist hw) (hf.nodup_tail hw) hfind hb₁
    obtain ⟨-, l₁, l₂, hsplit, hl₁⟩ := List.find?_eq_some_iff_append.1 hfirst
    have hsplit' : x.knownBases d = h.definitionsIn x l₁ ++ g :: h.definitionsIn x l₂ := by
      rw [hf.knownBases_eq hw hx, definitionsIn, hsplit, List.filterMap_append,
        List.filterMap_cons, hgdepicts.definitionAt]
      rfl
    have hsame : g = b := by
      refine first_unique (P := x.Silent (x.declares n)) (hsplit'.symm.trans hbases) ?_ hbefore
        hloud hb
      intro g' hg'
      obtain ⟨q', hq', hg'⟩ := List.mem_filterMap.1 hg'
      have hmem' := hmem q' (hsplit ▸ List.mem_append_left _ hq')
      by_contra hloud'
      have hunknown := hl₁ q' hq'
      rw [(hiff q' hmem' g' (hw.depicts_of_definitionAt hg')).2 hloud'] at hunknown
      cases hunknown
    exact ⟨b₁, hq, hsame ▸ hgdepicts, rfl⟩

/-- A data class knows a field from its body or from the classes behind it. -/
theorem Fielded.knows_of_tail (hw : WellFielded x h) (hx : Apart x) (hkeyed : x.Keyed)
    (hf : Fielded x h p d c)
    (hbare : x.fieldRole? d n = some .bare → h.findIn c.order.tail n = none)
    (hclean : n ∉ x.classVariables d) (hdata : x.isDataClass d = true)
    (hknows : ∀ q ∈ c.order.tail, h.Knows x n q) : h.Knows x n p := by
  obtain ⟨own, listed, hbinds, hfields, hlisted⟩ := hf.decorated hdata
  have hbody := argument?_listed hbinds (hlisted n) hbare hclean
  have hget : (h.fieldsFrom p).get? n = (Ordered.lastGiven n listed).or
      (c.order.tail.findSome? fun q => (h.fieldsFrom q).get? n) := by
    rw [hf.fieldsFrom_eq hw hfields, Ordered.get?_insertAll_eq, inheritedFields,
      Ordered.get?_overlay, List.findSome?_map]
    rfl
  refine ⟨fun e a he ha => ?_, fun hall => ?_⟩
  · obtain rfl := he.unique hf.depicts
    rw [hget]
    cases ha with
    | own hown =>
      obtain ⟨r, hr⟩ := Index.exists_fieldRole hown
      rw [hr, Option.map_some, Option.map_eq_some_iff] at hbody
      obtain ⟨f, hf, hargument⟩ := hbody
      rw [hf, hr, Option.some_or, Option.map_some, Option.map_some, hargument]
    | @base _ b _ before after hown hbases hbefore hwalk =>
      rw [(Index.declares_eq_false_iff hdata).1 hown, Option.map_none,
        Option.map_eq_none_iff] at hbody
      obtain ⟨q, hq, hqb, hfind⟩ := hf.find?_of_knows hw hx hkeyed hknows hbases hbefore
        hwalk.not_silent
      rw [hbody, Option.none_or, findSome?_of_find? hfind]
      exact (hknows q hq).first b a hqb hwalk
  · have hsilent := hall d hf.depicts
    rw [(Index.declares_eq_false_iff hdata).1 (hsilent d .refl), Option.map_none,
      Option.map_eq_none_iff] at hbody
    rw [hget, hbody, Option.none_or, List.findSome?_eq_none_iff]
    intro q hq
    exact (hknows q hq).silent fun e he =>
      hsilent.above (hf.above_of_mem_tail hw hx hq he).1

/-- A data class knows of a field what the first class says that declares it in a walk through the
bases, where its name is no variable of a class. -/
theorem Fielded.knows (hw : WellFielded x h) (hx : Apart x) (hkeyed : x.Keyed)
    (hf : Fielded x h p d c) (hdecorated : x.Decorated d) (hunprovided : h.Unprovided x d)
    (hclean : ∀ e, x.Above d e → n ∉ x.classVariables e) (hdata : x.isDataClass d = true) :
    h.Knows x n p := by
  induction p using Nat.strongRecOn generalizing d c with
  | ind p ih =>
    refine hf.knows_of_tail hw hx hkeyed (fun hbare => ?_) (hclean d .refl) hdata fun q hq => ?_
    · have hnone := hunprovided p d n hf.depicts .refl hbare
      rwa [order_of_class? hf.there] at hnone
    · rcases hf.fieldsFrom_cases hw hx hdecorated (n := n) hq with
        ⟨e, k, hk, hdata', -⟩ | ⟨hempty, hsilent⟩
      · have habove := (hf.above_of_mem_tail hw hx hq hk.depicts).1
        exact ih q (hf.behind hw q hq).1 hk (hdecorated.above habove) (hunprovided.above habove)
          (fun g hg => hclean g (habove.trans hg)) hdata'
      · exact ⟨fun e a he ha => absurd (hsilent e he) ha.not_silent,
          fun _ => by rw [hempty, Ordered.get?_empty]⟩

/-- A field that no class declares is none that the constructor takes. -/
theorem Fielded.argument?_of_silent (hw : WellFielded x h) (hx : Apart x) (hf : Fielded x h p d c)
    (hdecorated : x.Decorated d) (hdata : x.isDataClass d = true)
    (hsilent : x.Silent (x.declares n) d) {fields : Ordered String Field}
    (hfields : c.fields = some fields) {f : Field} (hget : fields.get? n = some f) :
    f.argument? = none := by
  induction p using Nat.strongRecOn generalizing d c fields with
  | ind p ih =>
    obtain ⟨own, listed, hbinds, hsome, hlisted⟩ := hf.decorated hdata
    obtain rfl := Option.some.inj (hfields.symm.trans hsome)
    rw [Ordered.get?_insertAll_eq, Option.or_eq_some_iff] at hget
    rcases hget with hown | ⟨-, hinherited⟩
    · have hargument := hlisted n
      rw [hown, Option.map_some] at hargument
      obtain ⟨role, hhint, hrole⟩ := Option.map_eq_some_iff.1 hargument.symm
      have hnone := hbinds.fields n
      unfold bodyRole at hnone
      rw [(Index.declares_eq_false_iff hdata).1 (hsilent d .refl), hhint] at hnone
      cases role with
      | classVariable => exact hrole.symm
      | _ => cases hnone
    · rw [inheritedFields, Ordered.get?_overlay, List.findSome?_map] at hinherited
      obtain ⟨q, hq, hknown⟩ := List.exists_of_findSome?_eq_some hinherited
      rcases hf.fieldsFrom_cases hw hx hdecorated (n := n) hq with
        ⟨e, k, hk, hdata', hkfields⟩ | ⟨hempty, -⟩
      · have habove := (hf.above_of_mem_tail hw hx hq hk.depicts).1
        exact ih q (hf.behind hw q hq).1 hk (hdecorated.above habove) hdata'
          (hsilent.above habove) hkfields hknown
      · rw [Function.comp_apply, hempty] at hknown
        cases hknown

/-- The fields of a running data class are those of its source, as far as the constructor takes
them. -/
theorem Fielded.fields_agree (hw : WellFielded x h) (hx : Apart x) (hkeyed : x.Keyed)
    (hf : Fielded x h p d c) (hdata : x.isDataClass d = true) (hdecorated : x.Decorated d)
    (hkeeps : x.KeepsOut d) (hvariables : x.VariablesApart d) (hunprovided : h.Unprovided x d)
    {fields : Ordered String Field} (hfields : c.fields = some fields) (n : String) :
    (fields.get? n).bind Field.argument? = (x.fieldTable d).get? n := by
  have hacyclic : x.Acyclic d := (hf.made hw).acyclic hw.skeleton.wellMade hx
  obtain ⟨hfirst, hsilent⟩ := Index.tabled_of_decorated (n := n) hkeyed hf.depicts.lists
    hacyclic hdecorated hkeeps hdata
  by_cases hall : x.Silent (x.declares n) d
  · rw [hsilent hall, Option.bind_eq_none_iff]
    intro f hget
    exact hf.argument?_of_silent hw hx hdecorated hdata hall hfields hget
  · obtain ⟨a, ha⟩ := Index.exists_firstToSpeak hkeyed hf.depicts.lists hacyclic hall
    have hclean : ∀ e, x.Above d e → n ∉ x.classVariables e := by
      intro e he hmem
      have hdeclares := hvariables e a n he ha.above.1 hmem
      rw [ha.above.2] at hdeclares
      cases hdeclares
    have hrole := (hf.knows hw hx hkeyed hdecorated hunprovided hclean hdata).first d a
      hf.depicts ha
    have hsame := congrArg (fun argument => argument.bind id) hrole
    rw [Option.bind_map, Option.bind_map, hf.fieldsFrom_eq hw hfields] at hsame
    rw [hfirst a ha]
    exact hsame

end Live.Heap

end Foundry
