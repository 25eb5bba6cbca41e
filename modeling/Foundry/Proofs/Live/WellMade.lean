import Foundry.Proofs.Live.Statements

/-!
What runs of class statements leave on the heap, class by class: the written bases, the order of
ancestors, the metaclass and what is left abstract are those of the class that was made.
-/

namespace Foundry.Live

open Foundry.Source (Index Definition)

namespace Heap

variable {x : Index} {r : BodyReading} {h h' : Heap} {p q : Nat} {d e : Definition} {c : Class}

/-! ### Classes that were made -/

/-- What is known about a class that a class statement made. -/
structure Made (x : Index) (r : BodyReading) (h : Heap) (p : Nat) (d : Definition) (c : Class) :
    Prop where
  there : h.class? p = some c
  depicts : h.Depicts x p d
  written : ∃ written, List.Forall₂ (h.Stands x) (x.bases d) written ∧
    c.bases = if written.isEmpty then [Place.object] else written
  below : ∀ b ∈ c.bases, b < p
  order : linearize p c.bases h.order = .ok c.order
  metaclass : c.metaclass = h.commonMetaclass Place.type c.bases
  abstracts : ∀ n, n ∈ c.abstracts ↔
    c.metaclass = Place.abstractMeta ∧ h.LeavesAbstract c.order c.bases c.attributes n
  holds : ∀ n o, c.attributes.get? n = some o → h.holds o = true
  binds : r.Binds h d c.attributes

/-- A heap whose classes beyond those of the library were made by class statements. -/
structure WellMade (x : Index) (r : BodyReading) (h : Heap) : Prop where
  library : libraryHeap.Extends h
  made : ∀ p c, h.class? p = some c → librarySize ≤ p → ∃ d, Made x r h p d c
  once : ∀ p q d, h.Depicts x p d → h.Depicts x q d → p = q

theorem WellMade.object_or_made {n : String} {o : Object} (hw : WellMade x r h)
    (hq : h.Ancestral q) (hattr : h.attribute? q n = some o) :
    (q = Place.object ∧ ∃ kind, o = .thing kind) ∨ ∃ e k, Made x r h q e k := by
  rcases hq.object_or_made hw.library hattr with hobject | ⟨hafter, k, hk⟩
  · exact .inl hobject
  · obtain ⟨e, hm⟩ := hw.made q k hk hafter
    exact .inr ⟨e, k, hm⟩

theorem Made.base_ancestral {b : Nat} (hm : Made x r h p d c) (hb : b ∈ c.bases) :
    h.Ancestral b := by
  obtain ⟨written, hwritten, hbases⟩ := hm.written
  rw [hbases] at hb
  split at hb
  · rw [List.mem_singleton.1 hb]
    exact .object
  · obtain ⟨n, -, hn⟩ := exists_left_of_mem hwritten hb
    exact hn.ancestral

theorem Made.order_eq (hm : Made x r h p d c) :
    ∃ rest, c.order = p :: rest ∧ Merges (c.bases.map h.order ++ [c.bases]) rest :=
  linearize_eq_ok hm.order

theorem order_of_class? (hc : h.class? p = some c) : h.order p = c.order := by
  rw [Heap.order, hc]

theorem WellMade.ancestral_of_mem_order (hw : WellMade x r h) (hp : h.Ancestral p)
    (hq : q ∈ h.order p) : h.Ancestral q := by
  induction p using Nat.strongRecOn generalizing q with
  | ind p ih =>
    cases hp with
    | object =>
      rw [(outlined_object hw.library).order, List.mem_singleton] at hq
      exact hq ▸ .object
    | abstractBase =>
      rw [(outlined_abstractBase hw.library).order] at hq
      rcases List.mem_cons.1 hq with rfl | hq
      · exact .abstractBase
      · rw [List.mem_singleton.1 hq]
        exact .object
    | made hafter hc =>
      obtain ⟨d, hm⟩ := hw.made p _ hc hafter
      obtain ⟨rest, horder, hmerges⟩ := hm.order_eq
      rw [order_of_class? hc, horder] at hq
      rcases List.mem_cons.1 hq with rfl | hq
      · exact .made hafter hc
      · obtain ⟨l, hl, hq⟩ := hmerges.only q hq
        rcases List.mem_append.1 hl with hl | hl
        · obtain ⟨b, hb, rfl⟩ := List.mem_map.1 hl
          exact ih b (hm.below b hb) (hm.base_ancestral hb) hq
        · rw [List.mem_singleton.1 hl] at hq
          exact hm.base_ancestral hq

theorem WellMade.complete (hw : WellMade x r h) (hp : h.Ancestral p) : h.Complete p := by
  have hthings : ∀ {order metaclass names}, h.Outlined p order metaclass names → h.Complete p := by
    intro order metaclass names ho
    obtain ⟨c, hc, -⟩ := Option.map_eq_some_iff.1 ho.metaclass
    refine ⟨c, hc, fun n o hn => ?_⟩
    obtain ⟨kind, rfl⟩ := ho.things n o (by rw [attribute?, hc]; exact hn)
    rfl
  cases hp with
  | object => exact hthings (outlined_object hw.library)
  | abstractBase => exact hthings (outlined_abstractBase hw.library)
  | made hafter hc =>
    obtain ⟨d, hm⟩ := hw.made p _ hc hafter
    exact ⟨_, hc, hm.holds⟩

theorem commonMetaclass_eq (h : Heap) (bases : List Nat) :
    h.commonMetaclass Place.type bases = Place.type ∨
      h.commonMetaclass Place.type bases = Place.abstractMeta := by
  unfold commonMetaclass
  split
  · exact .inr rfl
  · exact .inl rfl

theorem Outlined.metaclassAt {order : List Nat} {metaclass : Nat} {names : List String}
    (ho : h.Outlined p order metaclass names) : h.metaclassAt p = metaclass := by
  rw [Heap.metaclassAt, ho.metaclass, Option.getD_some]

theorem Made.metaclassAt (hm : Made x r h p d c) : h.metaclassAt p = c.metaclass := by
  rw [Heap.metaclassAt, hm.there]
  rfl

theorem WellMade.metaclassAt (hw : WellMade x r h) (hp : h.Ancestral p) :
    h.metaclassAt p = Place.type ∨ h.metaclassAt p = Place.abstractMeta := by
  cases hp with
  | object => exact .inl (outlined_object hw.library).metaclassAt
  | abstractBase => exact .inr (outlined_abstractBase hw.library).metaclassAt
  | made hafter hc =>
    obtain ⟨d, hm⟩ := hw.made p _ hc hafter
    rw [hm.metaclassAt, hm.metaclass]
    exact commonMetaclass_eq h _

/-! ### Runs make classes well -/

theorem linearize_congr {bases : List Nat} {order order' : Nat → List Nat}
    (h : ∀ b ∈ bases, order' b = order b) :
    linearize p bases order' = linearize p bases order := by
  unfold linearize
  rw [List.map_congr_left h]

theorem commonMetaclass_congr {start : Nat} {bases : List Nat}
    (hsame : ∀ b ∈ bases, h'.metaclassAt b = h.metaclassAt b) :
    h'.commonMetaclass start bases = h.commonMetaclass start bases := by
  have hany : (∃ b ∈ bases, h'.metaclassAt b = Place.abstractMeta) ↔
      ∃ b ∈ bases, h.metaclassAt b = Place.abstractMeta := by
    refine exists_congr fun b => and_congr_right fun hb => ?_
    rw [hsame b hb]
  simp only [commonMetaclass, hany]

theorem Extends.order_eq (hx : h.Extends h') (hc : h.class? p = some c) :
    h'.order p = h.order p := by
  rw [order_of_class? hc, order_of_class? (hx.classes p c hc)]

theorem Extends.metaclassAt_eq (hx : h.Extends h') (hc : h.class? p = some c) :
    h'.metaclassAt p = h.metaclassAt p := by
  rw [metaclassAt, metaclassAt, hc, hx.classes p c hc]

theorem Extends.holds (hx : h.Extends h') : (o : Object) → h.holds o = true → h'.holds o = true
  | .function p, ho => by
    obtain ⟨f, hf⟩ := Option.isSome_iff_exists.1 ho
    exact Option.isSome_iff_exists.2 ⟨f, hx.functions p f hf⟩
  | .wrapped _ inner, ho => hx.holds inner ho
  | .value _, _ => rfl
  | .tuple _, _ => rfl
  | .class _, _ => rfl
  | .module _, _ => rfl
  | .tool _, _ => rfl
  | .subscripted _, _ => rfl
  | .mark _, _ => rfl
  | .field _, _ => rfl
  | .hints _, _ => rfl
  | .fault _ _, _ => rfl
  | .thing _, _ => rfl

theorem Made.extends (hm : Made x r h p d c) (hw : WellMade x r h) (hx : h.Extends h') :
    Made x r h' p d c := by
  have hthere : ∀ b ∈ c.bases, ∃ cb, h.class? b = some cb :=
    fun b hb => (hm.base_ancestral hb).exists hw.library
  obtain ⟨written, hwritten, hbases⟩ := hm.written
  refine ⟨hx.classes p c hm.there, hm.depicts.extends hx,
    ⟨written, hwritten.imp fun _ _ hs => hs.extends hx, hbases⟩, hm.below, ?_, ?_, fun n => ?_,
    fun n o ho => hx.holds o (hm.holds n o ho), r.stable hx hm.holds hm.binds⟩
  · rw [linearize_congr fun b hb => ?_]
    · exact hm.order
    · obtain ⟨cb, hcb⟩ := hthere b hb
      exact hx.order_eq hcb
  · rw [commonMetaclass_congr fun b hb => ?_]
    · exact hm.metaclass
    · obtain ⟨cb, hcb⟩ := hthere b hb
      exact hx.metaclassAt_eq hcb
  · rw [hm.abstracts, hx.leavesAbstract_iff hm.holds hthere fun q hq => ?_]
    refine hw.complete (hw.ancestral_of_mem_order (.made hm.depicts.after hm.there) ?_)
    rw [order_of_class? hm.there]
    exact List.mem_of_mem_tail hq

theorem WellMade.library_wellMade : WellMade x r libraryHeap := by
  have hnone : ∀ {p c}, libraryHeap.class? p = some c → ¬librarySize ≤ p := by
    intro p c hc hafter
    have hlt := lt_of_class? hc
    unfold librarySize at hafter
    omega
  refine ⟨.refl libraryHeap, fun p c hc hafter => absurd hafter (hnone hc), ?_⟩
  intro p q d hd
  obtain ⟨c, hc, -⟩ := hd.named
  exact absurd hd.after (hnone hc)

theorem WellMade.other (hw : WellMade x r h) (hx : h.Extends h')
    (hsame : h'.classes = h.classes) : WellMade x r h' := by
  have hback : ∀ p, h'.class? p = h.class? p := by
    intro p
    rw [class?, class?, hsame]
  refine ⟨hw.library.trans hx, fun p c hc hafter => ?_, fun p q d hp hq => ?_⟩
  · obtain ⟨d, hm⟩ := hw.made p c (hback p ▸ hc) hafter
    exact ⟨d, hm.extends hw hx⟩
  · have hdepicts : ∀ {p}, h'.Depicts x p d → h.Depicts x p d :=
      fun {p} hp => ⟨hp.after, hp.lists, hp.isClass, hback p ▸ hp.named⟩
    exact hw.once p q d (hdepicts hp) (hdepicts hq)

theorem metaclassOf_of_prepareClass {name : String} {written : List Nat} {metaclass : Nat}
    (h' : h.prepareClass name written none = .ok metaclass) :
    h.metaclassOf Place.type written = .ok metaclass := by
  unfold prepareClass at h'
  cases hm : h.metaclassOf Place.type written with
  | error f =>
    rw [Option.getD_none, hm] at h'
    cases h'
  | ok m =>
    rw [Option.getD_none, hm] at h'
    have hchecked : (if h.derives m Place.enumMeta = true then
        (h.checkEnum name written).bind fun _ => .ok m else .ok m) = .ok metaclass := h'
    split at hchecked
    · cases hcheck : h.checkEnum name written with
      | error f =>
        rw [hcheck] at hchecked
        cases hchecked
      | ok u =>
        rw [hcheck] at hchecked
        exact hchecked
    · exact hchecked

theorem derives_enumMeta (hlib : libraryHeap.Extends h) {m : Nat}
    (hm : m = Place.type ∨ m = Place.abstractMeta) : h.derives m Place.enumMeta = false := by
  obtain ⟨-, -, -, -, -, hnot⟩ := library_lt
  simp only [List.mem_cons, List.not_mem_nil, or_false, not_or] at hnot
  rcases hm with rfl | rfl
  · simp [derives, (outlined_type hlib).order, hnot]
  · simp [derives, (outlined_abstractMeta hlib).order, hnot]

theorem tracksAbstracts_iff (hlib : libraryHeap.Extends h) {m : Nat}
    (hm : m = Place.type ∨ m = Place.abstractMeta) :
    h.tracksAbstracts m = true ↔ m = Place.abstractMeta := by
  obtain ⟨-, -, -, hne, -, -⟩ := library_lt
  have hobject : Place.abstractMeta ≠ Place.object := by decide +kernel
  rcases hm with rfl | rfl
  · simp [tracksAbstracts, derives, (outlined_type hlib).order, hne, hne.symm, hobject]
  · simp [tracksAbstracts, derives, (outlined_abstractMeta hlib).order]

theorem class?_of_addClass {k : Class} (hk : (h.addClass c).2.class? q = some k)
    (hne : q ≠ h.classes.size) : h.class? q = some k := by
  unfold class? addClass at hk
  rw [Array.getElem?_push, if_neg hne] at hk
  exact hk

theorem Depicts.of_addClass (hq : (h.addClass c).2.Depicts x q e)
    (hd : (h.addClass c).2.Depicts x h.classes.size d) :
    q = h.classes.size ∧ e = d ∨ h.Depicts x q e := by
  by_cases hsame : q = h.classes.size
  · subst hsame
    exact .inl ⟨rfl, hq.unique hd⟩
  · obtain ⟨k, hk, hnamed⟩ := hq.named
    exact .inr ⟨hq.after, hq.lists, hq.isClass, k, class?_of_addClass hk hsame, hnamed⟩

/-- The class that a class statement adds. -/
structure Adds (x : Index) (h : Heap) (d : Definition) (written : List Nat) (own : Names)
    (c : Class) : Prop where
  module : c.module = d.module
  qualname : c.qualname = d.qualname
  bases : c.bases = if written.isEmpty then [Place.object] else written
  ancestral : ∀ b ∈ c.bases, h.Ancestral b
  order : linearize h.classes.size c.bases h.order = .ok c.order
  metaclass : c.metaclass = h.commonMetaclass Place.type c.bases
  attributes : c.attributes = own
  abstracts : c.abstracts = if h.tracksAbstracts c.metaclass = true then
    h.abstractNames c.order c.bases c.attributes else []

theorem WellMade.exists_adds {name : String} {written : List Nat} {own : Names} {metaclass : Nat}
    (hw : WellMade x r h) (hwritten : List.Forall₂ (h.Stands x) (x.bases d) written)
    (hprepare : h.prepareClass name written none = .ok metaclass)
    (hmake : h.makeClass d.module d.qualname written metaclass own false = .ok (p, h')) :
    ∃ c, h.Adds x d written own c ∧ p = h.classes.size ∧ h' = (h.addClass c).2 := by
  have hancestral : ∀ b ∈ written, h.Ancestral b := by
    intro b hb
    obtain ⟨n, -, hn⟩ := exists_left_of_mem hwritten hb
    exact hn.ancestral
  have hmetaclass : metaclass = h.commonMetaclass Place.type written := by
    have hm := metaclassOf_of_prepareClass hprepare
    rw [metaclassOf_eq hw.library (.inl rfl) fun b hb => hw.metaclassAt (hancestral b hb)] at hm
    exact (Except.ok.inj hm).symm
  have henum := derives_enumMeta hw.library (hmetaclass ▸ commonMetaclass_eq h written)
  obtain ⟨c, rfl, rfl, hmodule, hqualname, hbases, horder, rfl, rfl, habstracts⟩ :=
    makeClass_eq_ok (fun b hb => (hancestral b hb).notMem_protocols) henum hmake
  refine ⟨c, ⟨hmodule, hqualname, hbases, fun b hb => ?_, horder, ?_, rfl, habstracts⟩, rfl, rfl⟩
  · rw [hbases] at hb
    split at hb
    · rw [List.mem_singleton.1 hb]
      exact .object
    · exact hancestral b hb
  · rw [hmetaclass, hbases]
    cases written with
    | nil =>
      obtain ⟨-, -, -, hne, -, -⟩ := library_lt
      simp [commonMetaclass, (outlined_object hw.library).metaclassAt, hne]
    | cons b rest => rfl

/-- What a class statement changes: one more class, which is made of its definition. -/
structure Defines (x : Index) (h h' : Heap) (d : Definition) : Prop where
  grows : h.Extends h'
  size : h'.classes.size = h.classes.size + 1
  depicts : h'.Depicts x h.classes.size d
  only : ∀ q e, h'.Depicts x q e → q = h.classes.size ∧ e = d ∨ h.Depicts x q e

theorem Adds.defines {written : List Nat} {own : Names} (ha : h.Adds x d written own c)
    (hlib : libraryHeap.Extends h) (hd : x.Lists d) (hclass : d.parts.isSome = true) :
    Defines x h (h.addClass c).2 d := by
  have hdepicts : (h.addClass c).2.Depicts x h.classes.size d :=
    ⟨hlib.size_le, hd, hclass, c, h.class?_addClass c, ha.module, ha.qualname⟩
  refine ⟨h.extends_addClass c, ?_, hdepicts, fun q e hq => hq.of_addClass hdepicts⟩
  unfold addClass
  exact Array.size_push c

theorem WellMade.made_addClass {written : List Nat} {own : Names} (hw : WellMade x r h)
    (ha : h.Adds x d written own c) (hdefines : Defines x h (h.addClass c).2 d)
    (hwritten : List.Forall₂ (h.Stands x) (x.bases d) written)
    (hheld : ∀ n o, own.get? n = some o → h.holds o = true) (hbinds : r.Binds h d own) :
    Made x r (h.addClass c).2 h.classes.size d c := by
  have hx := hdefines.grows
  rw [← ha.attributes] at hheld hbinds
  have hthere : ∀ b ∈ c.bases, ∃ k, h.class? b = some k :=
    fun b hb => (ha.ancestral b hb).exists hw.library
  have hcomplete : ∀ q ∈ c.order.tail, h.Complete q := by
    obtain ⟨rest, hrest, hmerges⟩ := linearize_eq_ok ha.order
    rw [hrest]
    intro q hq
    obtain ⟨l, hl, hq⟩ := hmerges.only q hq
    rcases List.mem_append.1 hl with hl | hl
    · obtain ⟨b, hb, rfl⟩ := List.mem_map.1 hl
      exact hw.complete (hw.ancestral_of_mem_order (ha.ancestral b hb) hq)
    · rw [List.mem_singleton.1 hl] at hq
      exact hw.complete (ha.ancestral q hq)
  have hkinds := commonMetaclass_eq h c.bases
  rw [← ha.metaclass] at hkinds
  refine ⟨h.class?_addClass c, hdefines.depicts,
    ⟨written, hwritten.imp fun _ _ hs => hs.extends hx, ha.bases⟩, fun b hb => ?_, ?_, ?_,
    fun n => ?_, fun n o ho => hx.holds o (hheld n o ho), r.stable hx hheld hbinds⟩
  · obtain ⟨k, hk⟩ := hthere b hb
    exact lt_of_class? hk
  · rw [linearize_congr fun b hb => ?_]
    · exact ha.order
    · obtain ⟨k, hk⟩ := hthere b hb
      exact hx.order_eq hk
  · refine ha.metaclass.trans (commonMetaclass_congr fun b hb => ?_).symm
    obtain ⟨k, hk⟩ := hthere b hb
    exact hx.metaclassAt_eq hk
  · rw [ha.abstracts, hx.leavesAbstract_iff hheld hthere hcomplete,
      ← tracksAbstracts_iff hw.library hkinds, ← mem_abstractNames]
    split
    · rename_i htrue
      exact ⟨fun hn => ⟨htrue, hn⟩, fun hn => hn.2⟩
    · rename_i hfalse
      exact ⟨fun hn => absurd hn List.not_mem_nil, fun hn => absurd hn.1 hfalse⟩

theorem WellMade.statement {written : List Nat} {own : Names} (hw : WellMade x r h)
    (hd : x.Lists d) (hclass : d.parts.isSome = true) (hnew : ∀ q, ¬h.Depicts x q d)
    (hwritten : List.Forall₂ (h.Stands x) (x.bases d) written)
    (hheld : ∀ n o, own.get? n = some o → h.holds o = true) (hbinds : r.Binds h d own)
    (ha : h.Adds x d written own c) : WellMade x r (h.addClass c).2 := by
  have hdefines := ha.defines hw.library hd hclass
  refine ⟨hw.library.trans hdefines.grows, fun q k hk hq => ?_, fun q q' e hq hq' => ?_⟩
  · by_cases hsame : q = h.classes.size
    · subst hsame
      obtain rfl := Option.some.inj ((h.class?_addClass c).symm.trans hk)
      exact ⟨d, hw.made_addClass ha hdefines hwritten hheld hbinds⟩
    · obtain ⟨e, hm⟩ := hw.made q k (class?_of_addClass hk hsame) hq
      exact ⟨e, hm.extends hw hdefines.grows⟩
  · rcases hdefines.only q e hq with ⟨rfl, rfl⟩ | hq
    · rcases hdefines.only q' e hq' with ⟨rfl, -⟩ | hq'
      · rfl
      · exact absurd hq' (hnew q')
    · rcases hdefines.only q' e hq' with ⟨rfl, rfl⟩ | hq'
      · exact absurd hq (hnew q)
      · exact hw.once q q' e hq hq'

theorem Runs.wellMade (hr : Runs x r h) : WellMade x r h := by
  induction hr with
  | library => exact .library_wellMade
  | other _ hx hsame ih => exact ih.other hx hsame
  | statement _ hd hclass hnew hwritten hheld hbinds hprepare hmake ih =>
    obtain ⟨c, ha, -, rfl⟩ := ih.exists_adds hwritten hprepare hmake
    exact ih.statement hd hclass hnew hwritten hheld hbinds ha

end Heap

end Foundry.Live
