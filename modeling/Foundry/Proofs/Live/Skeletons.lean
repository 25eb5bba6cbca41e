import Foundry.Proofs.Live.Programs

/-!
Heaps without what class bodies bound. What is left of a class, its name, its bases, the order of
its ancestors and its metaclass, does not change when the class is decorated, so class statements
leave the same skeleton whether their classes are decorated or not.
-/

namespace Foundry.Live

open Foundry.Source (Index Definition)

/-- A class without what its body bound. -/
def Class.skeleton (c : Class) : Class :=
  { c with attributes := Ordered.empty, abstracts := [], fields := none }

/-- A reading that asks nothing of class bodies. -/
def anyBody : BodyReading where
  Binds := fun _ _ _ => True
  stable := fun _ _ _ => trivial

namespace Heap

variable {x : Index} {h h' : Heap} {p q : Nat} {d : Definition} {c : Class}

/-- A heap without what class bodies bound, those of the library apart. -/
def skeleton (h : Heap) : Heap :=
  { h with classes := h.classes.mapIdx fun p c => if p < librarySize then c else c.skeleton }

theorem class?_skeleton (h : Heap) (p : Nat) :
    h.skeleton.class? p = (h.class? p).map fun c => if p < librarySize then c else c.skeleton :=
  Array.getElem?_mapIdx

theorem size_skeleton (h : Heap) : h.skeleton.classes.size = h.classes.size :=
  Array.size_mapIdx

theorem skeleton_library : libraryHeap.skeleton = libraryHeap := by
  have hsame : libraryHeap.classes.mapIdx (fun p c => if p < librarySize then c else c.skeleton) =
      libraryHeap.classes := by
    refine Array.ext Array.size_mapIdx fun p hp _ => ?_
    have hlt : p < librarySize := by
      rw [Array.size_mapIdx] at hp
      exact hp
    rw [Array.getElem_mapIdx, if_pos hlt]
  unfold skeleton
  rw [hsame]

theorem skeleton_addClass (hsize : librarySize ≤ h.classes.size) (c : Class) :
    (h.addClass c).2.skeleton = (h.skeleton.addClass c.skeleton).2 := by
  unfold skeleton addClass
  dsimp only
  rw [Array.mapIdx_push, if_neg (Nat.not_lt_of_le hsize)]

theorem Extends.skeleton (hx : h.Extends h') : h.skeleton.Extends h'.skeleton := by
  refine ⟨fun p c hc => ?_, hx.functions⟩
  rw [class?_skeleton] at hc ⊢
  obtain ⟨k, hk, rfl⟩ := Option.map_eq_some_iff.1 hc
  rw [hx.classes p k hk]
  rfl

theorem library_of_skeleton (hlib : libraryHeap.Extends h.skeleton) : libraryHeap.Extends h := by
  refine ⟨fun p c hc => ?_, hlib.functions⟩
  have hskeleton := hlib.classes p c hc
  rw [class?_skeleton] at hskeleton
  obtain ⟨k, hk, rfl⟩ := Option.map_eq_some_iff.1 hskeleton
  have hlt : p < librarySize := lt_of_class? hc
  rw [if_pos hlt]
  exact hk

theorem Ancestral.of_skeleton (hp : h.skeleton.Ancestral p) : h.Ancestral p := by
  cases hp with
  | object => exact .object
  | abstractBase => exact .abstractBase
  | made hafter hc =>
    rw [class?_skeleton, Option.map_eq_some_iff] at hc
    obtain ⟨k, hk, -⟩ := hc
    exact .made hafter hk

/-! ### What a skeleton keeps -/

theorem map_class?_skeleton {α : Type} {f : Class → α} (hf : ∀ c : Class, f c.skeleton = f c)
    (h : Heap) (p : Nat) : (h.skeleton.class? p).map f = (h.class? p).map f := by
  rw [class?_skeleton, Option.map_map]
  refine Option.map_congr fun c _ => ?_
  change f (if p < librarySize then c else c.skeleton) = f c
  split
  · rfl
  · exact hf c

theorem order_skeleton (h : Heap) : h.skeleton.order = h.order := by
  have hget : ∀ (h : Heap) p, h.order p = ((h.class? p).map Class.order).getD [] := by
    intro h p
    unfold order
    cases h.class? p with
    | none => rfl
    | some c => rfl
  funext p
  rw [hget, hget, map_class?_skeleton fun _ => rfl]

theorem derives_skeleton (h : Heap) (p q : Nat) : h.skeleton.derives p q = h.derives p q := by
  unfold derives
  rw [order_skeleton]

theorem className_skeleton (h : Heap) : h.skeleton.className = h.className := by
  have hget : ∀ (h : Heap) p, h.className p =
      ((h.class? p).map fun c => Name.simple c.qualname).getD "" := by
    intro h p
    unfold className
    cases h.class? p with
    | none => rfl
    | some c => rfl
  funext p
  rw [hget, hget, map_class?_skeleton fun _ => rfl]

theorem metaclassAt_skeleton (h : Heap) (p : Nat) : h.skeleton.metaclassAt p = h.metaclassAt p := by
  unfold metaclassAt
  rw [map_class?_skeleton fun _ => rfl]

theorem depicts_skeleton : h.skeleton.Depicts x p d ↔ h.Depicts x p d := by
  have hnamed : (∃ c, h.skeleton.class? p = some c ∧ c.module = d.module ∧
      c.qualname = d.qualname) ↔
      ∃ c, h.class? p = some c ∧ c.module = d.module ∧ c.qualname = d.qualname := by
    have hmap := map_class?_skeleton (f := fun c => (c.module, c.qualname)) (fun _ => rfl) h p
    have hiff : ∀ h : Heap, (∃ c, h.class? p = some c ∧ c.module = d.module ∧
        c.qualname = d.qualname) ↔
        (h.class? p).map (fun c => (c.module, c.qualname)) = some (d.module, d.qualname) := by
      intro h
      simp [Option.map_eq_some_iff]
    rw [hiff, hiff, hmap]
  constructor
  · exact fun hd => ⟨hd.after, hd.lists, hd.isClass, hnamed.1 hd.named⟩
  · exact fun hd => ⟨hd.after, hd.lists, hd.isClass, hnamed.2 hd.named⟩

theorem Stands.skeleton {n : String} (hs : h.Stands x n p) : h.skeleton.Stands x n p := by
  cases hs with
  | object => exact .object
  | abstractBase => exact .abstractBase
  | made hd => exact .made (depicts_skeleton.2 hd)

theorem layoutOf_skeleton (h : Heap) (bases : List Nat) :
    h.skeleton.layoutOf bases = h.layoutOf bases := by
  unfold layoutOf
  congr 1
  funext winner b
  have hfinal := map_class?_skeleton (f := fun c => (c.isFinal, c.layout)) (fun _ => rfl) h b
  rw [className_skeleton]
  simp only [derives_skeleton]
  cases hc : h.class? b with
  | none =>
    rw [hc, Option.map_none, Option.map_eq_none_iff] at hfinal
    rw [hfinal]
  | some c =>
    rw [hc, Option.map_some, Option.map_eq_some_iff] at hfinal
    obtain ⟨k, hk, hsame⟩ := hfinal
    obtain ⟨hisFinal, hlayout⟩ := Prod.mk.inj hsame
    rw [hk]
    simp only [hisFinal, hlayout]

theorem orderOf_skeleton (h : Heap) (bases : List Nat) :
    h.skeleton.orderOf bases = h.orderOf bases := by
  unfold orderOf
  rw [className_skeleton, size_skeleton, order_skeleton]

/-! ### Class statements -/

theorem prepareClass_eq (hlib : libraryHeap.Extends h) (name : String) {bases : List Nat}
    (hbases : ∀ b ∈ bases, h.metaclassAt b = Place.type ∨ h.metaclassAt b = Place.abstractMeta) :
    h.prepareClass name bases none = .ok (h.commonMetaclass Place.type bases) := by
  unfold prepareClass
  rw [Option.getD_none, metaclassOf_eq hlib (.inl rfl) hbases]
  change (if h.derives (h.commonMetaclass Place.type bases) Place.enumMeta = true then _ else _) = _
  rw [derives_enumMeta hlib (commonMetaclass_eq h bases)]
  rfl

/-- The skeletons of made classes leave nothing abstract. -/
theorem WellMade.abstractNames_eq_nil {bases order : List Nat} (hw : WellMade x anyBody h.skeleton)
    (hbases : ∀ b ∈ bases, h.skeleton.Ancestral b) :
    h.skeleton.abstractNames order bases Ordered.empty = [] := by
  refine List.eq_nil_iff_forall_not_mem.2 fun n hn => ?_
  rcases mem_abstractNames.1 hn with ⟨ho, -⟩ | ⟨-, hb, hc, hn, -, -⟩
  · cases ho
  · have habstracts : ∀ {order metaclass names q k}, h.skeleton.Outlined q order metaclass names →
        h.skeleton.class? q = some k → n ∉ k.abstracts := by
      intro order metaclass names q k ho hk
      have hnone := ho.abstracts
      rw [hk, Option.map_some, Option.some.injEq] at hnone
      rw [hnone]
      exact List.not_mem_nil
    cases hbases _ hb with
    | object => exact habstracts (outlined_object hw.library) hc hn
    | abstractBase => exact habstracts (outlined_abstractBase hw.library) hc hn
    | made hafter _ =>
      rw [class?_skeleton, Option.map_eq_some_iff] at hc
      obtain ⟨k, -, rfl⟩ := hc
      rw [if_neg (Nat.not_lt_of_le hafter)] at hn
      exact absurd hn List.not_mem_nil

/-- A class statement leaves the same skeleton as one with nothing in its body. -/
theorem WellMade.define_skeleton {written : List Nat} {own : Names}
    (hw : WellMade x anyBody h.skeleton)
    (hwritten : List.Forall₂ (h.Stands x) (x.bases d) written)
    (hdefine : h.define d written own = some h') :
    h.skeleton.define d written Ordered.empty = some h'.skeleton ∧
      ∃ c, h' = (h.addClass c).2 ∧ c.attributes = own ∧ c.fields = none := by
  have hlib := library_of_skeleton hw.library
  have hancestral : ∀ b ∈ written, h.skeleton.Ancestral b := by
    intro b hb
    obtain ⟨n, -, hn⟩ := exists_left_of_mem hwritten hb
    exact hn.skeleton.ancestral
  have hmetaclasses := fun b hb => hw.metaclassAt (hancestral b hb)
  have hprotocols := fun b hb => (hancestral b hb).notMem_protocols
  have hcommon : h.skeleton.commonMetaclass Place.type written =
      h.commonMetaclass Place.type written :=
    commonMetaclass_congr fun b _ => metaclassAt_skeleton h b
  have hprepare := prepareClass_eq hlib d.qualname fun b hb =>
    metaclassAt_skeleton h b ▸ hmetaclasses b hb
  have hprepare' := prepareClass_eq hw.library d.qualname hmetaclasses
  rw [hcommon] at hprepare'
  have henum := derives_enumMeta hlib (commonMetaclass_eq h written)
  have henum' := derives_enumMeta hw.library (commonMetaclass_eq h written)
  unfold define at hdefine ⊢
  rw [hprepare] at hdefine
  rw [hprepare']
  dsimp only at hdefine ⊢
  rw [makeClass_eq hprotocols henum] at hdefine
  rw [makeClass_eq hprotocols henum', layoutOf_skeleton, orderOf_skeleton]
  cases hlayout : h.layoutOf (basesFor written) with
  | error f =>
    rw [hlayout] at hdefine
    cases hdefine
  | ok layout =>
    cases horder : h.orderOf (basesFor written) with
    | error f =>
      rw [hlayout, horder] at hdefine
      cases hdefine
    | ok order =>
      rw [hlayout, horder] at hdefine
      obtain rfl := Option.some.inj hdefine
      refine ⟨?_, _, rfl, rfl, rfl⟩
      have hnone : h.skeleton.abstractNames order (basesFor written) Ordered.empty = [] := by
        refine hw.abstractNames_eq_nil fun b hb => ?_
        unfold basesFor at hb
        split at hb
        · rw [List.mem_singleton.1 hb]
          exact .object
        · exact hancestral b hb
      have hsame : h.skeleton.plainClass d.module d.qualname (basesFor written)
          (h.commonMetaclass Place.type written) Ordered.empty order layout =
          (h.plainClass d.module d.qualname (basesFor written)
            (h.commonMetaclass Place.type written) own order layout).skeleton := by
        unfold plainClass Class.skeleton
        rw [hnone, ite_self]
      change some (h.skeleton.addClass _).2 = some (h.addClass _).2.skeleton
      rw [skeleton_addClass hlib.size_le, hsame]

end Heap

end Foundry.Live
