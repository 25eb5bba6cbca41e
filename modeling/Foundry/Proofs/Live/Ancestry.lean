import Foundry.Live.Description
import Foundry.Proofs.Live.WellMade
import Foundry.Proofs.Text.Dotted

/-!
The ancestors of a made class and those of its definition: both hierarchies hold the same classes,
whatever order the classes are searched in.
-/

namespace Foundry.Live

open Foundry.Source (Index Definition)

namespace Heap

variable {x : Index} {r : BodyReading} {h : Heap} {p q b : Nat} {d e : Definition} {c : Class}
  {n : String}

/-- The index does not define the classes of the library that a base can stand for. -/
structure Apart (x : Index) : Prop where
  object : x.definitions.get? "builtins.object" = none
  abstractBase : x.definitions.get? "abc.ABC" = none

theorem isBase_iff : x.IsBase d e ↔
    ∃ n ∈ x.bases d, x.definitions.get? n = some e ∧ e.parts.isSome = true := by
  unfold Index.IsBase Index.knownBases
  simp [List.mem_filterMap, Option.filter_eq_some_iff]

theorem WellMade.made_of_depicts (hw : WellMade x r h) (hd : h.Depicts x p d) :
    ∃ c, Made x r h p d c := by
  obtain ⟨c, hc, -⟩ := hd.named
  obtain ⟨e, hm⟩ := hw.made p c hc hd.after
  exact ⟨c, hd.unique hm.depicts ▸ hm⟩

/-! ### Bases -/

theorem Made.exists_base (hw : WellMade x r h) (hx : Apart x) (hm : Made x r h p d c)
    (hb : x.IsBase d e) : ∃ b ∈ c.bases, ∃ k, Made x r h b e k := by
  obtain ⟨n, hn, he, -⟩ := isBase_iff.1 hb
  obtain ⟨written, hwritten, hbases⟩ := hm.written
  obtain ⟨b, hb, hstands⟩ := exists_right_of_mem hwritten hn
  have hmem : b ∈ c.bases := by
    rw [hbases]
    cases written with
    | nil => cases hb
    | cons _ _ => exact hb
  refine ⟨b, hmem, ?_⟩
  cases hstands with
  | object => cases hx.object.symm.trans he
  | abstractBase => cases hx.abstractBase.symm.trans he
  | made hd =>
    obtain rfl := Option.some.inj (hd.lists.symm.trans he)
    exact hw.made_of_depicts hd

theorem Made.base_cases (hw : WellMade x r h) (hm : Made x r h p d c) (hb : b ∈ c.bases) :
    b = Place.object ∨ b = placeOf "ABC" ∧ "abc.ABC" ∈ x.bases d ∨
      ∃ e k, x.IsBase d e ∧ Made x r h b e k := by
  obtain ⟨written, hwritten, hbases⟩ := hm.written
  rw [hbases] at hb
  split at hb
  · exact .inl (List.mem_singleton.1 hb)
  · obtain ⟨n, hn, hstands⟩ := exists_left_of_mem hwritten hb
    cases hstands with
    | object => exact .inl rfl
    | abstractBase => exact .inr (.inl ⟨rfl, hn⟩)
    | made hd =>
      obtain ⟨k, hk⟩ := hw.made_of_depicts hd
      exact .inr (.inr ⟨_, k, isBase_iff.2 ⟨_, hn, hd.lists, hd.isClass⟩, hk⟩)

theorem Made.exists_mem_bases (hm : Made x r h p d c) : ∃ b, b ∈ c.bases := by
  obtain ⟨written, -, hbases⟩ := hm.written
  rw [hbases]
  cases written with
  | nil => exact ⟨Place.object, List.mem_cons_self⟩
  | cons b rest => exact ⟨b, List.mem_cons_self⟩

theorem Made.abstractBase_mem (hm : Made x r h p d c) (habc : "abc.ABC" ∈ x.bases d)
    (hx : Apart x) : placeOf "ABC" ∈ c.bases := by
  obtain ⟨written, hwritten, hbases⟩ := hm.written
  obtain ⟨b, hb, hstands⟩ := exists_right_of_mem hwritten habc
  have hplace : ∀ n, n = "abc.ABC" → h.Stands x n b → b = placeOf "ABC" := by
    intro n hn hstands
    cases hstands with
    | object => exact absurd hn (by decide)
    | abstractBase => rfl
    | made hd =>
      have hlists := hd.lists
      rw [Index.Lists, hn, hx.abstractBase] at hlists
      cases hlists
  rw [hbases, ← hplace _ rfl hstands]
  cases written with
  | nil => cases hb
  | cons _ _ => exact hb

theorem Made.acyclic (hw : WellMade x r h) (hx : Apart x) (hm : Made x r h p d c) :
    x.Acyclic d := by
  have hbase : ∀ {q e k e'}, Made x r h q e k → x.IsBase e e' →
      ∃ q' < q, ∃ k', Made x r h q' e' k' := by
    intro q e k e' hk hb
    obtain ⟨b, hb, k', hk'⟩ := hk.exists_base hw hx hb
    exact ⟨b, hk.below b hb, k', hk'⟩
  have habove : ∀ {e}, x.Above d e → ∃ q k, Made x r h q e k := by
    intro e he
    induction he with
    | refl => exact ⟨p, c, hm⟩
    | tail _ hb ih =>
      obtain ⟨q, k, hk⟩ := ih
      obtain ⟨q', -, k', hk'⟩ := hbase hk hb
      exact ⟨q', k', hk'⟩
  have hstrict : ∀ {q e k e'}, Made x r h q e k → x.StrictlyAbove e e' →
      ∃ q' < q, ∃ k', Made x r h q' e' k' := by
    intro q e k e' hk he
    induction he with
    | single hb => exact hbase hk hb
    | tail _ hb ih =>
      obtain ⟨q', hlt, k', hk'⟩ := ih
      obtain ⟨q'', hlt', k'', hk''⟩ := hbase hk' hb
      exact ⟨q'', Nat.lt_trans hlt' hlt, k'', hk''⟩
  intro e he hself
  obtain ⟨q, k, hk⟩ := habove he
  -- A class above itself would have been made before itself, and so on down.
  induction q using Nat.strongRecOn generalizing k with
  | ind q ih =>
    obtain ⟨q', hlt, k', hk'⟩ := hstrict hk hself
    exact ih q' hlt k' hk'

/-! ### Orders -/

theorem Ancestral.mem_order (hw : WellMade x r h) (hp : h.Ancestral p) : p ∈ h.order p := by
  cases hp with
  | object =>
    rw [(outlined_object hw.library).order]
    exact List.mem_cons_self
  | abstractBase =>
    rw [(outlined_abstractBase hw.library).order]
    exact List.mem_cons_self
  | made hafter hc =>
    obtain ⟨d, hm⟩ := hw.made p _ hc hafter
    obtain ⟨rest, horder, -⟩ := hm.order_eq
    rw [order_of_class? hc, horder]
    exact List.mem_cons_self

theorem WellMade.le_of_mem_order (hw : WellMade x r h) (hp : h.Ancestral p)
    (hq : q ∈ h.order p) : q ≤ p := by
  induction p using Nat.strongRecOn generalizing q with
  | ind p ih =>
    cases hp with
    | object =>
      rw [(outlined_object hw.library).order, List.mem_singleton] at hq
      omega
    | abstractBase =>
      rw [(outlined_abstractBase hw.library).order] at hq
      rcases List.mem_cons.1 hq with rfl | hq
      · omega
      · have hle : Place.object ≤ placeOf "ABC" := by decide +kernel
        rw [List.mem_singleton.1 hq]
        exact hle
    | made hafter hc =>
      obtain ⟨d, hm⟩ := hw.made p _ hc hafter
      obtain ⟨rest, horder, hmerges⟩ := hm.order_eq
      rw [order_of_class? hc, horder] at hq
      rcases List.mem_cons.1 hq with rfl | hq
      · omega
      · obtain ⟨l, hl, hq⟩ := hmerges.only q hq
        rcases List.mem_append.1 hl with hl | hl
        · obtain ⟨b, hb, rfl⟩ := List.mem_map.1 hl
          have hle := ih b (hm.below b hb) (hm.base_ancestral hb) hq
          have hlt := hm.below b hb
          omega
        · rw [List.mem_singleton.1 hl] at hq
          have hlt := hm.below q hq
          omega

/-- How a made class is searched: the class comes first, then what the orders of its bases hold,
each of them in its order. -/
structure Searched (h : Heap) (p : Nat) (c : Class) : Prop where
  order : c.order = p :: c.order.tail
  nodup : c.order.Nodup
  part : ∀ b ∈ c.bases, (h.order b).Sublist c.order.tail
  only : ∀ q ∈ c.order.tail, ∃ b ∈ c.bases, q ∈ h.order b

theorem Made.searched (hw : WellMade x r h) (hm : Made x r h p d c) : h.Searched p c := by
  obtain ⟨rest, horder, hmerges⟩ := hm.order_eq
  have htail : c.order.tail = rest := by rw [horder, List.tail_cons]
  have honly : ∀ q ∈ rest, ∃ b ∈ c.bases, q ∈ h.order b := by
    intro q hq
    obtain ⟨l, hl, hq⟩ := hmerges.only q hq
    rcases List.mem_append.1 hl with hl | hl
    · obtain ⟨b, hb, rfl⟩ := List.mem_map.1 hl
      exact ⟨b, hb, hq⟩
    · rw [List.mem_singleton.1 hl] at hq
      exact ⟨q, hq, (hm.base_ancestral hq).mem_order hw⟩
  have hnew : p ∉ rest := by
    intro hp
    obtain ⟨b, hb, hp⟩ := honly p hp
    have hle := hw.le_of_mem_order (hm.base_ancestral hb) hp
    have hlt := hm.below b hb
    omega
  refine ⟨htail.symm ▸ horder, ?_, fun b hb => ?_, htail.symm ▸ honly⟩
  · rw [horder, List.nodup_cons]
    exact ⟨hnew, hmerges.nodup⟩
  · rw [htail]
    exact hmerges.keeps _ (List.mem_append_left _ (List.mem_map_of_mem hb))

theorem Searched.nodup_tail (hs : h.Searched p c) : c.order.tail.Nodup := by
  have hnodup := hs.nodup
  rw [hs.order, List.nodup_cons] at hnodup
  exact hnodup.2

theorem WellMade.object_mem_order (hw : WellMade x r h) (hp : h.Ancestral p) :
    Place.object ∈ h.order p := by
  induction p using Nat.strongRecOn with
  | ind p ih =>
    cases hp with
    | object => exact Ancestral.object.mem_order hw
    | abstractBase =>
      rw [(outlined_abstractBase hw.library).order]
      exact List.mem_cons_of_mem _ List.mem_cons_self
    | made hafter hc =>
      obtain ⟨d, hm⟩ := hw.made p _ hc hafter
      have hs := hm.searched hw
      obtain ⟨b, hb⟩ := hm.exists_mem_bases
      rw [order_of_class? hc, hs.order]
      exact List.mem_cons_of_mem p ((hs.part b hb).subset (ih b (hm.below b hb)
        (hm.base_ancestral hb)))

/-- The common ancestor stands behind all others. -/
theorem WellMade.sublist_object (hw : WellMade x r h) (hp : h.Ancestral p) (hq : q ∈ h.order p)
    (hne : q ≠ Place.object) : [q, Place.object].Sublist (h.order p) := by
  induction p using Nat.strongRecOn with
  | ind p ih =>
    have hobject := hw.object_mem_order hp
    cases hp with
    | object =>
      rw [(outlined_object hw.library).order, List.mem_singleton] at hq
      exact absurd hq hne
    | abstractBase =>
      rw [(outlined_abstractBase hw.library).order] at hq ⊢
      rcases List.mem_cons.1 hq with rfl | hq
      · exact .refl _
      · exact absurd (List.mem_singleton.1 hq) hne
    | made hafter hc =>
      obtain ⟨d, hm⟩ := hw.made p _ hc hafter
      have hs := hm.searched hw
      rw [order_of_class? hc, hs.order] at hq hobject ⊢
      rcases List.mem_cons.1 hq with rfl | hq
      · have htail : Place.object ∈ _ := (List.mem_cons.1 hobject).resolve_left (Ne.symm hne)
        exact (List.singleton_sublist.2 htail).cons_cons q
      · obtain ⟨b, hb, hq⟩ := hs.only q hq
        exact ((ih b (hm.below b hb) (hm.base_ancestral hb) hq).trans (hs.part b hb)).cons p

theorem Made.notMem_library (hw : WellMade x r h) (hm : Made x r h p d c) :
    p ∉ h.order Place.object ∧ p ∉ h.order (placeOf "ABC") := by
  obtain ⟨hobject, habstract, -⟩ := library_lt
  have hafter := hm.depicts.after
  rw [(outlined_object hw.library).order, (outlined_abstractBase hw.library).order]
  simp only [List.mem_cons, List.not_mem_nil, or_false, not_or]
  omega

/-- A made class in the order of a base is made of a definition above that of the base. -/
theorem Made.base_of_mem_tail {k : Class} (hw : WellMade x r h) (hm : Made x r h p d c)
    (hk : Made x r h q e k) (hq : q ∈ c.order.tail) :
    ∃ b ∈ c.bases, ∃ e' k', x.IsBase d e' ∧ Made x r h b e' k' ∧ q ∈ k'.order := by
  obtain ⟨b, hb, hmem⟩ := (hm.searched hw).only q hq
  obtain ⟨hobject, habstract⟩ := hk.notMem_library hw
  rcases hm.base_cases hw hb with rfl | ⟨rfl, -⟩ | ⟨e', k', hbase, hk'⟩
  · exact absurd hmem hobject
  · exact absurd hmem habstract
  · rw [order_of_class? hk'.there] at hmem
    exact ⟨b, hb, e', k', hbase, hk', hmem⟩

/-- The made classes in the order of a class are those of the definitions above its own. -/
theorem Made.above_iff (hw : WellMade x r h) (hx : Apart x) (hm : Made x r h p d c) :
    x.Above d e ↔ ∃ q ∈ c.order, ∃ k, Made x r h q e k := by
  induction p using Nat.strongRecOn generalizing d c with
  | ind p ih =>
    have hs := hm.searched hw
    constructor
    · intro habove
      rcases Relation.ReflTransGen.cases_head habove with rfl | ⟨e', hbase, habove⟩
      · exact ⟨p, hs.order ▸ List.mem_cons_self, c, hm⟩
      · obtain ⟨b, hb, k', hk'⟩ := hm.exists_base hw hx hbase
        obtain ⟨q, hq, k, hk⟩ := (ih b (hm.below b hb) hk').1 habove
        rw [← order_of_class? hk'.there] at hq
        exact ⟨q, List.mem_of_mem_tail ((hs.part b hb).subset hq), k, hk⟩
    · rintro ⟨q, hq, k, hk⟩
      rw [hs.order] at hq
      rcases List.mem_cons.1 hq with rfl | hq
      · rw [hk.depicts.unique hm.depicts]
        exact .refl
      · obtain ⟨b, hb, e', k', hbase, hk', hmem⟩ := hm.base_of_mem_tail hw hk hq
        exact .head hbase ((ih b (hm.below b hb) hk').2 ⟨q, hmem, k, hk⟩)

/-! ### What is found first -/

theorem Made.attribute?_eq (hm : Made x r h p d c) :
    h.attribute? p n = c.attributes.get? n := by
  rw [attribute?, hm.there]
  rfl

theorem Made.ancestral (hm : Made x r h p d c) : h.Ancestral p :=
  .made hm.depicts.after hm.there

theorem Made.ancestral_of_mem_order (hw : WellMade x r h)
    (hm : Made x r h p d c) (hq : q ∈ c.order) : h.Ancestral q := by
  rw [← order_of_class? hm.there] at hq
  exact hw.ancestral_of_mem_order hm.ancestral hq

/-- What is found first behind a class is found first in each base that it stands above. -/
theorem Made.rawAttribute_base {o : Object} {b : Nat} (hw : WellMade x r h)
    (hm : Made x r h p d c) (hb : b ∈ c.bases) (hq : q ∈ h.order b)
    (hfind : h.findIn c.order.tail n = some (q, o)) : h.rawAttribute b n = some (q, o) :=
  findIn_of_sublist ((hm.searched hw).part b hb) (hm.searched hw).nodup_tail hfind hq

theorem rawAttribute_eq (hw : WellMade x r h) (hm : Made x r h p d c) :
    h.rawAttribute p n =
      ((h.attribute? p n).map fun o => (p, o)).or (h.findIn c.order.tail n) := by
  rw [rawAttribute, order_of_class? hm.there, (hm.searched hw).order, findIn_cons, List.tail_cons]

end Heap

/-! ### Descriptions -/

theorem Machine.describe_class {m : Machine} {c : Class} {p : Nat} (slot : String)
    (hc : m.heap.class? p = some c) (hmodule : Name.isDotted (Text.strip c.module) = true)
    (hqualname : Name.isDotted (Text.strip c.qualname) = true) :
    ∃ b, m.describe slot (.class p) = .ok (some b) ∧ b.name = ⟨c.module, c.qualname⟩ ∧
      b.isAbstract = !c.abstracts.isEmpty ∧
      b.constructors = [⟨m.heap.requiredArguments c, true⟩] := by
  have hname : describedName c.module c.qualname = .ok ⟨c.module, c.qualname⟩ := by
    rw [describedName, QualifiedName.ofAttributes?_of_isDotted hmodule hqualname]
  simp only [describe, hc, describeClass, hname]
  exact ⟨_, rfl, rfl, rfl, rfl⟩

end Foundry.Live
