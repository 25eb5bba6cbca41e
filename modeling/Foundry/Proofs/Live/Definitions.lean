import Foundry.Proofs.Live.Ancestry
import Foundry.Proofs.Source.Walks

/-!
The definitions that made classes stand for: those of the bases of a class are the known bases of
its definition, and the first one in the order of ancestors that has a say is the first one in a
walk through the bases, where bases that are not silent lead.
-/

namespace Foundry

/-- There is one first element of which something does not hold. -/
theorem first_unique {α : Type} {P : α → Prop} {before before' after after' : List α} {a b : α}
    (h : before ++ a :: after = before' ++ b :: after') (hbefore : ∀ c ∈ before, P c)
    (hbefore' : ∀ c ∈ before', P c) (ha : ¬P a) (hb : ¬P b) : a = b := by
  induction before generalizing before' with
  | nil =>
    cases before' with
    | nil => exact (List.cons.inj h).1
    | cons c rest =>
      obtain ⟨rfl, -⟩ := List.cons.inj h
      exact absurd (hbefore' a List.mem_cons_self) ha
  | cons c rest ih =>
    cases before' with
    | nil =>
      obtain ⟨rfl, -⟩ := List.cons.inj h
      exact absurd (hbefore c List.mem_cons_self) hb
    | cons c' rest' =>
      exact ih (List.cons.inj h).2 (fun e he => hbefore e (List.mem_cons_of_mem c he))
        fun e he => hbefore' e (List.mem_cons_of_mem c' he)

namespace Live.Heap

open Foundry.Source (Index Definition)

variable {x : Index} {r : BodyReading} {h : Heap} {p q : Nat} {d e a : Definition} {c k : Class}
  {speaks : Definition → Bool}

/-- The definition that a class was made of. -/
def definitionAt (h : Heap) (x : Index) (p : Nat) : Option Definition :=
  if librarySize ≤ p then
    (h.class? p).bind fun c => x.definitions.get? (qualifiedName c)
  else none

/-- The definitions of classes in their order, those of the library left out. -/
def definitionsIn (h : Heap) (x : Index) (order : List Nat) : List Definition :=
  order.filterMap (h.definitionAt x)

theorem Depicts.definitionAt (hd : h.Depicts x p d) : h.definitionAt x p = some d := by
  obtain ⟨c, hc, hmodule, hqualname⟩ := hd.named
  rw [Heap.definitionAt, if_pos hd.after, hc, Option.bind_some, qualifiedName, hmodule, hqualname]
  exact hd.lists

theorem definitionAt_of_library (hp : p < librarySize) : h.definitionAt x p = none :=
  if_neg (Nat.not_le_of_lt hp)

theorem WellMade.depicts_of_definitionAt (hw : WellMade x r h) (hd : h.definitionAt x p = some d) :
    h.Depicts x p d := by
  unfold Heap.definitionAt at hd
  split at hd
  · rename_i hafter
    obtain ⟨c, hc, hget⟩ := Option.bind_eq_some_iff.1 hd
    obtain ⟨e, hm⟩ := hw.made p c hc hafter
    have hsome := hm.depicts.definitionAt
    rw [Heap.definitionAt, if_pos hafter, hc, Option.bind_some, hget] at hsome
    obtain rfl := Option.some.inj hsome
    exact hm.depicts
  · cases hd

theorem Stands.definitionAt_eq {n : String} (hx : Apart x) (hs : h.Stands x n p) :
    h.definitionAt x p = (x.definitions.get? n).filter fun e => e.parts.isSome := by
  obtain ⟨hobject, habstract, -⟩ := library_lt
  cases hs with
  | object => rw [definitionAt_of_library hobject, hx.object, Option.filter_none]
  | abstractBase => rw [definitionAt_of_library habstract, hx.abstractBase, Option.filter_none]
  | made hd => rw [hd.definitionAt, hd.lists, Option.filter_some, if_pos hd.isClass]

/-- The bases that were made are those of the definition that the index knows. -/
theorem Made.knownBases_eq (hx : Apart x) (hm : Made x r h p d c) :
    x.knownBases d = h.definitionsIn x c.bases := by
  obtain ⟨written, hwritten, hbases⟩ := hm.written
  have hsame : h.definitionsIn x written = x.knownBases d := by
    unfold Index.knownBases definitionsIn
    generalize x.bases d = names at hwritten
    clear hbases
    induction hwritten with
    | nil => rfl
    | cons hs _ ih => rw [List.filterMap_cons, List.filterMap_cons, hs.definitionAt_eq hx, ih]
  rw [← hsame, hbases]
  cases written with
  | nil =>
    obtain ⟨hobject, -⟩ := library_lt
    simp [definitionsIn, definitionAt_of_library hobject]
  | cons b rest => rfl

theorem Made.bases_sublist (hm : Made x r h p d c) : c.bases.Sublist c.order.tail := by
  obtain ⟨rest, horder, hmerges⟩ := hm.order_eq
  rw [horder, List.tail_cons]
  exact hmerges.keeps _ (List.mem_append_right _ List.mem_cons_self)

/-- What has a say in the order of ancestors. -/
def speaksAt (h : Heap) (x : Index) (speaks : Definition → Bool) (p : Nat) : Bool :=
  (h.definitionAt x p).any speaks

theorem WellMade.exists_of_speaksAt (hw : WellMade x r h) (hs : h.speaksAt x speaks p = true) :
    ∃ e k, Made x r h p e k ∧ speaks e = true := by
  obtain ⟨e, he, hspeaks⟩ := (Option.any_eq_true _ _).1 hs
  obtain ⟨k, hk⟩ := hw.made_of_depicts (hw.depicts_of_definitionAt he)
  exact ⟨e, k, hk, hspeaks⟩

theorem Made.speaksAt_eq (hm : Made x r h p d c) : h.speaksAt x speaks p = speaks d := by
  rw [speaksAt, hm.depicts.definitionAt]
  rfl

/-- Where bases that are not silent lead, the first class of a walk that has a say is the first one
in the order of ancestors. -/
theorem Made.find?_of_leads (hw : WellMade x r h) (hx : Apart x) (hm : Made x r h p d c)
    (hleads : x.Leads speaks d) (hfirst : x.FirstToSpeak speaks d a) :
    ∃ q, c.order.find? (h.speaksAt x speaks) = some q ∧ h.Depicts x q a := by
  induction p using Nat.strongRecOn generalizing d c with
  | ind p ih =>
    have hs := hm.searched hw
    rw [hs.order, List.find?_cons, hm.speaksAt_eq]
    cases hfirst with
    | own hown =>
      rw [hown]
      exact ⟨p, rfl, hm.depicts⟩
    | @base _ b _ before after hown hbases hbefore hwalk =>
      rw [hown]
      have hb := Index.isBase_of_append hbases
      obtain ⟨bp, hbp, bk, hbk⟩ := hm.exists_base hw hx hb
      obtain ⟨q', hfind', hq'⟩ := ih bp (hm.below bp hbp) hbk (hleads.base hb) hwalk
      have hpart := hs.part bp hbp
      rw [order_of_class? hbk.there] at hpart
      cases hfind : c.order.tail.find? (h.speaksAt x speaks) with
      | none =>
        have hmem := hpart.subset (List.mem_of_find?_eq_some hfind')
        exact absurd (List.find?_some hfind') (List.find?_eq_none.1 hfind q' hmem)
      | some q =>
        have hq := List.mem_of_find?_eq_some hfind
        obtain ⟨g, k, hg, hspeaks⟩ := hw.exists_of_speaksAt (List.find?_some hfind)
        obtain ⟨b₁, hb₁, e₁, k₁, hbase₁, hk₁, hmem₁⟩ := hm.base_of_mem_tail hw hg hq
        have habove₁ := (hk₁.above_iff hw hx).2 ⟨q, hmem₁, _, hg⟩
        -- What is met first stands above the first base that is not silent.
        have habove : x.Above b g := by
          rw [Index.IsBase, hbases] at hbase₁
          rcases List.mem_append.1 hbase₁ with hbase₁ | hbase₁
          · rw [hbefore e₁ hbase₁ g habove₁] at hspeaks
            cases hspeaks
          · rcases List.mem_cons.1 hbase₁ with rfl | hbase₁
            · exact habove₁
            · exact hleads d .refl hown before b after hbases hbefore hwalk.not_silent e₁ hbase₁ g
                habove₁ hspeaks
        obtain ⟨q₂, hq₂, k₂, hg₂⟩ := (hbk.above_iff hw hx).1 habove
        have hmem : q ∈ bk.order := hw.once q q₂ g hg.depicts hg₂.depicts ▸ hq₂
        have hsame := find?_of_sublist hpart hs.nodup_tail hfind hmem
        exact ⟨q, rfl, Option.some.inj (hfind'.symm.trans hsame) ▸ hq'⟩

theorem Made.find?_of_silent (hw : WellMade x r h) (hx : Apart x) (hm : Made x r h p d c)
    (hall : x.Silent speaks d) : c.order.find? (h.speaksAt x speaks) = none := by
  rw [List.find?_eq_none]
  intro q hq hspeaks
  obtain ⟨g, k, hg, hg'⟩ := hw.exists_of_speaksAt hspeaks
  rw [hall g ((hm.above_iff hw hx).2 ⟨q, hq, k, hg⟩)] at hg'
  cases hg'

end Live.Heap

end Foundry
