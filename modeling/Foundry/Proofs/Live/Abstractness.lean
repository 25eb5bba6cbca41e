import Foundry.Live.Description
import Foundry.Proofs.Live.Ancestry
import Foundry.Proofs.Live.Modules
import Foundry.Proofs.Source.References

/-!
Abstract classes as the source tells and as running code tells. The source collects the names that
some base leaves abstract; running code asks, for each of them, what is found first.
-/

namespace Foundry.Live

open Foundry.Source (Index Definition)

namespace Heap

variable {x : Index} {h h' : Heap} {p q : Nat} {d e : Definition} {c : Class} {n : String}

/-! ### Class bodies with methods -/

/-- What a class body binds as far as abstract methods go: each name that the source says is
abstract or is bound to something else. Other names may be bound that no class makes abstract. -/
structure BindsMethods (x : Index) (h : Heap) (d : Definition) (own : Names) : Prop where
  keywords : ∀ k, d.parts = some k → k.keywords = []
  abstract : ∀ n, n ∈ x.ownAbstract d ↔ ∃ o, own.get? n = some o ∧ h.isAbstractMethod o = true
  concrete : ∀ n ∈ x.ownConcrete d, ∃ o, own.get? n = some o ∧ h.isAbstractMethod o = false
  rest : ∀ n o, own.get? n = some o → h.isAbstractMethod o = false →
    n ∈ x.ownConcrete d ∨ ∀ e, x.Lists e → n ∉ x.ownAbstract e

theorem BindsMethods.extends {own : Names} (hb : h.BindsMethods x d own) (hx : h.Extends h')
    (hheld : ∀ n o, own.get? n = some o → h.holds o = true) : h'.BindsMethods x d own := by
  have hsame : ∀ n o, own.get? n = some o → h'.isAbstractMethod o = h.isAbstractMethod o :=
    fun n o ho => hx.isAbstractMethod o (hheld n o ho)
  refine ⟨hb.keywords, fun n => ?_, fun n hn => ?_, fun n o ho habs => ?_⟩
  · rw [hb.abstract]
    refine exists_congr fun o => and_congr_right fun ho => ?_
    rw [hsame n o ho]
  · obtain ⟨o, ho, habs⟩ := hb.concrete n hn
    exact ⟨o, ho, (hsame n o ho).trans habs⟩
  · exact hb.rest n o ho ((hsame n o ho).symm.trans habs)

def methods (x : Index) : BodyReading where
  Binds := fun h d own => h.BindsMethods x d own
  stable := fun hx hheld hb => hb.extends hx hheld

/-- A name is found abstract first in the order of a class. -/
def FirstAbstract (h : Heap) (p : Nat) (n : String) : Prop :=
  ∃ q o, h.rawAttribute p n = some (q, o) ∧ h.isAbstractMethod o = true

/-! ### Names that the source leaves abstract -/

theorem leavesAbstract_exists (hx : x.Keyed) (hd : x.Lists d) (hn : x.LeavesAbstract d n) :
    ∃ e, x.Lists e ∧ n ∈ x.ownAbstract e := by
  induction hn with
  | own hn => exact ⟨_, hd, hn⟩
  | inherited hb _ _ ih => exact ih (hb.lists hx)

theorem Made.attribute?_eq_none (hm : Made x (methods x) h p d c)
    (hsome : ∃ e, x.Lists e ∧ n ∈ x.ownAbstract e) (habs : n ∉ x.ownAbstract d)
    (hconc : n ∉ x.ownConcrete d) : h.attribute? p n = none := by
  rw [hm.attribute?_eq]
  cases ho : c.attributes.get? n with
  | none => rfl
  | some o =>
    cases habstract : h.isAbstractMethod o with
    | true => exact absurd ((hm.binds.abstract n).2 ⟨o, ho, habstract⟩) habs
    | false =>
      obtain ⟨e, he, hn⟩ := hsome
      rcases hm.binds.rest n o ho habstract with hn' | hnever
      · exact absurd hn' hconc
      · exact absurd hn (hnever e he)

theorem Made.bound_of_attribute? {o : Object} (hm : Made x (methods x) h p d c)
    (hsome : ∃ e, x.Lists e ∧ n ∈ x.ownAbstract e) (ho : h.attribute? p n = some o) :
    n ∈ x.ownAbstract d ∨ n ∈ x.ownConcrete d := by
  by_contra hnot
  rw [not_or] at hnot
  rw [hm.attribute?_eq_none hsome hnot.1 hnot.2] at ho
  cases ho

/-! ### Which classes count abstract names -/

theorem marksAbstract_iff {r : BodyReading} (hm : Made x r h p d c)
    (hprotocols : ∀ n ∈ Source.protocolBases, x.definitions.get? n = none)
    (hkeywords : ∀ k, d.parts = some k → k.keywords = []) :
    x.marksAbstract d = true ↔ "abc.ABC" ∈ x.bases d := by
  have hnone : (x.bases d).any Source.protocolBases.contains = false := by
    rw [List.any_eq_false]
    intro n hn
    rw [List.contains_iff_mem]
    intro hmem
    obtain ⟨written, hwritten, -⟩ := hm.written
    obtain ⟨b, -, hstands⟩ := exists_right_of_mem hwritten hn
    cases hstands with
    | object => exact absurd hmem (by decide)
    | abstractBase => exact absurd hmem (by decide)
    | made hd => cases (hprotocols _ hmem).symm.trans hd.lists
  unfold Index.marksAbstract
  rw [hnone]
  cases hparts : d.parts with
  | none => simp
  | some k => simp [hkeywords k hparts]

theorem Made.metaclass_iff {r : BodyReading} (hw : WellMade x r h) (hx : Apart x)
    (hm : Made x r h p d c) :
    c.metaclass = Place.abstractMeta ↔ ∃ e, x.Above d e ∧ "abc.ABC" ∈ x.bases e := by
  obtain ⟨-, -, -, hne, -, -⟩ := library_lt
  -- Bases were made before the class, so their places are smaller.
  induction p using Nat.strongRecOn generalizing d c with
  | ind p ih =>
    have hbases : c.metaclass = Place.abstractMeta ↔
        ∃ b ∈ c.bases, h.metaclassAt b = Place.abstractMeta := by
      rw [hm.metaclass, commonMetaclass]
      simp [hne]
    rw [hbases]
    constructor
    · rintro ⟨b, hb, hmeta⟩
      rcases hm.base_cases hw hb with rfl | ⟨-, habc⟩ | ⟨e, k, hbase, hk⟩
      · rw [(outlined_object hw.library).metaclassAt] at hmeta
        exact absurd hmeta hne
      · exact ⟨d, .refl, habc⟩
      · rw [hk.metaclassAt] at hmeta
        obtain ⟨e', habove, habc⟩ := (ih b (hm.below b hb) hk).1 hmeta
        exact ⟨e', .head hbase habove, habc⟩
    · rintro ⟨e, habove, habc⟩
      rcases Relation.ReflTransGen.cases_head habove with rfl | ⟨e', hbase, habove⟩
      · exact ⟨_, hm.abstractBase_mem habc hx, (outlined_abstractBase hw.library).metaclassAt⟩
      · obtain ⟨b, hb, k, hk⟩ := hm.exists_base hw hx hbase
        refine ⟨b, hb, ?_⟩
        rw [hk.metaclassAt]
        exact (ih b (hm.below b hb) hk).2 ⟨e, habove, habc⟩

/-! ### From running code to the source -/

theorem Made.leavesAbstract (hw : WellMade x (methods x) h) (hm : Made x (methods x) h p d c)
    (hn : n ∈ c.abstracts) : x.LeavesAbstract d n := by
  induction p using Nat.strongRecOn generalizing d c with
  | ind p ih =>
    obtain ⟨-, hleaves⟩ := (hm.abstracts n).1 hn
    cases hleaves with
    | own ho habs => exact .own ((hm.binds.abstract n).2 ⟨_, ho, habs⟩)
    | @inherited b _ k _ hnone hb hk hn _ _ =>
      have hempty : ∀ {order metaclass names}, h.Outlined b order metaclass names → False := by
        intro order metaclass names ho
        have habstracts := ho.abstracts
        rw [hk, Option.map_some, Option.some.injEq] at habstracts
        rw [habstracts] at hn
        cases hn
      have hconc : n ∉ x.ownConcrete d := by
        intro hmem
        obtain ⟨o, ho, -⟩ := hm.binds.concrete n hmem
        rw [hnone] at ho
        cases ho
      rcases hm.base_cases hw hb with rfl | ⟨rfl, -⟩ | ⟨e, k', hbase, hk'⟩
      · exact (hempty (outlined_object hw.library)).elim
      · exact (hempty (outlined_abstractBase hw.library)).elim
      · obtain rfl := Option.some.inj (hk.symm.trans hk'.there)
        exact .inherited hbase (ih b (hm.below b hb) hk' hn) hconc

theorem Made.firstAbstract (hw : WellMade x (methods x) h) (hm : Made x (methods x) h p d c)
    (hn : n ∈ c.abstracts) : h.FirstAbstract p n := by
  obtain ⟨-, hleaves⟩ := (hm.abstracts n).1 hn
  unfold FirstAbstract
  rw [rawAttribute_eq hw hm, hm.attribute?_eq]
  cases hleaves with
  | own ho habs => exact ⟨p, _, by rw [ho]; rfl, habs⟩
  | inherited hnone _ _ _ hfind habs => exact ⟨_, _, by rw [hnone]; exact hfind, habs⟩

/-! ### From the source to running code -/

/-- Abstract methods are only written in classes that count them. -/
def Guarded (x : Index) (d : Definition) : Prop :=
  ∀ e, x.Above d e → x.ownAbstract e ≠ [] → ∃ a, x.Above e a ∧ "abc.ABC" ∈ x.bases a

theorem WellMade.made_of_abstract {o : Object} {r : BodyReading} (hw : WellMade x r h)
    (hq : h.Ancestral q) (ho : h.attribute? q n = some o) (habs : h.isAbstractMethod o = true) :
    ∃ e k, Made x r h q e k := by
  rcases hw.object_or_made hq ho with ⟨-, kind, rfl⟩ | hmade
  · cases habs
  · exact hmade

theorem mem_abstracts_of_rawAttribute (hw : WellMade x (methods x) h) (hx : Apart x) {o : Object}
    (hm : Made x (methods x) h p d c) (hfind : h.rawAttribute p n = some (q, o))
    (habs : h.isAbstractMethod o = true) (hmeta : h.metaclassAt q = Place.abstractMeta) :
    n ∈ c.abstracts := by
  induction p using Nat.strongRecOn generalizing d c with
  | ind p ih =>
    rw [rawAttribute_eq hw hm, hm.attribute?_eq] at hfind
    cases ho : c.attributes.get? n with
    | some o' =>
      rw [ho, Option.map_some, Option.some_or, Option.some.injEq, Prod.mk.injEq] at hfind
      obtain ⟨rfl, rfl⟩ := hfind
      rw [hm.metaclassAt] at hmeta
      exact (hm.abstracts n).2 ⟨hmeta, .own ho habs⟩
    | none =>
      rw [ho, Option.map_none, Option.none_or] at hfind
      obtain ⟨hfirst, hattr⟩ := findIn_eq_some_iff.1 hfind
      have hq := List.mem_of_find?_eq_some hfirst
      have hancestral := hm.ancestral_of_mem_order hw (List.mem_of_mem_tail hq)
      obtain ⟨e, k, hk⟩ := hw.made_of_abstract hancestral hattr habs
      -- The base that brings the class in finds the method first as well, and so leaves it abstract.
      obtain ⟨b, hb, e', k', -, hk', hmem⟩ := hm.base_of_mem_tail hw hk hq
      rw [← order_of_class? hk'.there] at hmem
      have hn := ih b (hm.below b hb) hk' (hm.rawAttribute_base hw hb hmem hfind)
      have hcounts : c.metaclass = Place.abstractMeta := by
        rw [hk.metaclassAt, hk.metaclass_iff hw hx] at hmeta
        obtain ⟨a, ha, habc⟩ := hmeta
        have habove := (hm.above_iff hw hx).2 ⟨q, List.mem_of_mem_tail hq, k, hk⟩
        exact (hm.metaclass_iff hw hx).2 ⟨a, habove.trans ha, habc⟩
      exact (hm.abstracts n).2 ⟨hcounts, .inherited ho hb hk'.there hn hfind habs⟩

theorem Made.mem_abstracts_iff (hw : WellMade x (methods x) h) (hx : Apart x)
    (hm : Made x (methods x) h p d c) (hguarded : Guarded x d) :
    n ∈ c.abstracts ↔ h.FirstAbstract p n := by
  refine ⟨hm.firstAbstract hw, ?_⟩
  rintro ⟨q, o, hfind, habs⟩
  have hfind' := hfind
  rw [rawAttribute, order_of_class? hm.there, findIn_eq_some_iff] at hfind'
  have hq := List.mem_of_find?_eq_some hfind'.1
  obtain ⟨e, k, hk⟩ := hw.made_of_abstract (hm.ancestral_of_mem_order hw hq) hfind'.2 habs
  have habove := (hm.above_iff hw hx).2 ⟨q, hq, k, hk⟩
  have hown : n ∈ x.ownAbstract e := by
    rw [hk.attribute?_eq] at hfind'
    exact (hk.binds.abstract n).2 ⟨o, hfind'.2, habs⟩
  refine mem_abstracts_of_rawAttribute hw hx hm hfind habs ?_
  rw [hk.metaclassAt, hk.metaclass_iff hw hx]
  exact hguarded e habove (List.ne_nil_of_mem hown)

/-- A class at or above this one binds the name. -/
def IsBound (x : Index) (d : Definition) (n : String) : Prop :=
  ∃ a, x.Above d a ∧ (n ∈ x.ownAbstract a ∨ n ∈ x.ownConcrete a)

/-- Where a class inherits an abstract name, every base that has the name leaves it abstract. -/
def Settled (x : Index) (d : Definition) : Prop :=
  ∀ e, x.Above d e → ∀ n, n ∉ x.ownAbstract e → n ∉ x.ownConcrete e →
    ∀ b, x.IsBase e b → x.LeavesAbstract b n →
      ∀ b', x.IsBase e b' → IsBound x b' n → x.LeavesAbstract b' n

theorem Settled.base (hs : Settled x d) (hb : x.IsBase d e) : Settled x e :=
  fun a ha => hs a (.head hb ha)

/-- Where bases agree, what some base leaves abstract is found abstract first. -/
theorem Made.firstAbstract_of_settled (hw : WellMade x (methods x) h) (hx : Apart x)
    (hkeyed : x.Keyed) (hm : Made x (methods x) h p d c) (hsettled : Settled x d)
    (hn : x.LeavesAbstract d n) : h.FirstAbstract p n := by
  have hsome := leavesAbstract_exists hkeyed hm.depicts.lists hn
  induction p using Nat.strongRecOn generalizing d c with
  | ind p ih =>
    unfold FirstAbstract
    rw [rawAttribute_eq hw hm]
    by_cases habs : n ∈ x.ownAbstract d
    · obtain ⟨o, ho, habs⟩ := (hm.binds.abstract n).1 habs
      exact ⟨p, o, by rw [hm.attribute?_eq, ho]; rfl, habs⟩
    · cases hn with
      | own hn => exact absurd hn habs
      | @inherited _ e _ hbase hleft hconc =>
        rw [hm.attribute?_eq_none hsome habs hconc, Option.map_none, Option.none_or]
        obtain ⟨b, hb, k, hk⟩ := hm.exists_base hw hx hbase
        obtain ⟨q', o', hfind', habs'⟩ := ih b (hm.below b hb) hk (hsettled.base hbase) hleft
        -- The name is found behind the class, as it is found in the order of the base.
        cases hfind : h.findIn c.order.tail n with
        | none =>
          obtain ⟨hfirst, hattr⟩ := findIn_eq_some_iff.1 hfind'
          have hmem := ((hm.searched hw).part b hb).subset (List.mem_of_find?_eq_some hfirst)
          rw [findIn_eq_none_iff.1 hfind q' hmem] at hattr
          cases hattr
        | some found =>
          obtain ⟨q, o⟩ := found
          refine ⟨q, o, rfl, ?_⟩
          obtain ⟨hfirst, hattr⟩ := findIn_eq_some_iff.1 hfind
          have hq := List.mem_of_find?_eq_some hfirst
          have hancestral := hm.ancestral_of_mem_order hw (List.mem_of_mem_tail hq)
          have hsame : ∀ {b}, b ∈ c.bases → q ∈ h.order b → h.FirstAbstract b n →
              h.isAbstractMethod o = true := by
            rintro b hb hmem ⟨q'', o'', hfind'', habs''⟩
            have hbase := hm.rawAttribute_base hw hb hmem hfind
            obtain ⟨-, rfl⟩ := Prod.mk.inj (Option.some.inj (hbase.symm.trans hfind''))
            exact habs''
          rcases hw.object_or_made hancestral hattr with ⟨rfl, -⟩ | ⟨e₂, k₂, hk₂⟩
          · exact hsame hb (hw.object_mem_order hk.ancestral) ⟨q', o', hfind', habs'⟩
          · obtain ⟨b₁, hb₁, e₁, k₁, hbase₁, hk₁, hmem⟩ := hm.base_of_mem_tail hw hk₂ hq
            have hbound : IsBound x e₁ n :=
              ⟨e₂, (hk₁.above_iff hw hx).2 ⟨q, hmem, _, hk₂⟩, hk₂.bound_of_attribute? hsome hattr⟩
            have hleft₁ := hsettled d .refl n habs hconc e hbase hleft e₁ hbase₁ hbound
            rw [← order_of_class? hk₁.there] at hmem
            exact hsame hb₁ hmem (ih b₁ (hm.below b₁ hb₁) hk₁ (hsettled.base hbase₁) hleft₁)

theorem settled_of_linear (h : x.Linear d) : Settled x d := by
  intro e he n _ _ b hb hleft b' hb' _
  rw [← h.eq_of_isBase he hb hb']
  exact hleft

/-- A class that is abstract when it runs is abstract in its source. Where abstract methods count, a
class that is abstract in its source is abstract when it runs if some name is found abstract first,
as it is where bases agree. -/
theorem abstract_marks_agree {modules : List Source.Module} {annotationNames : List String}
    {marking : Option Marking} {m : Machine}
    (hx : Index.make modules annotationNames = .ok x) (hsource : ∀ m ∈ modules, m.IsSource)
    (hapart : Apart x)
    (hprotocols : ∀ n ∈ Source.protocolBases, x.definitions.get? n = none)
    (hruns : Runs x (methods x) m.heap) (hp : m.heap.Depicts x p d)
    (hmarking : x.marking? d = .ok marking) (questions : List Question) (slot : String) :
    ∃ a b, (x.provider.get d.qualifiedName).answer
        (x.provider.after questions Index.Memory.empty) = .ok (some a) ∧
      m.describe slot (.class p) = .ok (some b) ∧ a.name = b.name ∧
      (b.isAbstract = true → a.isAbstract = true) ∧
      (Guarded x d → (b.isAbstract = true ↔
        a.isAbstract = true ∧ ∃ n, m.heap.FirstAbstract p n)) ∧
      (Guarded x d → Settled x d → a.isAbstract = b.isAbstract) := by
  have hkeyed := (Index.keyed_make hx).1
  have hw := hruns.wellMade
  obtain ⟨c, hm⟩ := hw.made_of_depicts hp
  obtain ⟨a, hanswer, ha⟩ := Index.described_of_definition hx hsource hm.depicts.lists hmarking
    (.inl hm.depicts.isClass) questions
  obtain ⟨hmodule, hqualname⟩ := Index.name_of_definition hx hsource hm.depicts.lists
    (.inl hm.depicts.isClass)
  obtain ⟨k, hk, hkmodule, hkqualname⟩ := hp.named
  obtain rfl := Option.some.inj (hk.symm.trans hm.there)
  obtain ⟨b, hb, hbname, hbabstract, -⟩ := Machine.describe_class slot hm.there
    (hkmodule ▸ hmodule) (hkqualname ▸ hqualname)
  have hlive : b.isAbstract = true ↔ ∃ n, n ∈ k.abstracts := by
    rw [hbabstract, Bool.not_eq_true', List.isEmpty_eq_false_iff_exists_mem]
  have hstatic : a.isAbstract = true ↔
      k.metaclass = Place.abstractMeta ∧ ∃ n, x.LeavesAbstract d n := by
    have hlists := hm.depicts.lists
    rw [ha.isAbstract_iff hkeyed hlists (hm.acyclic hw hapart),
      Index.usesAbstractBase_iff hkeyed hlists (Nat.le_refl _), hm.metaclass_iff hw hapart]
    have hmarks : (∃ e, x.Above d e ∧ x.marksAbstract e = true) ↔
        ∃ e, x.Above d e ∧ "abc.ABC" ∈ x.bases e := by
      refine exists_congr fun e => and_congr_right fun he => ?_
      obtain ⟨q, -, k', hk'⟩ := (hm.above_iff hw hapart).1 he
      exact marksAbstract_iff hk' hprotocols hk'.binds.keywords
    rw [hmarks]
    exact ⟨fun habs => habs.2, fun habs => ⟨hm.depicts.isClass, habs⟩⟩
  have hsound : b.isAbstract = true → a.isAbstract = true := by
    rw [hlive, hstatic]
    rintro ⟨n, hn⟩
    exact ⟨((hm.abstracts n).1 hn).1, n, hm.leavesAbstract hw hn⟩
  have hfound : Guarded x d → (b.isAbstract = true ↔ ∃ n, m.heap.FirstAbstract p n) := by
    intro hguarded
    rw [hlive]
    exact exists_congr fun n => hm.mem_abstracts_iff hw hapart hguarded
  refine ⟨a, b, hanswer, hb, ?_, hsound, fun hguarded => ?_, fun hguarded hsettled => ?_⟩
  · rw [hbname, ha.name_eq, hkmodule, hkqualname]
  · exact ⟨fun habs => ⟨hsound habs, (hfound hguarded).1 habs⟩,
      fun habs => (hfound hguarded).2 habs.2⟩
  · rw [Bool.eq_iff_iff]
    refine ⟨fun habs => ?_, hsound⟩
    obtain ⟨-, n, hn⟩ := hstatic.1 habs
    exact (hfound hguarded).2 ⟨n, hm.firstAbstract_of_settled hw hapart hkeyed hsettled hn⟩

/-! ### Class bodies as they are executed -/

theorem mem_foldl_methods
    {step : List String × List String → Source.Stmt → List String × List String}
    {marker : String} {body : List Source.Stmt} {ks : List Method} (hbody : Methods marker body ks)
    (hpass : ∀ acc, step acc .pass = acc)
    (hmethod : ∀ acc, ∀ k ∈ ks, step acc (k.statement marker) =
      if k.isAbstract then (k.name :: acc.1, acc.2) else (acc.1, k.name :: acc.2))
    (acc : List String × List String) :
    (n ∈ (body.foldl step acc).1 ↔
      n ∈ acc.1 ∨ ∃ k ∈ ks, k.isAbstract = true ∧ k.name = n) ∧
    (n ∈ (body.foldl step acc).2 ↔
      n ∈ acc.2 ∨ ∃ k ∈ ks, k.isAbstract = false ∧ k.name = n) := by
  induction hbody generalizing acc with
  | nil => simp
  | pass _ ih =>
    rw [List.foldl_cons, hpass]
    exact ih hmethod acc
  | @method body k ks _ _ ih =>
    have hrest := ih fun acc k' hk' => hmethod acc k' (List.mem_cons_of_mem k hk')
    rw [List.foldl_cons, hmethod acc k List.mem_cons_self]
    cases habs : k.isAbstract with
    | true =>
      rw [if_pos rfl, (hrest _).1, (hrest _).2]
      simp only [List.mem_cons, exists_eq_or_imp, habs, true_and, Bool.true_eq_false, false_and,
        false_or, @eq_comm _ n k.name]
      tauto
    | false =>
      rw [if_neg Bool.false_ne_true, (hrest _).1, (hrest _).2]
      simp only [List.mem_cons, exists_eq_or_imp, habs, true_and, Bool.false_eq_true, false_and,
        false_or, @eq_comm _ n k.name]
      tauto

theorem mem_ownMethods {module marker : String} {body : List Source.Stmt} {ks : List Method}
    (hbody : Methods marker body ks) (hmarker : (∃ k ∈ ks, k.isAbstract = true) →
      x.decoratorNames module [.name marker] = ["abc.abstractmethod"]) :
    (n ∈ (x.ownMethods module body).1 ↔ ∃ k ∈ ks, k.isAbstract = true ∧ k.name = n) ∧
    (n ∈ (x.ownMethods module body).2 ↔ ∃ k ∈ ks, k.isAbstract = false ∧ k.name = n) := by
  refine And.imp (fun h => h.trans (or_iff_right List.not_mem_nil))
    (fun h => h.trans (or_iff_right List.not_mem_nil)) (mem_foldl_methods hbody ?_ ?_ ([], []))
  · exact fun _ => rfl
  · intro acc k hk
    cases habs : k.isAbstract with
    | true =>
      have hname := hmarker ⟨k, hk, habs⟩
      simp [Method.statement, habs, hname, Source.abstractDecorators]
    | false => simp [Method.statement, habs, Index.decoratorNames]

theorem bindsMethods_of_bindsAll {m : Machine} {s : Surroundings} {name marker : String}
    {bases : List Source.Expr} {body : List Source.Stmt} {ks : List Method} {own : Names}
    (hs : IsStatement x m s d name bases body marker ks)
    (hmarker : (∃ k ∈ ks, k.isAbstract = true) →
      x.decoratorNames d.module [.name marker] = ["abc.abstractmethod"])
    (hmodule : ∀ e, x.Lists e → "__module__" ∉ x.ownAbstract e)
    (hall : BindsAll h ks (startingNamesOf m.heap s name) own) :
    (methods x).Binds h d (own.erase "__qualname__") := by
  have hbody : d.body = body := by
    rw [Definition.body, hs.parts]
  have habstract : ∀ n, n ∈ x.ownAbstract d ↔ ∃ k ∈ ks, k.isAbstract = true ∧ k.name = n := by
    intro n
    rw [Index.ownAbstract, hbody]
    exact (mem_ownMethods hs.methods hmarker).1
  have hconcrete : ∀ n, n ∈ x.ownConcrete d ↔ ∃ k ∈ ks, k.isAbstract = false ∧ k.name = n := by
    intro n
    rw [Index.ownConcrete, hbody]
    exact (mem_ownMethods hs.methods hmarker).2
  have hbound : ∀ k ∈ ks, ∃ o, (own.erase "__qualname__").get? k.name = some o ∧
      h.isAbstractMethod o = k.isAbstract := by
    intro k hk
    obtain ⟨p, f, ho, hf, -, habs⟩ := hall.get?_of_mem hs.distinct hk
    refine ⟨.function p, Ordered.get?_erase_eq_some_iff.2 ⟨fun hname => ?_, ho⟩, ?_⟩
    · exact hs.names k hk (by simp [hname])
    · rw [isAbstractMethod, hf]
      exact habs
  refine ⟨fun k hk => ?_, fun n => ?_, fun n hn => ?_, fun n o ho habs => ?_⟩
  · rw [hs.parts] at hk
    cases hk
    rfl
  · rw [habstract]
    constructor
    · rintro ⟨k, hk, habs, rfl⟩
      obtain ⟨o, ho, hsame⟩ := hbound k hk
      exact ⟨o, ho, hsame.trans habs⟩
    · rintro ⟨o, ho, habs⟩
      obtain ⟨-, ho⟩ := Ordered.get?_erase_eq_some_iff.1 ho
      rcases hall.get?_cases hs.distinct ho with ⟨k, hk, rfl, p, f, rfl, hf, -, hsame⟩ | ⟨-, ho⟩
      · rw [isAbstractMethod, hf] at habs
        exact ⟨k, hk, hsame.symm.trans habs, rfl⟩
      · rcases get?_startingNamesOf ho with ⟨-, rfl⟩ | ⟨-, rfl⟩
        · cases habs
        · cases habs
  · obtain ⟨k, hk, habs, rfl⟩ := (hconcrete n).1 hn
    obtain ⟨o, ho, hsame⟩ := hbound k hk
    exact ⟨o, ho, hsame.trans habs⟩
  · obtain ⟨hne, ho⟩ := Ordered.get?_erase_eq_some_iff.1 ho
    rcases hall.get?_cases hs.distinct ho with ⟨k, hk, rfl, p, f, rfl, hf, -, hsame⟩ | ⟨-, ho⟩
    · rw [isAbstractMethod, hf] at habs
      exact .inl ((hconcrete k.name).2 ⟨k, hk, hsame.symm.trans habs, rfl⟩)
    · rcases get?_startingNamesOf ho with ⟨rfl, -⟩ | ⟨rfl, -⟩
      · exact .inr hmodule
      · exact absurd rfl hne

/-- A module whose classes have methods is a run of its class statements when it has run, as far as
abstract methods go. -/
theorem runs_methods {name : String} {body : List Source.Stmt} {all : List String}
    (files : FileTree) (searched : List String) (hname : name ≠ "builtins")
    (hmodule : ∀ e, x.Lists e → "__module__" ∉ x.ownAbstract e)
    (hlines : Lines x (fun known d body => ∃ marker ks, MethodBody x known d body marker ks) name
      startingKnown [] body all)
    (hok : ((runModule name body).run (Machine.start files searched)).1.isOk = true) :
    let m := ((runModule name body).run (Machine.start files searched)).2
    Runs x (methods x) m.heap ∧ m.heap.Follows x all := by
  refine (runs_methodModule files searched hname ?_ hlines).of_isOk hok
  rintro known d body ⟨marker, ks, hbody⟩
  exact ⟨marker, ks, hbody, fun hs hall =>
    bindsMethods_of_bindsAll hs (fun habs => (hbody.marker habs).2.2) hmodule hall⟩

/-! ### A concrete method in front of an abstract one -/

/-- The method of the module. -/
def mixedMethod (line start : Nat) (isAbstract : Bool) : Method :=
  ⟨line, start, "f", .mk [] [.mk "self" none none] none [] none, isAbstract, [.pass]⟩

/-- Two unrelated classes with a method of the same name, which is abstract in the second one, a
class below both and a class below the second one. -/
def mixedBody : List Source.Stmt :=
  [.importFrom (some "abc") [⟨"ABC", none⟩, ⟨"abstractmethod", none⟩] 0,
   .classDef 2 2 "Mixin" [] [] [] [(mixedMethod 3 3 false).statement ""],
   .classDef 4 4 "Base" [.name "ABC"] [] [] [(mixedMethod 6 5 true).statement "abstractmethod"],
   .classDef 7 7 "D" [.name "Mixin", .name "Base"] [] [] [.pass],
   .classDef 8 8 "E" [.name "Base"] [] [] [.pass]]

def mixedModule : Source.Module :=
  Source.Module.make "m" (Path.ofText "m.py") mixedBody

def mixedIndex : Index :=
  (Index.make [mixedModule] []).toOption.getD ⟨Ordered.empty, Ordered.empty, []⟩

theorem mixed_source : ∀ m ∈ [mixedModule], m.IsSource := by
  intro m hm
  obtain rfl := List.mem_singleton.1 hm
  refine ⟨⟨_, _, _, rfl⟩, rfl, ?_⟩
  decide

theorem isPlain_mixedMethod (line start : Nat) (isAbstract : Bool) :
    (mixedMethod line start isAbstract).IsPlain := by
  intro p hp
  obtain rfl := List.mem_singleton.1 hp
  rfl

/-- Each line of the module is an import or a class with methods below earlier ones. -/
theorem mixed_lines : Lines mixedIndex
    (fun known d body => ∃ marker ks, MethodBody mixedIndex known d body marker ks) "m"
    startingKnown [] mixedBody ["m.Mixin", "m.Base", "m.D", "m.E"] := by
  have habstract : libraryObject? "abc" "ABC" = some (.class (placeOf "ABC")) := rfl
  have hmethod : libraryObject? "abc" "abstractmethod" = some (.tool .abstractMethod) := rfl
  refine .imports (by decide) (by decide) (.cons (by decide) (by decide) habstract
    (.cons (by decide) (by decide) hmethod .nil)) ?_
  have hmixin : (mixedMethod 3 3 false).IsPlain := isPlain_mixedMethod 3 3 false
  have hbase : (mixedMethod 6 5 true).IsPlain := isPlain_mixedMethod 6 5 true
  refine .classDef rfl rfl (by decide) rfl .nil
    ⟨"", _, .concrete rfl (.method hmixin .nil) (by decide) (by decide) (by decide)⟩ ?_
  refine .classDef rfl rfl (by decide) rfl (.cons ⟨"ABC", _, rfl, rfl, rfl⟩ .nil)
    ⟨"abstractmethod", _, rfl, .method hbase .nil, by decide, by decide,
      fun _ => ⟨rfl, by decide, rfl⟩⟩ ?_
  refine .classDef rfl rfl (by decide) rfl
    (.cons ⟨"Mixin", _, rfl, rfl, standsFor_made rfl⟩
      (.cons ⟨"Base", _, rfl, rfl, standsFor_made rfl⟩ .nil))
    ⟨_, _, .concrete rfl (.pass .nil) .nil (by decide) (by decide)⟩ ?_
  exact .classDef rfl rfl (by decide) rfl
    (.cons ⟨"Base", _, rfl, rfl, standsFor_made rfl⟩ .nil)
    ⟨_, _, .concrete rfl (.pass .nil) .nil (by decide) (by decide)⟩ .nil

/-- The machine after the module has run. -/
def mixedMachine : Machine :=
  ((runModule "m" mixedBody).run (Machine.start FileTree.empty [])).2

theorem mixed_runs : Runs mixedIndex (methods mixedIndex) mixedMachine.heap ∧
    mixedMachine.heap.Follows mixedIndex ["m.Mixin", "m.Base", "m.D", "m.E"] := by
  have hmodule : ∀ e, mixedIndex.Lists e → "__module__" ∉ mixedIndex.ownAbstract e := by
    have hall : ∀ e ∈ mixedIndex.definitions.values,
        "__module__" ∉ mixedIndex.ownAbstract e := by
      decide +kernel
    exact fun e he => hall e (List.mem_map_of_mem ((Ordered.get?_eq_some_iff ..).1 he))
  have hok : ((runModule "m" mixedBody).run (Machine.start FileTree.empty [])).1.isOk = true := by
    decide +kernel
  unfold mixedMachine
  exact runs_methods FileTree.empty [] (by decide) hmodule mixed_lines hok

/-- The class that inherits the abstract method of its only base is abstract on both sides. -/
theorem mixed_heir_agrees :
    Index.make [mixedModule] [] = .ok mixedIndex ∧ (∀ m ∈ [mixedModule], m.IsSource) ∧
    Runs mixedIndex (methods mixedIndex) mixedMachine.heap ∧
    ∃ a b, (mixedIndex.provider.get "m.E").answer
        (mixedIndex.provider.after [.get "m.D"] Index.Memory.empty) = .ok (some a) ∧
      mixedMachine.describe Marker.standardAttribute (.class (librarySize + 3)) = .ok (some b) ∧
      a.name = b.name ∧ a.isAbstract = true ∧ b.isAbstract = true := by
  obtain ⟨hruns, hfollows⟩ := mixed_runs
  obtain ⟨d, hp, hname⟩ := hfollows.depicts 3 "m.E" rfl
  have hd : mixedIndex.definitions.get? "m.E" = some d := hname ▸ hp.lists
  have hfacts : (mixedIndex.definitions.get? "m.E").map (fun d =>
      ((mixedIndex.knownBases d).map fun b => (mixedIndex.knownBases b, mixedIndex.bases b),
        mixedIndex.ownAbstract d, (mixedIndex.marking? d).toOption.isSome)) =
      some ([([], ["abc.ABC"])], [], true) := by rfl
  simp only [hd, Option.map_some, Option.some.injEq, Prod.mk.injEq,
    List.map_eq_singleton_iff] at hfacts
  obtain ⟨⟨base, hknown, hnone, habc⟩, hown, hmarked⟩ := hfacts
  have hguarded : Guarded mixedIndex d := by
    intro e he habs
    rcases Index.eq_or_eq_of_above hknown hnone he with rfl | rfl
    · exact absurd hown habs
    · exact ⟨e, .refl, habc ▸ List.mem_singleton_self _⟩
  have hsettled : Settled mixedIndex d :=
    settled_of_linear (Index.linear_of_bases hknown hnone)
  cases hmarking : mixedIndex.marking? d with
  | error f =>
    rw [hmarking] at hmarked
    cases hmarked
  | ok marking =>
    have hmake : Index.make [mixedModule] [] = .ok mixedIndex := rfl
    obtain ⟨a, b, ha, hb, hnames, -, -, hagree⟩ := abstract_marks_agree (m := mixedMachine) hmake
      mixed_source ⟨rfl, rfl⟩ (by decide) hruns hp hmarking [.get "m.D"] Marker.standardAttribute
    rw [hname] at ha
    have hmarks : ((mixedIndex.provider.get "m.E").answer
        (mixedIndex.provider.after [.get "m.D"] Index.Memory.empty)).map
        (Option.map Declaration.isAbstract) = .ok (some true) := by rfl
    rw [ha] at hmarks
    have habstract : a.isAbstract = true := Option.some.inj (Except.ok.inj hmarks)
    exact ⟨hmake, mixed_source, hruns, a, b, ha, hb, hnames, habstract,
      (hagree hguarded hsettled).symm.trans habstract⟩

/-- The class with two bases is abstract in its source. When its module has run it is not: the method
that is found first is the concrete one. -/
theorem mixed_marks_differ :
    Index.make [mixedModule] [] = .ok mixedIndex ∧
    ((mixedIndex.provider.get "m.D").answer Index.Memory.empty).map
      (Option.map Declaration.isAbstract) = .ok (some true) ∧
    let m := ((runModule "m" mixedBody).run (Machine.start FileTree.empty [])).2
    (((provider Marker.standardAttribute ["m"]).get "m.D").answer
      ⟨m, Ordered.empty⟩).toOption.map (Option.map Declaration.isAbstract) = some (some false) := by
  refine ⟨rfl, rfl, ?_⟩
  decide +kernel

end Heap

end Foundry.Live
