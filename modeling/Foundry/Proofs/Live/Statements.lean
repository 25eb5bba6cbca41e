import Foundry.Proofs.Live.Classes

/-!
Runs of class statements: each makes a class of a definition of an index, above the classes that the
names of its bases stand for.
-/

namespace Foundry.Live

open Foundry.Source (Index Definition)

/-- What a class statement may bind in its class, on the heap it is run on; more objects on the heap
change nothing about it. -/
structure BodyReading where
  Binds : Heap → Definition → Names → Prop
  stable : ∀ {h h' : Heap} {d : Definition} {own : Names}, h.Extends h' →
    (∀ n o, own.get? n = some o → h.holds o = true) → Binds h d own → Binds h' d own

namespace Heap

variable {x : Index} {r : BodyReading} {h h' : Heap} {p q : Nat} {d e : Definition} {c : Class}

def librarySize : Nat :=
  libraryHeap.classes.size

/-- A class was made of a definition of the index. -/
structure Depicts (x : Index) (h : Heap) (p : Nat) (d : Definition) : Prop where
  after : librarySize ≤ p
  lists : x.Lists d
  isClass : d.parts.isSome = true
  named : ∃ c, h.class? p = some c ∧ c.module = d.module ∧ c.qualname = d.qualname

theorem Depicts.unique (hd : h.Depicts x p d) (he : h.Depicts x p e) : d = e := by
  obtain ⟨c, hc, hmodule, hqualname⟩ := hd.named
  obtain ⟨c', hc', hmodule', hqualname'⟩ := he.named
  obtain rfl := Option.some.inj (hc.symm.trans hc')
  refine hd.lists.eq_of_name he.lists ?_
  unfold Definition.qualifiedName
  rw [← hmodule, ← hqualname, hmodule', hqualname']

/-- What the name of a base stands for: the common ancestor, the abstract base, or a class that was
made of the definition under this name. -/
inductive Stands (x : Index) (h : Heap) : String → Nat → Prop
  | object : Stands x h "builtins.object" Place.object
  | abstractBase : Stands x h "abc.ABC" (placeOf "ABC")
  | made {p : Nat} {d : Definition} : h.Depicts x p d → Stands x h d.qualifiedName p

/-- Heaps that class statements lead to, each of which is run once. Between them anything may be
added but classes, and what decorators add to a class counts among the names its body binds. -/
inductive Runs (x : Index) (r : BodyReading) : Heap → Prop
  | library : Runs x r libraryHeap
  | other {h h' : Heap} : Runs x r h → h.Extends h' → h'.classes = h.classes → Runs x r h'
  | statement {h h' : Heap} {d : Definition} {name : String} {written : List Nat} {own : Names}
      {metaclass p : Nat} : Runs x r h → x.Lists d → d.parts.isSome = true →
    (∀ q, ¬h.Depicts x q d) → List.Forall₂ (h.Stands x) (x.bases d) written →
    (∀ n o, own.get? n = some o → h.holds o = true) → r.Binds h d own →
    h.prepareClass name written none = .ok metaclass →
    h.makeClass d.module d.qualname written metaclass own false = .ok (p, h') → Runs x r h'

/-! ### Growing heaps -/

theorem Depicts.extends (hd : h.Depicts x p d) (hx : h.Extends h') : h'.Depicts x p d := by
  obtain ⟨c, hc, hnamed⟩ := hd.named
  exact ⟨hd.after, hd.lists, hd.isClass, c, hx.classes p c hc, hnamed⟩

theorem Stands.extends {n : String} (hs : h.Stands x n p) (hx : h.Extends h') :
    h'.Stands x n p := by
  cases hs with
  | object => exact .object
  | abstractBase => exact .abstractBase
  | made hd => exact .made (hd.extends hx)

/-- A class that can stand above a made one. -/
inductive Ancestral (h : Heap) : Nat → Prop
  | object : Ancestral h Place.object
  | abstractBase : Ancestral h (placeOf "ABC")
  | made {p : Nat} {c : Class} : librarySize ≤ p → h.class? p = some c → Ancestral h p

theorem Stands.ancestral {n : String} (hs : h.Stands x n p) : h.Ancestral p := by
  cases hs with
  | object => exact .object
  | abstractBase => exact .abstractBase
  | made hd =>
    obtain ⟨c, hc, -⟩ := hd.named
    exact .made hd.after hc

theorem Ancestral.exists (hp : h.Ancestral p) (hlib : libraryHeap.Extends h) :
    ∃ c, h.class? p = some c := by
  cases hp with
  | object =>
    obtain ⟨c, hc, -⟩ := Option.map_eq_some_iff.1 (outlined_object hlib).metaclass
    exact ⟨c, hc⟩
  | abstractBase =>
    obtain ⟨c, hc, -⟩ := Option.map_eq_some_iff.1 (outlined_abstractBase hlib).metaclass
    exact ⟨c, hc⟩
  | made _ hc => exact ⟨_, hc⟩

/-- Besides the made classes, `object` alone binds a name. -/
theorem Ancestral.object_or_made {n : String} {o : Object} (hq : h.Ancestral q)
    (hlib : libraryHeap.Extends h) (hattr : h.attribute? q n = some o) :
    (q = Place.object ∧ ∃ kind, o = .thing kind) ∨
      (librarySize ≤ q ∧ ∃ c, h.class? q = some c) := by
  cases hq with
  | object => exact .inl ⟨rfl, (outlined_object hlib).things n o hattr⟩
  | abstractBase =>
    have hnames := (outlined_abstractBase hlib).names n
    rw [hattr] at hnames
    exact absurd (hnames.1 rfl) List.not_mem_nil
  | made hafter hc => exact .inr ⟨hafter, _, hc⟩

theorem library_lt : Place.object < librarySize ∧ placeOf "ABC" < librarySize ∧
    (∀ p ∈ protocols, p < librarySize ∧ p ≠ Place.object ∧ p ≠ placeOf "ABC") ∧
    Place.type ≠ Place.abstractMeta ∧ Place.object ≠ placeOf "ABC" ∧
    Place.enumMeta ∉ [Place.abstractMeta, Place.type, Place.object] := by
  decide +kernel

theorem Ancestral.notMem_protocols (hp : h.Ancestral p) : p ∉ protocols := by
  intro hmem
  obtain ⟨-, -, hprotocols, -⟩ := library_lt
  obtain ⟨hlt, hobject, habstract⟩ := hprotocols p hmem
  cases hp with
  | object => exact hobject rfl
  | abstractBase => exact habstract rfl
  | made hge _ => omega

/-! ### Metaclasses -/

/-- The metaclass of a class that is there. -/
def metaclassAt (h : Heap) (p : Nat) : Nat :=
  ((h.class? p).map Class.metaclass).getD Place.type

/-- The metaclass below those of all bases, where there are two metaclasses only. -/
def commonMetaclass (h : Heap) (start : Nat) (bases : List Nat) : Nat :=
  if start = Place.abstractMeta ∨ ∃ b ∈ bases, h.metaclassAt b = Place.abstractMeta then
    Place.abstractMeta
  else Place.type

theorem metaclassOf_eq (hlib : libraryHeap.Extends h) {start : Nat} {bases : List Nat}
    (hstart : start = Place.type ∨ start = Place.abstractMeta)
    (hbases : ∀ b ∈ bases, h.metaclassAt b = Place.type ∨ h.metaclassAt b = Place.abstractMeta) :
    h.metaclassOf start bases = .ok (h.commonMetaclass start bases) := by
  obtain ⟨-, -, -, hne, -, -⟩ := library_lt
  have hobject : Place.abstractMeta ≠ Place.object := by decide +kernel
  have hself : h.derives Place.type Place.type = true := by
    simp [derives, (outlined_type hlib).order]
  have hup : h.derives Place.type Place.abstractMeta = false := by
    simp [derives, (outlined_type hlib).order, hne.symm, hobject]
  have hdown : h.derives Place.abstractMeta Place.type = true := by
    simp [derives, (outlined_abstractMeta hlib).order]
  have hmeta : h.derives Place.abstractMeta Place.abstractMeta = true := by
    simp [derives, (outlined_abstractMeta hlib).order]
  induction bases generalizing start with
  | nil =>
    have hnil : h.metaclassOf start [] = .ok start := rfl
    rw [hnil]
    rcases hstart with rfl | rfl
    · simp [commonMetaclass, hne]
    · simp [commonMetaclass]
  | cons b bases ih =>
    have hrest : ∀ w, w = Place.type ∨ w = Place.abstractMeta →
        h.metaclassOf w bases = .ok (h.commonMetaclass w bases) :=
      fun w hw => ih hw fun b' hb' => hbases b' (List.mem_cons_of_mem b hb')
    have hb := hbases b List.mem_cons_self
    have hcons : h.metaclassOf start (b :: bases) =
        (if h.derives start (h.metaclassAt b) = true then Except.ok start
          else if h.derives (h.metaclassAt b) start = true then .ok (h.metaclassAt b)
          else .error (typeFault
            ("metaclass conflict: the metaclass of a derived class must be a " ++
              "(non-strict) subclass of the metaclasses of all its bases"))).bind
          fun w => h.metaclassOf w bases := rfl
    rw [hcons]
    rcases hstart with rfl | rfl
    · rcases hb with hb | hb
      · rw [hb, hself, if_pos rfl]
        refine (hrest _ (.inl rfl)).trans ?_
        simp [commonMetaclass, hb, hne]
      · rw [hb, hup, hdown, if_neg Bool.false_ne_true, if_pos rfl]
        refine (hrest _ (.inr rfl)).trans ?_
        simp [commonMetaclass, hb]
    · rcases hb with hb | hb
      · rw [hb, hdown, if_pos rfl]
        refine (hrest _ (.inr rfl)).trans ?_
        simp [commonMetaclass]
      · rw [hb, hmeta, if_pos rfl]
        refine (hrest _ (.inr rfl)).trans ?_
        simp [commonMetaclass]

/-! ### Names left abstract -/

/-- A name is left abstract: its class binds it to an abstract method, or some base leaves it
abstract, the class does not bind it, and it is still found abstract first behind the class. -/
inductive LeavesAbstract (h : Heap) (order bases : List Nat) (own : Names) (n : String) : Prop
  | own {o : Object} : own.get? n = some o → h.isAbstractMethod o = true →
    LeavesAbstract h order bases own n
  | inherited {b q : Nat} {c : Class} {o : Object} : own.get? n = none → b ∈ bases →
    h.class? b = some c → n ∈ c.abstracts → h.findIn order.tail n = some (q, o) →
    h.isAbstractMethod o = true → LeavesAbstract h order bases own n

theorem mem_abstractNames {order bases : List Nat} {own : Names} {n : String} :
    n ∈ h.abstractNames order bases own ↔ h.LeavesAbstract order bases own n := by
  have hmine : ∀ m, m ∈ (own.entries.filter fun e => h.isAbstractMethod e.2).map (·.1) ↔
      ∃ o, own.get? m = some o ∧ h.isAbstractMethod o = true := by
    intro m
    simp [List.mem_map, List.mem_filter, Ordered.get?_eq_some_iff]
  have hinherited : n ∈ bases.flatMap (fun b => ((h.class? b).map Class.abstracts).getD []) ↔
      ∃ b ∈ bases, ∃ c, h.class? b = some c ∧ n ∈ c.abstracts := by
    rw [List.mem_flatMap]
    refine exists_congr fun b => and_congr_right fun _ => ?_
    cases h.class? b with
    | none => simp
    | some c => simp
  unfold abstractNames
  dsimp only
  rw [List.mem_append, List.mem_filter, hmine, hinherited]
  constructor
  · rintro (⟨o, ho, habs⟩ | ⟨⟨b, hb, c, hc, hn⟩, hkept⟩)
    · exact .own ho habs
    · rw [Bool.and_eq_true, Bool.not_eq_true', ← Bool.not_eq_true, List.contains_iff_mem,
        hmine] at hkept
      obtain ⟨hnew, hfound⟩ := hkept
      cases hown : own.get? n with
      | some o =>
        rw [hown] at hfound
        exact absurd ⟨o, hown, hfound⟩ hnew
      | none =>
        rw [hown] at hfound
        cases hfind : h.findIn order.tail n with
        | none =>
          rw [hfind] at hfound
          cases hfound
        | some e =>
          rw [hfind] at hfound
          exact .inherited hown hb hc hn hfind hfound
  · rintro (⟨ho, habs⟩ | ⟨hown, hb, hc, hn, hfind, habs⟩)
    · exact .inl ⟨_, ho, habs⟩
    · refine .inr ⟨⟨_, hb, _, hc, hn⟩, ?_⟩
      rw [Bool.and_eq_true, Bool.not_eq_true', ← Bool.not_eq_true, List.contains_iff_mem, hmine,
        hown, hfind]
      refine ⟨?_, habs⟩
      rintro ⟨o, ho, -⟩
      cases ho

/-- The class is there, and so are the objects it binds. -/
def Complete (h : Heap) (p : Nat) : Prop :=
  ∃ c, h.class? p = some c ∧ ∀ n o, c.attributes.get? n = some o → h.holds o = true

theorem Complete.holds {n : String} {o : Object} (hp : h.Complete p)
    (ho : h.attribute? p n = some o) : h.holds o = true := by
  obtain ⟨c, hc, hheld⟩ := hp
  rw [attribute?, hc] at ho
  exact hheld n o ho

theorem Extends.leavesAbstract_iff {order bases : List Nat} {own : Names} {n : String}
    (hx : h.Extends h') (hown : ∀ n o, own.get? n = some o → h.holds o = true)
    (hbases : ∀ b ∈ bases, ∃ c, h.class? b = some c) (horder : ∀ q ∈ order.tail, h.Complete q) :
    h'.LeavesAbstract order bases own n ↔ h.LeavesAbstract order bases own n := by
  have hfound : h'.findIn order.tail n = h.findIn order.tail n := by
    refine hx.findIn fun q hq => ?_
    obtain ⟨c, hc, -⟩ := horder q hq
    exact ⟨c, hc⟩
  have habstract : ∀ q o, h.findIn order.tail n = some (q, o) →
      h'.isAbstractMethod o = h.isAbstractMethod o := by
    intro q o hfind
    rw [findIn_eq_some_iff] at hfind
    exact hx.isAbstractMethod o ((horder q (List.mem_of_find?_eq_some hfind.1)).holds hfind.2)
  constructor
  · rintro (⟨ho, habs⟩ | ⟨hnone, hb, hc, hn, hfind, habs⟩)
    · exact .own ho (hx.isAbstractMethod _ (hown n _ ho) ▸ habs)
    · obtain ⟨c, hc'⟩ := hbases _ hb
      obtain rfl := Option.some.inj (hc.symm.trans (hx.classes _ c hc'))
      rw [hfound] at hfind
      exact .inherited hnone hb hc' hn hfind (habstract _ _ hfind ▸ habs)
  · rintro (⟨ho, habs⟩ | ⟨hnone, hb, hc, hn, hfind, habs⟩)
    · exact .own ho ((hx.isAbstractMethod _ (hown n _ ho)).trans habs)
    · exact .inherited hnone hb (hx.classes _ _ hc) hn (hfound.trans hfind)
        ((habstract _ _ hfind).trans habs)

end Heap

end Foundry.Live
