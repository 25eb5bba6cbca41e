import Foundry.Proofs.Live.Order
import Foundry.Proofs.Ordered
import Foundry.Proofs.Source.Hierarchy

/-!
Classes as class statements make them: heaps that only grow, what the library brings along, and how
the classes on a heap stand to the definitions of an index.
-/

namespace Foundry.Live

open Foundry.Source (Index Definition)

namespace Heap

variable {h h' : Heap} {p : Nat} {n : String} {o : Object}

/-! ### Heaps that grow -/

/-- What is on the first heap is on the second one as it was. -/
structure Extends (h h' : Heap) : Prop where
  classes : ∀ p c, h.class? p = some c → h'.class? p = some c
  functions : ∀ p f, h.function? p = some f → h'.function? p = some f

theorem Extends.refl (h : Heap) : h.Extends h :=
  ⟨fun _ _ hc => hc, fun _ _ hf => hf⟩

theorem Extends.trans {h'' : Heap} (hx : h.Extends h') (hy : h'.Extends h'') : h.Extends h'' :=
  ⟨fun p c hc => hy.classes p c (hx.classes p c hc),
    fun p f hf => hy.functions p f (hx.functions p f hf)⟩

theorem extends_addClass (h : Heap) (c : Class) : h.Extends (h.addClass c).2 := by
  refine ⟨fun p d hd => ?_, fun _ _ hf => hf⟩
  have hlt : p < h.classes.size := (Array.getElem?_eq_some_iff.1 hd).1
  unfold class? addClass
  rw [Array.getElem?_push, if_neg (Nat.ne_of_lt hlt)]
  exact hd

theorem class?_addClass (h : Heap) (c : Class) :
    (h.addClass c).2.class? h.classes.size = some c := by
  unfold class? addClass
  rw [Array.getElem?_push, if_pos rfl]

theorem lt_of_class? {c : Class} (hc : h.class? p = some c) : p < h.classes.size :=
  (Array.getElem?_eq_some_iff.1 hc).1

theorem Extends.size_le (hx : h.Extends h') : h.classes.size ≤ h'.classes.size := by
  by_contra hlt
  obtain ⟨c, hc⟩ : ∃ c, h.class? h'.classes.size = some c :=
    ⟨_, Array.getElem?_eq_getElem (Nat.lt_of_not_le hlt)⟩
  exact Nat.lt_irrefl _ (lt_of_class? (hx.classes _ _ hc))

/-- The functions an object is made of are on the heap. -/
def holds (h : Heap) : Object → Bool
  | .function p => (h.function? p).isSome
  | .wrapped _ inner => holds h inner
  | _ => true

theorem Extends.isAbstractMethod (hx : h.Extends h') : (o : Object) → h.holds o = true →
    h'.isAbstractMethod o = h.isAbstractMethod o
  | .function p, ho => by
    obtain ⟨f, hf⟩ := Option.isSome_iff_exists.1 ho
    simp only [Heap.isAbstractMethod, hf, hx.functions p f hf]
  | .wrapped kind inner, ho => by
    simp only [Heap.isAbstractMethod, hx.isAbstractMethod inner ho]
  | .value _, _ => rfl
  | .tuple _, _ => rfl
  | .class _, _ => rfl
  | .module _, _ => rfl
  | .tool _, _ => rfl
  | .subscripted _, _ => rfl
  | .mark _, _ => rfl
  | .field _, _ => rfl
  | .hints _, _ => rfl
  | .fault _ _, _ => rfl
  | .thing _, _ => rfl

/-! ### Attributes in an order -/

/-- An attribute written in the class itself. -/
def attribute? (h : Heap) (p : Nat) (n : String) : Option Object :=
  (h.class? p).bind fun c => c.attributes.get? n

theorem has_eq (h : Heap) (n : String) (p : Nat) : h.has n p = (h.attribute? p n).isSome := by
  unfold has attribute?
  cases h.class? p with
  | none => rfl
  | some c => rfl

theorem findIn_cons (h : Heap) (p : Nat) (rest : List Nat) (n : String) :
    h.findIn (p :: rest) n =
      ((h.attribute? p n).map fun o => (p, o)).or (h.findIn rest n) := by
  unfold findIn attribute?
  rw [List.findSome?_cons]
  cases h.class? p with
  | none => rfl
  | some c =>
    simp only [Option.bind_some]
    cases c.attributes.get? n with
    | none => rfl
    | some o => rfl

theorem findIn_eq_some_iff {order : List Nat} {q : Nat} :
    h.findIn order n = some (q, o) ↔
      order.find? (h.has n) = some q ∧ h.attribute? q n = some o := by
  induction order with
  | nil => simp [findIn]
  | cons p rest ih =>
    rw [findIn_cons, List.find?_cons, has_eq]
    cases hattr : h.attribute? p n with
    | none => simpa using ih
    | some a =>
      simp only [Option.map_some, Option.isSome_some, Option.some_or, Option.some.injEq,
        Prod.mk.injEq]
      constructor
      · rintro ⟨rfl, rfl⟩
        exact ⟨rfl, hattr⟩
      · rintro ⟨rfl, ha⟩
        exact ⟨rfl, Option.some.inj (hattr.symm.trans ha)⟩

theorem findIn_eq_none_iff {order : List Nat} :
    h.findIn order n = none ↔ ∀ q ∈ order, h.attribute? q n = none := by
  simp only [findIn, List.findSome?_eq_none_iff, Option.bind_eq_none_iff, Option.map_eq_none_iff,
    attribute?]

theorem findIn_of_sublist {order part : List Nat} {q : Nat} (hsub : part.Sublist order)
    (hnodup : order.Nodup) (hfind : h.findIn order n = some (q, o)) (hq : q ∈ part) :
    h.findIn part n = some (q, o) := by
  rw [findIn_eq_some_iff] at hfind ⊢
  exact ⟨find?_of_sublist hsub hnodup hfind.1 hq, hfind.2⟩

theorem Extends.findIn {order : List Nat} (hx : h.Extends h')
    (hthere : ∀ q ∈ order, ∃ c, h.class? q = some c) :
    h'.findIn order n = h.findIn order n := by
  induction order with
  | nil => rfl
  | cons p rest ih =>
    obtain ⟨c, hc⟩ := hthere p List.mem_cons_self
    have hrest := ih fun q hq => hthere q (List.mem_cons_of_mem p hq)
    rw [findIn_cons, findIn_cons, hrest, attribute?, attribute?, hc, hx.classes p c hc]

/-! ### What the library brings along -/

def isThing : Object → Bool
  | .thing _ => true
  | _ => false

/-- What the classes of the library tell of themselves. -/
structure Outline where
  order : List Nat
  metaclass : Nat
  abstracts : List String
  names : List String
  /-- Nothing of the class was written as a function. -/
  isThings : Bool
deriving DecidableEq

def outline (c : Class) : Outline :=
  ⟨c.order, c.metaclass, c.abstracts, c.attributes.keys, c.attributes.values.all isThing⟩

theorem outlines_library :
    [Place.object, placeOf "ABC", Place.type, Place.abstractMeta].map
        (fun p => (libraryHeap.class? p).map outline) =
      [some ⟨[Place.object], Place.type, [], ["__init__", "__new__"], true⟩,
       some ⟨[placeOf "ABC", Place.object], Place.abstractMeta, [], [], true⟩,
       some ⟨[Place.type, Place.object], Place.type, [], ["__init__", "__new__"], true⟩,
       some ⟨[Place.abstractMeta, Place.type, Place.object], Place.type, [], [], true⟩] := by
  decide +kernel

/-- A class of the library as it is outlined. -/
structure Outlined (h : Heap) (p : Nat) (order : List Nat) (metaclass : Nat)
    (names : List String) : Prop where
  order : h.order p = order
  metaclass : (h.class? p).map Class.metaclass = some metaclass
  abstracts : (h.class? p).map Class.abstracts = some []
  names : ∀ n, (h.attribute? p n).isSome = true ↔ n ∈ names
  things : ∀ n o, h.attribute? p n = some o → ∃ kind, o = .thing kind

theorem outlined_of_outline {order : List Nat} {metaclass : Nat} {names : List String}
    (hlib : libraryHeap.Extends h)
    (hp : (libraryHeap.class? p).map outline = some ⟨order, metaclass, [], names, true⟩) :
    h.Outlined p order metaclass names := by
  obtain ⟨c, hc, houtline⟩ := Option.map_eq_some_iff.1 hp
  have hc := hlib.classes p c hc
  simp only [outline, Outline.mk.injEq] at houtline
  obtain ⟨rfl, rfl, habstracts, rfl, hthings⟩ := houtline
  have hattr : ∀ n, h.attribute? p n = c.attributes.get? n := by
    intro n
    rw [attribute?, hc]
    rfl
  refine ⟨?_, ?_, ?_, fun n => ?_, fun n o ho => ?_⟩
  · rw [Heap.order, hc]
  · rw [hc]
    rfl
  · rw [hc, Option.map_some, habstracts]
  · rw [hattr, Ordered.isSome_get?_iff]
  · rw [hattr, Ordered.get?_eq_some_iff] at ho
    have hthing := List.all_eq_true.1 hthings o (List.mem_map_of_mem ho)
    cases o with
    | thing kind => exact ⟨kind, rfl⟩
    | _ => cases hthing

theorem outlined_object (hlib : libraryHeap.Extends h) :
    h.Outlined Place.object [Place.object] Place.type ["__init__", "__new__"] :=
  outlined_of_outline hlib (List.cons.inj outlines_library).1

theorem outlined_abstractBase (hlib : libraryHeap.Extends h) :
    h.Outlined (placeOf "ABC") [placeOf "ABC", Place.object] Place.abstractMeta [] :=
  outlined_of_outline hlib (List.cons.inj (List.cons.inj outlines_library).2).1

theorem outlined_type (hlib : libraryHeap.Extends h) :
    h.Outlined Place.type [Place.type, Place.object] Place.type ["__init__", "__new__"] :=
  outlined_of_outline hlib (List.cons.inj (List.cons.inj (List.cons.inj outlines_library).2).2).1

theorem outlined_abstractMeta (hlib : libraryHeap.Extends h) :
    h.Outlined Place.abstractMeta [Place.abstractMeta, Place.type, Place.object] Place.type [] :=
  outlined_of_outline hlib
    (List.cons.inj (List.cons.inj (List.cons.inj (List.cons.inj outlines_library).2).2).2).1

/-! ### Making a class -/

theorem linearize_of_orderOf {bases order : List Nat} (h' : h.orderOf bases = .ok order) :
    linearize h.classes.size bases h.order = .ok order := by
  unfold orderOf at h'
  split at h'
  · cases h'
  · split at h'
    · rename_i found hfound
      rw [hfound, Except.ok.inj h']
    · cases h'

/-- What stands for the bases of a class statement. -/
def basesFor (written : List Nat) : List Nat :=
  if written.isEmpty then [Place.object] else written

/-- The class that a class statement makes that is neither an interface nor an enumeration. -/
def plainClass (h : Heap) (module qualname : String) (bases : List Nat) (metaclass : Nat)
    (own : Names) (order : List Nat) (layout : Nat) : Class where
  module := module
  qualname := qualname
  bases := bases
  order := order
  metaclass := metaclass
  attributes := own
  abstracts := if h.tracksAbstracts metaclass = true then h.abstractNames order bases own else []
  isProtocol := false
  fields := none
  members := []
  isFixed := false
  isFinal := false
  layout := layout

theorem makeClass_eq {module qualname : String} {written : List Nat} {metaclass : Nat}
    {own : Names} (hprotocols : ∀ b ∈ written, b ∉ protocols)
    (henum : h.derives metaclass Place.enumMeta = false) :
    h.makeClass module qualname written metaclass own false =
      (h.layoutOf (basesFor written)).bind fun layout =>
        (h.orderOf (basesFor written)).map fun order =>
          h.addClass (h.plainClass module qualname (basesFor written) metaclass own order layout) := by
  have hplain : (basesFor written).any protocols.contains = false := by
    rw [List.any_eq_false]
    intro b hb
    rw [List.contains_iff_mem]
    unfold basesFor at hb
    split at hb
    · rw [List.mem_singleton.1 hb]
      decide +kernel
    · exact hprotocols b hb
  have hnames : ∀ rename : String × Object → String × Object, (∀ n o, rename (n, o) = (n, o)) →
      Ordered.ofList (own.entries.map rename) = own := by
    intro rename hsame
    rw [show rename = id from funext fun e => hsame e.1 e.2, List.map_id, Ordered.ofList_entries]
  unfold basesFor at hplain ⊢
  unfold makeClass
  simp only [hplain, henum, Bool.and_false, Bool.false_eq_true, if_false]
  rw [hnames _ fun _ _ => rfl]
  cases h.layoutOf (if written.isEmpty then [Place.object] else written) with
  | error f => rfl
  | ok layout =>
    cases h.orderOf (if written.isEmpty then [Place.object] else written) with
    | error f => rfl
    | ok order => rfl

/-- A class statement without interfaces and enumerations adds one class. -/
theorem makeClass_eq_ok {module qualname : String} {written : List Nat} {metaclass : Nat}
    {own : Names} (hprotocols : ∀ b ∈ written, b ∉ protocols)
    (henum : h.derives metaclass Place.enumMeta = false)
    (hmake : h.makeClass module qualname written metaclass own false = .ok (p, h')) :
    ∃ c, p = h.classes.size ∧ h' = (h.addClass c).2 ∧ c.module = module ∧
      c.qualname = qualname ∧ c.bases = (if written.isEmpty then [Place.object] else written) ∧
      linearize p c.bases h.order = .ok c.order ∧ c.metaclass = metaclass ∧ c.attributes = own ∧
      c.abstracts = (if h.tracksAbstracts metaclass = true then
        h.abstractNames c.order c.bases own else []) := by
  rw [makeClass_eq hprotocols henum] at hmake
  cases hlayout : h.layoutOf (basesFor written) with
  | error f =>
    rw [hlayout] at hmake
    cases hmake
  | ok layout =>
    cases horder : h.orderOf (basesFor written) with
    | error f =>
      rw [hlayout, horder] at hmake
      cases hmake
    | ok order =>
      rw [hlayout, horder] at hmake
      have hmade := Prod.mk.inj (Except.ok.inj hmake)
      exact ⟨_, hmade.1.symm, hmade.2.symm, rfl, rfl, rfl, hmade.1 ▸ linearize_of_orderOf horder,
        rfl, rfl, rfl⟩

end Heap

end Foundry.Live
