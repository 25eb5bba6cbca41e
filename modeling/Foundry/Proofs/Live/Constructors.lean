import Foundry.Proofs.Live.Definitions
import Foundry.Proofs.Live.Modules
import Foundry.Proofs.Source.References
import Foundry.Validation

/-!
Constructors as the source tells and as running code tells. The source takes the first one found in
a walk through the bases, each with all that is above it; running code takes the first one in the
order of ancestors.
-/

namespace Foundry

open Source (Index Definition)

namespace Source.Index

variable {x : Index} {d e a : Definition}

/-! ### The first constructor in a walk through the bases -/

/-- No class at or above this one defines a constructor. -/
def Unconstructed (x : Index) (d : Definition) : Prop :=
  ∀ a, x.Above d a → x.ownConstructor? a = none

/-- The class whose constructor is the first in a walk through the bases. -/
inductive FirstInWalk (x : Index) : Definition → Definition → Prop
  | own {d : Definition} : (x.ownConstructor? d).isSome = true → FirstInWalk x d d
  | base {d b a : Definition} {before after : List Definition} : x.ownConstructor? d = none →
    x.knownBases d = before ++ b :: after → (∀ b' ∈ before, Unconstructed x b') →
    FirstInWalk x b a → FirstInWalk x d a

/-- Where a class inherits a constructor, the first base that has one stands below every class with
a constructor that stands above a later base. -/
def Led (x : Index) (d : Definition) : Prop :=
  ∀ e, x.Above d e → x.ownConstructor? e = none → ∀ before b after,
    x.knownBases e = before ++ b :: after → (∀ b' ∈ before, x.Unconstructed b') →
    ¬x.Unconstructed b → ∀ b' ∈ after, ∀ a, x.Above b' a → (x.ownConstructor? a).isSome = true →
    x.Above b a

/-- A class that defines a constructor. -/
def constructs (x : Index) (d : Definition) : Bool :=
  (x.ownConstructor? d).isSome

theorem constructs_eq_false_iff : x.constructs d = false ↔ x.ownConstructor? d = none := by
  rw [constructs, ← Bool.not_eq_true, Option.not_isSome_iff_eq_none]

theorem unconstructed_iff : x.Unconstructed d ↔ x.Silent x.constructs d :=
  forall₂_congr fun _ _ => constructs_eq_false_iff.symm

theorem firstInWalk_iff : x.FirstInWalk d a ↔ x.FirstToSpeak x.constructs d a := by
  constructor
  · intro h
    induction h with
    | own hown => exact .own hown
    | base hown hbases hbefore _ ih =>
      exact .base (constructs_eq_false_iff.2 hown) hbases
        (fun b hb => unconstructed_iff.1 (hbefore b hb)) ih
  · intro h
    induction h with
    | own hown => exact .own hown
    | base hown hbases hbefore _ ih =>
      exact .base (constructs_eq_false_iff.1 hown) hbases
        (fun b hb => unconstructed_iff.2 (hbefore b hb)) ih

theorem led_iff : x.Led d ↔ x.Leads x.constructs d := by
  constructor
  · intro h e he hown before b after hbases hbefore hb
    exact h e he (constructs_eq_false_iff.1 hown) before b after hbases
      (fun c hc => unconstructed_iff.2 (hbefore c hc)) (mt unconstructed_iff.1 hb)
  · intro h e he hown before b after hbases hbefore hb
    exact h e he (constructs_eq_false_iff.2 hown) before b after hbases
      (fun c hc => unconstructed_iff.1 (hbefore c hc)) (mt unconstructed_iff.2 hb)

theorem FirstInWalk.above (h : x.FirstInWalk d a) :
    x.Above d a ∧ (x.ownConstructor? a).isSome = true :=
  (firstInWalk_iff.1 h).above

theorem Linear.led (h : x.Linear d) : x.Led d :=
  led_iff.2 h.leads

theorem exists_firstInWalk (hx : x.Keyed) (hd : x.Lists d) (hacyclic : x.Acyclic d)
    (hsome : ¬x.Unconstructed d) : ∃ a, x.FirstInWalk d a := by
  obtain ⟨a, ha⟩ := exists_firstToSpeak hx hd hacyclic (mt unconstructed_iff.2 hsome)
  exact ⟨a, firstInWalk_iff.2 ha⟩

theorem requiredFrom_eq (hx : x.Keyed) {fuel : Nat} {seen : List String} (hw : x.Way seen d)
    (hd : x.Lists d) (hacyclic : x.Acyclic d)
    (hfields : ∀ e, x.Above d e → x.hasFieldConstructor e = false)
    (hroom : x.bound ≤ fuel + seen.length) :
    (∀ a ps, x.FirstInWalk d a → x.ownConstructor? a = some ps →
      x.requiredFrom fuel seen d = some (requiredParameters ps)) ∧
    (x.Unconstructed d → x.requiredFrom fuel seen d = none) := by
  induction fuel generalizing seen d with
  | zero =>
    have hlt := hw.length_lt hd (hw.fresh hd hacyclic)
    rw [bound] at hroom
    omega
  | succ fuel ih =>
    have hnew := hw.fresh hd hacyclic
    have hfresh : x.freshBases d (d.qualifiedName :: seen) = x.knownBases d := by
      rw [freshBases, List.filter_eq_self]
      intro b hb
      have hnext := (hw.next hd hnew hb).fresh (IsBase.lists hb hx) (hacyclic.base hb)
      rwa [Bool.not_eq_true', ← Bool.not_eq_true, List.contains_iff_mem]
    have hbase : ∀ b, x.IsBase d b →
        (∀ a ps, x.FirstInWalk b a → x.ownConstructor? a = some ps →
          x.requiredFrom fuel (d.qualifiedName :: seen) b = some (requiredParameters ps)) ∧
        (x.Unconstructed b → x.requiredFrom fuel (d.qualifiedName :: seen) b = none) := by
      intro b hb
      refine ih (hw.next hd hnew hb) (hb.lists hx) (hacyclic.base hb)
        (fun e he => hfields e (.head hb he)) ?_
      rw [List.length_cons]
      omega
    have hnone : x.ownConstructor? d = none → x.requiredFrom (fuel + 1) seen d =
        (x.knownBases d).findSome? (x.requiredFrom fuel (d.qualifiedName :: seen)) := by
      intro hown
      rw [requiredFrom, hown]
      simp only [hfields d .refl, Bool.false_eq_true, if_false, hfresh]
    refine ⟨fun a ps ha hps => ?_, fun hall => ?_⟩
    · cases ha with
      | own _ => rw [requiredFrom, hps]
      | @base _ b _ before after hown hbases hbefore ha =>
        have hskipped : before.findSome? (x.requiredFrom fuel (d.qualifiedName :: seen)) =
            none := by
          rw [List.findSome?_eq_none_iff]
          intro b' hb'
          have hmem : x.IsBase d b' := by
            rw [IsBase, hbases]
            exact List.mem_append_left _ hb'
          exact (hbase b' hmem).2 (hbefore b' hb')
        have hfound := (hbase b (isBase_of_append hbases)).1 a ps ha hps
        rw [hnone hown, hbases, List.findSome?_append, hskipped, Option.none_or,
          List.findSome?_cons, hfound]
    · rw [hnone (hall d .refl), List.findSome?_eq_none_iff]
      intro b hb
      exact (hbase b hb).2 fun a ha => hall a (.head hb ha)

theorem Describes.constructors {b : Declaration} (hb : x.Describes d b)
    (hclass : d.parts.isSome = true) :
    b.constructors = [match x.requiredFrom x.bound [] d with
      | some n => ⟨n, true⟩
      | none => Constructor.standard] := by
  obtain ⟨mem, mem', -, hb⟩ := hb
  obtain ⟨-, -, ⟨-, location, hdescribed⟩ | ⟨hfunction, -⟩⟩ := describe_cases hb
  · exact (congrArg (fun r => r.1.constructors) hdescribed).symm
  · rw [hclass] at hfunction
    cases hfunction

theorem Describes.constructors_eq {b : Declaration} (hx : x.Keyed) (hd : x.Lists d)
    (hclass : d.parts.isSome = true) (hacyclic : x.Acyclic d)
    (hfields : ∀ e, x.Above d e → x.hasFieldConstructor e = false) (hb : x.Describes d b) :
    (∀ a ps, x.FirstInWalk d a → x.ownConstructor? a = some ps →
      b.constructors = [⟨requiredParameters ps, true⟩]) ∧
    (x.Unconstructed d → b.constructors = [Constructor.standard]) := by
  obtain ⟨hsome, hnone⟩ := requiredFrom_eq hx (way_nil x d) hd hacyclic hfields
    (Nat.le_add_right _ _)
  have hconstructors := hb.constructors hclass
  refine ⟨fun a ps ha hps => ?_, fun hall => ?_⟩
  · rw [hconstructors, hsome a ps ha hps]
  · rw [hconstructors, hnone hall]

end Source.Index

namespace Live

/-! ### Parameters -/

/-- A first parameter without a default is the one that is bound to the instance. -/
theorem requiredAfterFirst_eq {ps : Source.Params} {p : Source.Param} {rest : List Source.Param}
    (hfirst : ps.positional = p :: rest) (hplain : p.default = none) :
    requiredAfterFirst ps = some (Source.requiredParameters ps) := by
  obtain ⟨posOnly, args, vararg, kwOnly, kwarg⟩ := ps
  have happend : posOnly ++ args = p :: rest := hfirst
  unfold requiredAfterFirst Source.requiredParameters
  simp only [Source.Params.positional, Source.Params.kwOnly, happend, List.isEmpty_cons,
    Bool.false_eq_true, if_false, Option.some.injEq]
  rw [List.filter_cons, hplain]
  simp only [Option.isNone_none, if_true, List.length_cons]
  omega

namespace Heap

variable {x : Index} {h h' : Heap} {p q : Nat} {d e : Definition} {c : Class}

/-! ### Class bodies with a constructor -/

/-- What a class body binds as far as constructors go: the one the source says it defines, which is
bound to an instance by its first parameter, and no other way to make instances. -/
structure BindsConstructor (x : Index) (h : Heap) (d : Definition) (own : Names) : Prop where
  fields : x.hasFieldConstructor d = false
  plain : own.get? "__new__" = none
  written : ∀ o, own.get? "__init__" = some o → ∃ f k, o = .function f ∧ h.function? f = some k ∧
    x.ownConstructor? d = some k.params ∧
    ∃ first rest, k.params.positional = first :: rest ∧ first.default = none
  unwritten : own.get? "__init__" = none → x.ownConstructor? d = none

theorem BindsConstructor.extends {own : Names} (hb : h.BindsConstructor x d own)
    (hx : h.Extends h') : h'.BindsConstructor x d own := by
  refine ⟨hb.fields, hb.plain, fun o ho => ?_, hb.unwritten⟩
  obtain ⟨f, k, rfl, hk, hparams⟩ := hb.written o ho
  exact ⟨f, k, rfl, hx.functions f k hk, hparams⟩

def constructors (x : Index) : BodyReading where
  Binds := fun h d own => h.BindsConstructor x d own
  stable := fun hx _ hb => hb.extends hx

/-! ### The first constructor in the order of ancestors -/

theorem Made.object_mem_order {r : BodyReading} (hw : WellMade x r h) (hm : Made x r h p d c) :
    Place.object ∈ c.order := by
  rw [← order_of_class? hm.there]
  exact hw.object_mem_order hm.ancestral

/-- A constructor that no made class binds is the one of `object`. -/
theorem findIn_of_unbound {n : String} {order : List Nat} (hlib : libraryHeap.Extends h)
    (hn : n ∈ ["__init__", "__new__"]) (hmem : Place.object ∈ order)
    (hancestral : ∀ q ∈ order, h.Ancestral q)
    (hunbound : ∀ q ∈ order, ∀ k, librarySize ≤ q → h.class? q = some k →
      h.attribute? q n = none) :
    ∃ kind, h.findIn order n = some (Place.object, .thing kind) := by
  cases hfind : h.findIn order n with
  | none =>
    have habsent := findIn_eq_none_iff.1 hfind _ hmem
    have hsome := ((outlined_object hlib).names n).2 hn
    rw [habsent] at hsome
    cases hsome
  | some found =>
    obtain ⟨q, o⟩ := found
    obtain ⟨hfirst, hattr⟩ := findIn_eq_some_iff.1 hfind
    have hq := List.mem_of_find?_eq_some hfirst
    rcases (hancestral q hq).object_or_made hlib hattr with ⟨rfl, kind, rfl⟩ | ⟨hafter, k, hk⟩
    · exact ⟨kind, rfl⟩
    · rw [hunbound q hq k hafter hk] at hattr
      cases hattr

theorem Made.findIn_new (hw : WellMade x (constructors x) h)
    (hm : Made x (constructors x) h p d c) :
    ∃ kind, h.findIn c.order "__new__" = some (Place.object, .thing kind) := by
  refine findIn_of_unbound hw.library (by decide) (hm.object_mem_order hw)
    (fun q hq => hm.ancestral_of_mem_order hw hq) fun q _ k hafter hk => ?_
  obtain ⟨e, hmade⟩ := hw.made q k hk hafter
  rw [hmade.attribute?_eq, hmade.binds.plain]

/-- The metaclasses of made classes are called as any class is. -/
theorem writtenMethod?_call_of_library (hlib : libraryHeap.Extends h) {metaclass : Nat}
    (hmeta : metaclass = Place.type ∨ metaclass = Place.abstractMeta) :
    h.writtenMethod? (h.order metaclass) "__call__" = none := by
  have hobject := outlined_object hlib
  have htype := outlined_type hlib
  have habstract := outlined_abstractMeta hlib
  have hnone : ∀ {q order metaclass names}, h.Outlined q order metaclass names →
      "__call__" ∉ names → h.attribute? q "__call__" = none := by
    intro q order metaclass names ho hnot
    rw [← Option.not_isSome_iff_eq_none, ho.names]
    exact hnot
  have hfind : h.findIn (h.order metaclass) "__call__" = none := by
    rw [findIn_eq_none_iff]
    intro q hq
    rcases hmeta with rfl | rfl
    · rw [htype.order] at hq
      simp only [List.mem_cons, List.not_mem_nil, or_false] at hq
      rcases hq with rfl | rfl
      · exact hnone htype (by decide)
      · exact hnone hobject (by decide)
    · rw [habstract.order] at hq
      simp only [List.mem_cons, List.not_mem_nil, or_false] at hq
      rcases hq with rfl | rfl | rfl
      · exact hnone habstract (by decide)
      · exact hnone htype (by decide)
      · exact hnone hobject (by decide)
  rw [writtenMethod?, hfind]

theorem Made.writtenMethod?_call {r : BodyReading} (hw : WellMade x r h) (hm : Made x r h p d c) :
    h.writtenMethod? (h.order c.metaclass) "__call__" = none :=
  writtenMethod?_call_of_library hw.library (hm.metaclass ▸ commonMetaclass_eq h c.bases)

/-- Where nothing else makes instances, the first constructor that was written does. -/
theorem constructing?_of_init {f : Nat} {k : Function}
    (hcall : h.writtenMethod? (h.order c.metaclass) "__call__" = none)
    (hnew : h.writtenMethod? c.order "__new__" = none)
    (hfind : h.findIn c.order "__init__" = some (q, .function f)) (hk : h.function? f = some k) :
    h.constructing? c = some k := by
  have hinit : h.writtenMethod? c.order "__init__" = some k := by
    rw [writtenMethod?, hfind]
    exact hk
  have hfirst := (findIn_eq_some_iff.1 hfind).1
  unfold constructing?
  rw [hcall, hnew, hinit]
  simp only [Option.isSome_none, Bool.false_and, Bool.false_eq_true, if_false, Option.isSome_some,
    Bool.true_and]
  cases hmet : c.order.findSome? fun p => if h.has "__init__" p = true then some k else none with
  | none =>
    have hnone := List.findSome?_eq_none_iff.1 hmet q (List.mem_of_find?_eq_some hfirst)
    rw [if_pos (List.find?_some hfirst)] at hnone
    cases hnone
  | some l =>
    obtain ⟨p', -, hl⟩ := List.exists_of_findSome?_eq_some hmet
    exact (Option.ite_none_right_eq_some.1 hl).2.symm

theorem Made.constructing?_eq (hw : WellMade x (constructors x) h)
    (hm : Made x (constructors x) h p d c) {f : Nat} {k : Function}
    (hfind : h.findIn c.order "__init__" = some (q, .function f)) (hk : h.function? f = some k) :
    h.constructing? c = some k := by
  obtain ⟨kind, hnew⟩ := hm.findIn_new hw
  exact constructing?_of_init (hm.writtenMethod?_call hw) (by rw [writtenMethod?, hnew]) hfind hk

theorem Made.requiredArguments_of_made (hw : WellMade x (constructors x) h)
    (hm : Made x (constructors x) h p d c) {o : Object} {k : Class}
    (hfind : h.findIn c.order "__init__" = some (q, o)) (hk : Made x (constructors x) h q e k) :
    ∃ ps, x.ownConstructor? e = some ps ∧
      h.requiredArguments c = Source.requiredParameters ps := by
  obtain ⟨hfirst, hattr⟩ := findIn_eq_some_iff.1 hfind
  rw [hk.attribute?_eq] at hattr
  obtain ⟨f, l, rfl, hl, hparams, first, rest, hfirst, hplain⟩ := hk.binds.written o hattr
  refine ⟨l.params, hparams, ?_⟩
  have hnot : h.isPlainlyConstructed c = false := by
    obtain ⟨hlt, -⟩ := library_lt
    have hafter := hk.depicts.after
    have hne : q ≠ Place.object := by omega
    simp [isPlainlyConstructed, hfind, hne]
  rw [requiredArguments, hnot, hm.constructing?_eq hw hfind hl]
  simp only [Bool.false_eq_true, if_false, Option.bind_some]
  rw [requiredAfterFirst_eq hfirst hplain, Option.getD_some]

theorem Made.requiredArguments_of_object (hw : WellMade x (constructors x) h)
    (hm : Made x (constructors x) h p d c) {o : Object}
    (hfind : h.findIn c.order "__init__" = some (Place.object, o)) :
    h.requiredArguments c = 0 := by
  obtain ⟨kind, hnew⟩ := hm.findIn_new hw
  have hplain : h.isPlainlyConstructed c = true := by
    simp [isPlainlyConstructed, hfind, hnew]
  rw [requiredArguments, hplain, if_pos rfl]

theorem Made.attribute?_init (hm : Made x (constructors x) h p d c) :
    (h.attribute? p "__init__").isSome = (x.ownConstructor? d).isSome := by
  rw [hm.attribute?_eq]
  cases ho : c.attributes.get? "__init__" with
  | none =>
    rw [hm.binds.unwritten ho]
    rfl
  | some o =>
    obtain ⟨f, k, -, -, hparams, -⟩ := hm.binds.written o ho
    rw [hparams]
    rfl

theorem Made.findIn_of_unconstructed (hw : WellMade x (constructors x) h) (hx : Apart x)
    (hm : Made x (constructors x) h p d c) (hnone : x.Unconstructed d) :
    ∃ kind, h.findIn c.order "__init__" = some (Place.object, .thing kind) := by
  refine findIn_of_unbound hw.library (by decide) (hm.object_mem_order hw)
    (fun q hq => hm.ancestral_of_mem_order hw hq) fun q hq k hafter hk => ?_
  obtain ⟨e, hmade⟩ := hw.made q k hk hafter
  have habove := (hm.above_iff hw hx).2 ⟨q, hq, k, hmade⟩
  rw [← Option.not_isSome_iff_eq_none, hmade.attribute?_init, hnone e habove]
  exact Bool.false_ne_true

/-- Where the first base with a constructor leads, the constructor of the walk is met first. -/
theorem Made.findIn_of_led (hw : WellMade x (constructors x) h) (hx : Apart x)
    (hm : Made x (constructors x) h p d c) (hled : x.Led d) (hfirst : x.FirstInWalk d e) :
    ∃ q o k, h.rawAttribute p "__init__" = some (q, o) ∧ Made x (constructors x) h q e k := by
  have hwalk := Index.firstInWalk_iff.1 hfirst
  obtain ⟨q, hq, hqe⟩ := hm.find?_of_leads hw hx (Index.led_iff.1 hled) hwalk
  obtain ⟨k, hk⟩ := hw.made_of_depicts hqe
  have hmem := List.mem_of_find?_eq_some hq
  obtain ⟨o, ho⟩ : ∃ o, h.attribute? q "__init__" = some o := by
    rw [← Option.isSome_iff_exists, hk.attribute?_init]
    exact hwalk.above.2
  refine ⟨q, o, k, ?_, hk⟩
  rw [rawAttribute, order_of_class? hm.there]
  cases hfind : h.findIn c.order "__init__" with
  | none =>
    rw [findIn_eq_none_iff.1 hfind q hmem] at ho
    cases ho
  | some found =>
    obtain ⟨q', o'⟩ := found
    obtain ⟨hmet, hattr⟩ := findIn_eq_some_iff.1 hfind
    -- What is met first is no class of the library, so its source defines a constructor.
    have hspeaks : h.speaksAt x x.constructs q' = true := by
      have hancestral := hm.ancestral_of_mem_order hw (List.mem_of_find?_eq_some hmet)
      rcases hw.object_or_made hancestral hattr with ⟨rfl, -⟩ | ⟨g, l, hg⟩
      · have hne : q ≠ Place.object := by
          obtain ⟨hlt, -⟩ := library_lt
          have hafter := hk.depicts.after
          omega
        have hbehind := hw.sublist_object hm.ancestral (order_of_class? hm.there ▸ hmem) hne
        rw [order_of_class? hm.there] at hbehind
        have hmet' := find?_of_sublist hbehind (hm.searched hw).nodup hmet (by simp)
        rw [List.find?_cons, has_eq, ho] at hmet'
        exact absurd (Option.some.inj hmet') hne
      · rw [hg.speaksAt_eq, Index.constructs, ← hg.attribute?_init, hattr]
        rfl
    have hsame := find?_of_imp (fun q hq hspeaks => ?_) hmet hspeaks
    · obtain rfl := Option.some.inj (hq.symm.trans hsame)
      rw [Option.some.inj (hattr.symm.trans ho)]
    · obtain ⟨g, l, hg, hown⟩ := hw.exists_of_speaksAt hspeaks
      rw [has_eq, hg.attribute?_init]
      exact hown

end Heap

/-! ### Both sides -/

theorem check_constructor_iff {σ : Type} (p : Provider σ) (limit : Nat) (r : Record) (s : σ) :
    (Rule.check p limit r .constructor).answer s = .ok () ↔
      r.declaration.constructors.any Constructor.isDefault = true := by
  cases hdefault : r.declaration.constructors.any Constructor.isDefault with
  | true =>
    have hcheck : Rule.check p limit r .constructor = pure () := if_pos hdefault
    rw [hcheck]
    exact ⟨fun _ => rfl, fun _ => rfl⟩
  | false =>
    have hcheck : Rule.check p limit r .constructor =
        throw (.rejected (.missingDefaultConstructor r.declaration)) :=
      if_neg (Bool.eq_false_iff.1 hdefault)
    rw [hcheck]
    constructor
    · intro h
      cases h
    · intro h
      cases h

/-- The constructor of a class is the same in its source and when it runs, where the one that a walk
through the bases finds first is met first in the order of ancestors. It is met first where bases
with a constructor lead. The rule about constructors then comes to the same verdict. -/
theorem constructors_agree {x : Index} {d : Definition} {p : Nat} {modules : List Source.Module}
    {annotationNames : List String} {marking : Option Marking} {m : Machine}
    (hx : Index.make modules annotationNames = .ok x) (hsource : ∀ m ∈ modules, m.IsSource)
    (hapart : Heap.Apart x) (hruns : Heap.Runs x (Heap.constructors x) m.heap)
    (hp : m.heap.Depicts x p d) (hmarking : x.marking? d = .ok marking)
    (questions : List Question) (slot : String) :
    ∃ a b, (x.provider.get d.qualifiedName).answer
        (x.provider.after questions Index.Memory.empty) = .ok (some a) ∧
      m.describe slot (.class p) = .ok (some b) ∧ a.name = b.name ∧
      (x.Unconstructed d →
        a.constructors = [Constructor.standard] ∧ b.constructors = [Constructor.standard]) ∧
      (∀ e ps, x.FirstInWalk d e → x.ownConstructor? e = some ps →
        a.constructors = [⟨Source.requiredParameters ps, true⟩]) ∧
      (∀ q o e ps, m.heap.rawAttribute p "__init__" = some (q, o) → m.heap.Depicts x q e →
        x.ownConstructor? e = some ps →
        b.constructors = [⟨Source.requiredParameters ps, true⟩]) ∧
      (x.Led d → a.constructors = b.constructors ∧
        ∀ (sources : Provider Index.Memory) (classes : Provider Memory) limit identifier group s t,
          (Rule.check sources limit ⟨identifier, group, a⟩ .constructor).answer s = .ok () ↔
            (Rule.check classes limit ⟨identifier, group, b⟩ .constructor).answer t = .ok ()) := by
  have hkeyed := (Index.keyed_make hx).1
  have hw := hruns.wellMade
  obtain ⟨c, hm⟩ := hw.made_of_depicts hp
  have hlists := hm.depicts.lists
  obtain ⟨a, hanswer, ha⟩ := Index.described_of_definition hx hsource hlists hmarking
    (.inl hm.depicts.isClass) questions
  obtain ⟨hmodule, hqualname⟩ := Index.name_of_definition hx hsource hlists
    (.inl hm.depicts.isClass)
  obtain ⟨k, hk, hkmodule, hkqualname⟩ := hp.named
  obtain rfl := Option.some.inj (hk.symm.trans hm.there)
  obtain ⟨b, hb, hbname, -, hbconstructors⟩ := Machine.describe_class slot hm.there
    (hkmodule ▸ hmodule) (hkqualname ▸ hqualname)
  have hacyclic := hm.acyclic hw hapart
  have hfields : ∀ e, x.Above d e → x.hasFieldConstructor e = false := by
    intro e he
    obtain ⟨q, -, k', hk'⟩ := (hm.above_iff hw hapart).1 he
    exact hk'.binds.fields
  obtain ⟨hwalk, hnone⟩ := ha.constructors_eq hkeyed hlists hm.depicts.isClass hacyclic hfields
  have hbare : x.Unconstructed d →
      a.constructors = [Constructor.standard] ∧ b.constructors = [Constructor.standard] := by
    intro hall
    obtain ⟨o, hfind⟩ := hm.findIn_of_unconstructed hw hapart hall
    rw [hbconstructors, hm.requiredArguments_of_object hw hfind]
    exact ⟨hnone hall, rfl⟩
  have hmet : ∀ q o e ps, m.heap.rawAttribute p "__init__" = some (q, o) →
      m.heap.Depicts x q e → x.ownConstructor? e = some ps →
      b.constructors = [⟨Source.requiredParameters ps, true⟩] := by
    intro q o e ps hfind hq hps
    obtain ⟨k', hk'⟩ := hw.made_of_depicts hq
    rw [Heap.rawAttribute, Heap.order_of_class? hm.there] at hfind
    obtain ⟨ps', hps', hrequired⟩ := hm.requiredArguments_of_made hw hfind hk'
    rw [hbconstructors, hrequired, Option.some.inj (hps'.symm.trans hps)]
  have hsame : x.Led d → a.constructors = b.constructors := by
    intro hled
    by_cases hall : x.Unconstructed d
    · rw [(hbare hall).1, (hbare hall).2]
    · obtain ⟨e, he⟩ := Index.exists_firstInWalk hkeyed hlists hacyclic hall
      obtain ⟨ps, hps⟩ := Option.isSome_iff_exists.1 he.above.2
      obtain ⟨q, o, k', hfind, hk'⟩ := hm.findIn_of_led hw hapart hled he
      rw [hwalk e ps he hps, hmet q o e ps hfind hk'.depicts hps]
  refine ⟨a, b, hanswer, hb, ?_, hbare, hwalk, hmet, fun hled => ⟨hsame hled, ?_⟩⟩
  · rw [hbname, ha.name_eq, hkmodule, hkqualname]
  · intro sources classes limit identifier group s t
    rw [check_constructor_iff, check_constructor_iff, hsame hled]

/-! ### Class bodies as they are executed -/

namespace Heap

variable {x : Index} {h : Heap} {d : Definition} {m : Machine} {s : Surroundings}
  {name marker : String} {bases : List Source.Expr} {body : List Source.Stmt} {ks : List Method}
  {own : Names}

theorem getLast?_params {n : String} (hdistinct : (ks.map Method.name).Nodup) :
    (ks.filterMap fun k => if k.name = n then some k.params else none).getLast? =
      (ks.find? fun k => k.name = n).map Method.params := by
  induction ks with
  | nil => rfl
  | cons k ks ih =>
    rw [List.map_cons, List.nodup_cons] at hdistinct
    rw [List.filterMap_cons, List.find?_cons]
    by_cases hk : k.name = n
    · have hrest : ks.filterMap (fun k => if k.name = n then some k.params else none) = [] := by
        rw [List.filterMap_eq_nil_iff]
        intro k' hk'
        rw [if_neg fun hname => hdistinct.1 ?_]
        exact hk.trans hname.symm ▸ List.mem_map_of_mem hk'
      simp [hk, hrest]
    · simp [hk, ih hdistinct.2]

theorem ownConstructor?_eq (hs : IsStatement x m s d name bases body marker ks)
    (hmarker : (∃ k ∈ ks, k.isAbstract = true) →
      x.decoratorNames d.module [.name marker] = ["abc.abstractmethod"]) :
    x.ownConstructor? d = (ks.find? fun k => k.name = "__init__").map Method.params := by
  rw [← getLast?_params hs.distinct]
  unfold Index.ownConstructor?
  rw [hs.parts]
  refine congrArg List.getLast? (filterMap_methods hs.methods rfl fun k hk => ?_)
  have hplain : (x.decoratorNames d.module
      (if k.isAbstract then [.name marker] else [])).any Source.overloadDecorators.contains =
        false := by
    cases habs : k.isAbstract with
    | true =>
      rw [if_pos rfl, hmarker ⟨k, hk, habs⟩]
      decide
    | false => rfl
  simp [Method.statement, hplain]

theorem bindsConstructor_of_bindsAll (hs : IsStatement x m s d name bases body marker ks)
    (hmarker : (∃ k ∈ ks, k.isAbstract = true) →
      x.decoratorNames d.module [.name marker] = ["abc.abstractmethod"])
    (hdecorators : d.decorators = []) (hnew : ∀ k ∈ ks, k.name ≠ "__new__")
    (hself : ∀ k ∈ ks, k.name = "__init__" →
      ∃ first rest, k.params.positional = first :: rest ∧ first.default = none)
    (hall : BindsAll h ks (startingNamesOf m.heap s name) own) :
    (constructors x).Binds h d (own.erase "__qualname__") := by
  refine ⟨?_, ?_, fun o ho => ?_, fun hnone => ?_⟩
  · rw [Index.hasFieldConstructor, Index.dataclassMarker?, hdecorators]
    rfl
  · cases ho : (own.erase "__qualname__").get? "__new__" with
    | none => rfl
    | some o =>
      obtain ⟨-, ho⟩ := Ordered.get?_erase_eq_some_iff.1 ho
      rcases hall.get?_cases hs.distinct ho with ⟨k, hk, hname, -⟩ | ⟨-, ho⟩
      · exact absurd hname (hnew k hk)
      · rw [get?_startingNamesOf_eq_none (by decide)] at ho
        cases ho
  · obtain ⟨-, ho⟩ := Ordered.get?_erase_eq_some_iff.1 ho
    rcases hall.get?_cases hs.distinct ho with ⟨k, hk, hname, p, f, rfl, hf, hparams, -⟩ | ⟨-, ho⟩
    · refine ⟨p, f, rfl, hf, ?_, hparams ▸ hself k hk hname⟩
      rw [ownConstructor?_eq hs hmarker, hparams, ← hname,
        Ordered.find?_of_mem Method.name hs.distinct hk]
      rfl
    · rw [get?_startingNamesOf_eq_none (by decide)] at ho
      cases ho
  · rw [ownConstructor?_eq hs hmarker, Option.map_eq_none_iff, List.find?_eq_none]
    intro k hk hname
    obtain ⟨p, f, ho, -⟩ := hall.get?_of_mem hs.distinct hk
    rw [of_decide_eq_true hname] at ho
    cases hnone.symm.trans (Ordered.get?_erase_eq_some_iff.2 ⟨by decide, ho⟩)

/-- A class body with methods that constructs by `__init__` alone, which takes the instance. -/
structure ConstructorBody (x : Index) (known : Known) (d : Definition) (body : List Source.Stmt)
    (marker : String) (ks : List Method) : Prop extends MethodBody x known d body marker ks where
  new : ∀ k ∈ ks, k.name ≠ "__new__"
  self : ∀ k ∈ ks, k.name = "__init__" →
    ∃ first rest, k.params.positional = first :: rest ∧ first.default = none

/-- A module whose classes have such bodies is a run of its class statements when it has run, as far
as constructors go. -/
theorem runs_constructors {name : String} {body : List Source.Stmt} {all : List String}
    (files : FileTree) (searched : List String) (hname : name ≠ "builtins")
    (hlines : Lines x (fun known d body => ∃ marker ks, ConstructorBody x known d body marker ks)
      name startingKnown [] body all)
    (hok : ((runModule name body).run (Machine.start files searched)).1.isOk = true) :
    let m := ((runModule name body).run (Machine.start files searched)).2
    Runs x (constructors x) m.heap ∧ m.heap.Follows x all := by
  refine (runs_methodModule files searched hname ?_ hlines).of_isOk hok
  rintro known d body ⟨marker, ks, hbody⟩
  exact ⟨marker, ks, hbody.toMethodBody, fun hs hall =>
    bindsConstructor_of_bindsAll hs (fun habs => (hbody.marker habs).2.2) hbody.decorators
      hbody.new hbody.self hall⟩

end Heap

/-! ### Diamonds -/

namespace Heap

/-- The constructor of a class of the module. -/
def diamondMethod (line : Nat) (names : List String) : Method :=
  ⟨line, line, "__init__", .mk [] (names.map fun n => .mk n none none) none [] none, false,
    [.pass]⟩

/-- A class below two others, which share a base: the first one inherits the constructor of that
base, the second one has its own. -/
def diamondBody : List Source.Stmt :=
  [.classDef 1 1 "A" [] [] [] [(diamondMethod 2 ["self", "size"]).statement ""],
   .classDef 3 3 "B" [.name "A"] [] [] [.pass],
   .classDef 4 4 "C" [.name "A"] [] [] [(diamondMethod 5 ["self"]).statement ""],
   .classDef 6 6 "D" [.name "B", .name "C"] [] [] [.pass]]

def diamondModule : Source.Module :=
  Source.Module.make "m" (Path.ofText "m.py") diamondBody

def diamondIndex : Index :=
  (Index.make [diamondModule] []).toOption.getD ⟨Ordered.empty, Ordered.empty, []⟩

theorem diamond_source : ∀ m ∈ [diamondModule], m.IsSource := by
  intro m hm
  obtain rfl := List.mem_singleton.1 hm
  refine ⟨⟨_, _, _, rfl⟩, rfl, ?_⟩
  decide

theorem isPlain_diamondMethod (line : Nat) (names : List String) :
    (diamondMethod line names).IsPlain := by
  intro p hp
  simp only [List.nil_append, Option.toList_none, List.append_nil, List.mem_map] at hp
  obtain ⟨n, -, rfl⟩ := hp
  rfl

/-- A class with a constructor of its own. -/
theorem diamondMethod_body {known : Known} {d : Definition} (line : Nat) (n : String)
    (names : List String) (hdecorators : d.decorators = []) :
    ConstructorBody diamondIndex known d [(diamondMethod line (n :: names)).statement ""] ""
      [diamondMethod line (n :: names)] where
  toMethodBody := .concrete hdecorators (.method (isPlain_diamondMethod line (n :: names)) .nil)
    (by simp) (by simp [diamondMethod]) (by simp [diamondMethod])
  new := by simp [diamondMethod]
  self := by
    intro k hk _
    obtain rfl := List.mem_singleton.1 hk
    exact ⟨_, _, rfl, rfl⟩

/-- A class without one. -/
theorem diamond_bare {known : Known} {d : Definition} (hdecorators : d.decorators = []) :
    ConstructorBody diamondIndex known d [.pass] "" [] where
  toMethodBody := .concrete hdecorators (.pass .nil) .nil (by simp) (by simp)
  new := by simp
  self := by simp

/-- Each line of the module is a class with methods below earlier ones. -/
theorem diamond_lines : Lines diamondIndex
    (fun known d body => ∃ marker ks, ConstructorBody diamondIndex known d body marker ks) "m"
    startingKnown [] diamondBody ["m.A", "m.B", "m.C", "m.D"] := by
  refine .classDef rfl rfl (by decide) rfl .nil ⟨_, _, diamondMethod_body 2 "self" ["size"] rfl⟩ ?_
  refine .classDef rfl rfl (by decide) rfl
    (.cons ⟨"A", _, rfl, rfl, standsFor_made rfl⟩ .nil) ⟨_, _, diamond_bare rfl⟩ ?_
  refine .classDef rfl rfl (by decide) rfl
    (.cons ⟨"A", _, rfl, rfl, standsFor_made rfl⟩ .nil) ⟨_, _, diamondMethod_body 5 "self" [] rfl⟩
    ?_
  exact .classDef rfl rfl (by decide) rfl
    (.cons ⟨"B", _, rfl, rfl, standsFor_made rfl⟩
      (.cons ⟨"C", _, rfl, rfl, standsFor_made rfl⟩ .nil)) ⟨_, _, diamond_bare rfl⟩ .nil

/-- The machine after the module has run. -/
def diamondMachine : Machine :=
  ((runModule "m" diamondBody).run (Machine.start FileTree.empty [])).2

theorem diamond_runs : Runs diamondIndex (constructors diamondIndex) diamondMachine.heap ∧
    diamondMachine.heap.Follows diamondIndex ["m.A", "m.B", "m.C", "m.D"] := by
  have hok : ((runModule "m" diamondBody).run (Machine.start FileTree.empty [])).1.isOk = true := by
    decide +kernel
  unfold diamondMachine
  exact runs_constructors FileTree.empty [] (by decide) diamond_lines hok

end Heap

/-- The class that inherits the constructor of its only base has the same one on both sides. -/
theorem diamond_side_agrees :
    Index.make [Heap.diamondModule] [] = .ok Heap.diamondIndex ∧
    (∀ m ∈ [Heap.diamondModule], m.IsSource) ∧
    Heap.Runs Heap.diamondIndex (Heap.constructors Heap.diamondIndex) Heap.diamondMachine.heap ∧
    ∃ a b, (Heap.diamondIndex.provider.get "m.B").answer
        (Heap.diamondIndex.provider.after [.get "m.D"] Index.Memory.empty) = .ok (some a) ∧
      Heap.diamondMachine.describe Marker.standardAttribute (.class (Heap.librarySize + 1)) =
        .ok (some b) ∧
      a.name = b.name ∧ a.constructors = b.constructors := by
  obtain ⟨hruns, hfollows⟩ := Heap.diamond_runs
  obtain ⟨d, hp, hname⟩ := hfollows.depicts 1 "m.B" rfl
  have hd : Heap.diamondIndex.definitions.get? "m.B" = some d := hname ▸ hp.lists
  have hfacts : (Heap.diamondIndex.definitions.get? "m.B").map (fun d =>
      ((Heap.diamondIndex.knownBases d).map fun b => (Heap.diamondIndex.knownBases b).length,
        (Heap.diamondIndex.marking? d).toOption.isSome)) = some ([0], true) := by rfl
  simp only [hd, Option.map_some, Option.some.injEq, Prod.mk.injEq, List.map_eq_singleton_iff,
    List.length_eq_zero_iff] at hfacts
  obtain ⟨⟨b, hbases, hnone⟩, hmarked⟩ := hfacts
  have hled : Heap.diamondIndex.Led d := (Index.linear_of_bases hbases hnone).led
  cases hmarking : Heap.diamondIndex.marking? d with
  | error f =>
    rw [hmarking] at hmarked
    cases hmarked
  | ok marking =>
    have hmake : Index.make [Heap.diamondModule] [] = .ok Heap.diamondIndex := rfl
    obtain ⟨a, b, ha, hb, hnames, -, -, -, hagree⟩ := constructors_agree (m := Heap.diamondMachine)
      hmake Heap.diamond_source ⟨rfl, rfl⟩ hruns hp hmarking [.get "m.D"] Marker.standardAttribute
    rw [hname] at ha
    exact ⟨hmake, Heap.diamond_source, hruns, a, b, ha, hb, hnames, (hagree hled).1⟩

/-- The class below both needs an argument in its source. When its module has run it needs none: the
constructor of the second base is found before that of the shared one. -/
theorem diamond_constructors_differ :
    Index.make [Heap.diamondModule] [] = .ok Heap.diamondIndex ∧
    ((Heap.diamondIndex.provider.get "m.D").answer Index.Memory.empty).map
      (Option.map Declaration.constructors) = .ok (some [⟨1, true⟩]) ∧
    let m := ((runModule "m" Heap.diamondBody).run (Machine.start FileTree.empty [])).2
    (((provider Marker.standardAttribute ["m"]).get "m.D").answer
      ⟨m, Ordered.empty⟩).toOption.map (Option.map Declaration.constructors) =
        some (some [⟨0, true⟩]) := by
  refine ⟨rfl, rfl, ?_⟩
  decide +kernel

end Live

end Foundry
