import Foundry.Proofs.Live.WellMade

/-!
Class statements on a heap, one after another: what each of them adds, and which classes there are
after them.
-/

namespace Foundry.Live

open Foundry.Source (Index Definition)

namespace Heap

variable {x : Index} {r : BodyReading} {h h' : Heap} {d : Definition} {made : List String}

/-! ### Single statements -/

theorem extends_addFunction (h : Heap) (f : Function) : h.Extends (h.addFunction f).2 := by
  refine ⟨fun _ _ hc => hc, fun p g hg => ?_⟩
  have hlt : p < h.functions.size := (Array.getElem?_eq_some_iff.1 hg).1
  unfold function? addFunction
  rw [Array.getElem?_push, if_neg (Nat.ne_of_lt hlt)]
  exact hg

theorem Runs.makeClass {name : String} {written : List Nat} {own : Names} {metaclass p : Nat}
    (hr : Runs x r h) (hd : x.Lists d) (hclass : d.parts.isSome = true)
    (hnew : ∀ q, ¬h.Depicts x q d) (hwritten : List.Forall₂ (h.Stands x) (x.bases d) written)
    (hheld : ∀ n o, own.get? n = some o → h.holds o = true) (hbinds : r.Binds h d own)
    (hprepare : h.prepareClass name written none = .ok metaclass)
    (hmake : h.makeClass d.module d.qualname written metaclass own false = .ok (p, h')) :
    Runs x r h' ∧ p = h.classes.size ∧ h'.names = h.names ∧ Defines x h h' d := by
  have hw := hr.wellMade
  obtain ⟨c, ha, rfl, rfl⟩ := hw.exists_adds hwritten hprepare hmake
  exact ⟨.statement hr hd hclass hnew hwritten hheld hbinds hprepare hmake, rfl, rfl,
    ha.defines hw.library hd hclass⟩

/-- The heap after a class statement without keywords, unless the statement fails. -/
def define (h : Heap) (d : Definition) (written : List Nat) (own : Names) : Option Heap :=
  match h.prepareClass d.qualname written none with
  | .error _ => none
  | .ok metaclass =>
    match h.makeClass d.module d.qualname written metaclass own false with
    | .error _ => none
    | .ok (_, h') => some h'

theorem Runs.define {written : List Nat} {own : Names} (hr : Runs x r h) (hd : x.Lists d)
    (hclass : d.parts.isSome = true) (hnew : ∀ q, ¬h.Depicts x q d)
    (hwritten : List.Forall₂ (h.Stands x) (x.bases d) written)
    (hheld : own.values.all h.holds = true) (hbinds : r.Binds h d own)
    (hdefine : h.define d written own = some h') :
    Runs x r h' ∧ Defines x h h' d := by
  have hall : ∀ n o, own.get? n = some o → h.holds o = true := by
    intro n o ho
    rw [Ordered.get?_eq_some_iff] at ho
    exact List.all_eq_true.1 hheld o (List.mem_map_of_mem ho)
  unfold Heap.define at hdefine
  split at hdefine
  · cases hdefine
  · rename_i metaclass hprepare
    split at hdefine
    · cases hdefine
    · rename_i p h₁ hmake
      obtain rfl := Option.some.inj hdefine
      obtain ⟨hr', -, -, hdefines⟩ :=
        hr.makeClass hd hclass hnew hwritten hall hbinds hprepare hmake
      exact ⟨hr', hdefines⟩

/-! ### One after another -/

/-- The class that a base stands for, after classes of these names were made one after another. -/
def standsFor (made : List String) (n : String) (p : Nat) : Bool :=
  n == "builtins.object" && p == Place.object || n == "abc.ABC" && p == placeOf "ABC" ||
    librarySize ≤ p && made[p - librarySize]? == some n

theorem standsFor_made {n : String} {i : Nat} (hn : made[i]? = some n) :
    standsFor made n (librarySize + i) = true := by
  simp [standsFor, hn]

/-- The classes beyond those of the library have these names, in this order. -/
structure Follows (x : Index) (h : Heap) (made : List String) : Prop where
  size : h.classes.size = librarySize + made.length
  depicts : ∀ i n, made[i]? = some n → ∃ d, h.Depicts x (librarySize + i) d ∧ d.qualifiedName = n
  only : ∀ p d, h.Depicts x p d → d.qualifiedName ∈ made

theorem follows_nil (hsize : h.classes.size = librarySize) : h.Follows x [] := by
  refine ⟨?_, fun i n hn => ?_, fun p d hd => ?_⟩
  · rw [hsize, List.length_nil, Nat.add_zero]
  · cases hn
  · obtain ⟨c, hc, -⟩ := hd.named
    have hlt := lt_of_class? hc
    have hafter := hd.after
    omega

theorem Follows.defines (hf : h.Follows x made) (hd : Defines x h h' d) :
    h'.Follows x (made ++ [d.qualifiedName]) := by
  refine ⟨?_, fun i n hn => ?_, fun p e he => ?_⟩
  · rw [hd.size, hf.size, List.length_append, List.length_singleton, Nat.add_assoc]
  · rcases Nat.lt_or_ge i made.length with hlt | hge
    · rw [List.getElem?_append_left hlt] at hn
      obtain ⟨e, he, hname⟩ := hf.depicts i n hn
      exact ⟨e, he.extends hd.grows, hname⟩
    · rw [List.getElem?_append_right hge, List.getElem?_singleton] at hn
      obtain ⟨hzero, hname⟩ := Option.ite_none_right_eq_some.1 hn
      have hi : librarySize + i = h.classes.size := by
        rw [hf.size]
        omega
      exact ⟨d, hi ▸ hd.depicts, Option.some.inj hname⟩
  · rw [List.mem_append, List.mem_singleton]
    rcases hd.only p e he with ⟨-, rfl⟩ | he
    · exact .inr rfl
    · exact .inl (hf.only p e he)

theorem Follows.stands (hf : h.Follows x made) {n : String} {p : Nat}
    (hs : standsFor made n p = true) : h.Stands x n p := by
  simp only [standsFor, Bool.or_eq_true, Bool.and_eq_true, beq_iff_eq, decide_eq_true_eq] at hs
  rcases hs with (⟨rfl, rfl⟩ | ⟨rfl, rfl⟩) | ⟨hge, hn⟩
  · exact .object
  · exact .abstractBase
  · obtain ⟨d, hd, rfl⟩ := hf.depicts _ _ hn
    rw [Nat.add_sub_cancel' hge] at hd
    exact .made hd

theorem Follows.fresh (hf : h.Follows x made) (hfresh : made.contains d.qualifiedName = false)
    (q : Nat) : ¬h.Depicts x q d := by
  intro hq
  have hmem := hf.only q d hq
  rw [← List.contains_iff_mem, hfresh] at hmem
  cases hmem

end Heap

end Foundry.Live
