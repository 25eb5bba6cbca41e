import Foundry.Live.Description
import Foundry.Proofs.Source.Discovery

/-!
What an iteration over live modules yields. A walk goes from the names of a module to the classes
that are nested in what it finds there, as long as they belong to the module. Names get longer on
the way down, so the walk ends, and marked objects that are met again count once.
-/

namespace Foundry.Live

open Query Text

variable {h : Heap} {module q : String} {o o' e : Object} {os : List Object} {depth k : Nat}

namespace Heap

/-- A class or a function of a module. -/
def Belongs (h : Heap) (module : String) (o : Object) : Prop :=
  ∃ q, Machine.nameOf? h o = some (module, q)

/-- A class keeps another one under an attribute, and its name is continued by that of the other. -/
def Nests (h : Heap) (o o' : Object) : Prop :=
  ∃ p c p' c' name, o = .class p ∧ h.class? p = some c ∧ c.attributes.get? name = some o' ∧
    o' = .class p' ∧ h.class? p' = some c' ∧ ∃ rest, c'.qualname = c.qualname ++ "." ++ rest

/-- The way down from an object through classes nested in each other, all of one module. -/
inductive Reaches (h : Heap) (module : String) : Object → Object → Prop
  | here {o : Object} : h.Belongs module o → Reaches h module o o
  | down {o o' e : Object} : h.Belongs module o → h.Nests o o' → Reaches h module o' e →
    Reaches h module o e

theorem Reaches.belongs (hr : h.Reaches module o e) : h.Belongs module e := by
  induction hr with
  | here ho => exact ho
  | down _ _ _ ih => exact ih

end Heap

namespace Machine

/-! ### Classes nested in an object -/

theorem mem_values_iff {names : Names} : o ∈ names.values ↔ ∃ name, names.get? name = some o := by
  simp only [Ordered.values, List.mem_map, Ordered.get?_eq_some_iff]
  constructor
  · rintro ⟨entry, hentry, rfl⟩
    exact ⟨entry.1, hentry⟩
  · rintro ⟨name, hname⟩
    exact ⟨(name, o), hname, rfl⟩

theorem nameOf?_class {p : Nat} (hq : nameOf? h (.class p) = some (module, q)) :
    ∃ c, h.class? p = some c ∧ c.module = module ∧ c.qualname = q := by
  obtain ⟨c, hc, heq⟩ := Option.map_eq_some_iff.1 hq
  exact ⟨c, hc, (Prod.mk.inj heq).1, (Prod.mk.inj heq).2⟩

theorem continues_iff {a b : String} :
    startsWith b (a ++ ".") = true ↔ ∃ rest, b = a ++ "." ++ rest :=
  startsWith_iff

theorem mem_nestedIn_iff (hq : nameOf? h o = some (module, q)) :
    o' ∈ nestedIn h o q ↔ h.Nests o o' := by
  cases o with
  | «class» p =>
    obtain ⟨c, hc, -, rfl⟩ := nameOf?_class hq
    simp only [nestedIn, hc, Option.map_some, Option.getD_some, List.mem_filter, mem_values_iff,
      Bool.and_eq_true]
    constructor
    · rintro ⟨⟨name, hname⟩, hclass, hbelow⟩
      cases o' with
      | «class» p' =>
        cases hc' : h.class? p' with
        | none => simp [nameOf?, hc'] at hbelow
        | some c' =>
          simp only [nameOf?, hc', Option.map_some] at hbelow
          exact ⟨p, c, p', c', name, rfl, hc, hname, rfl, hc', continues_iff.1 hbelow⟩
      | _ => cases hclass
    · rintro ⟨p, d, p', c', name, heq, hd, hname, rfl, hc', hbelow⟩
      cases heq
      obtain rfl : c = d := Option.some.inj (hc.symm.trans hd)
      refine ⟨⟨name, hname⟩, rfl, ?_⟩
      simp only [nameOf?, hc', Option.map_some]
      exact continues_iff.2 hbelow
  | _ =>
    constructor
    · intro hmem
      cases hmem
    · rintro ⟨p, c, p', c', name, heq, -⟩
      cases heq

/-! ### Depth -/

/-- How many classes have longer names than an object. -/
def rank (h : Heap) (o : Object) : Nat :=
  match nameOf? h o with
  | some (_, q) => (h.classes.toList.filter fun c => q.length < c.qualname.length).length
  | none => 0

theorem rank_le (h : Heap) (o : Object) : rank h o ≤ h.classes.size := by
  unfold rank
  split
  · exact Nat.le_trans (List.length_filter_le _ _) (Nat.le_of_eq Array.length_toList)
  · exact Nat.zero_le _

theorem rank_lt_of_nests (hn : h.Nests o o') : rank h o' < rank h o := by
  obtain ⟨p, c, p', c', name, rfl, hc, -, rfl, hc', rest, hrest⟩ := hn
  have hlt : c.qualname.length < c'.qualname.length := by
    rw [hrest]
    simp only [String.length_append]
    have hdot : ".".length = 1 := rfl
    omega
  have hmem : c' ∈ h.classes.toList := by
    rw [Heap.class?] at hc'
    exact Array.mem_toList_iff.2 (Array.mem_of_getElem? hc')
  simp only [rank, nameOf?, hc, hc', Option.map_some]
  have hsplit : (h.classes.toList.filter fun d => c'.qualname.length < d.qualname.length) =
      (h.classes.toList.filter fun d => c.qualname.length < d.qualname.length).filter
        fun d => c'.qualname.length < d.qualname.length := by
    rw [List.filter_filter]
    apply List.filter_congr
    intro d _
    rw [Bool.eq_iff_iff, Bool.and_eq_true, decide_eq_true_eq, decide_eq_true_eq]
    omega
  rw [hsplit, List.length_filter_lt_length_iff_exists]
  exact ⟨c', List.mem_filter.2 ⟨hmem, by simpa using hlt⟩, by simp⟩

theorem rank_nestedIn_lt (hq : nameOf? h o = some (module, q)) (ho : rank h o < depth + 1)
    (ho' : o' ∈ nestedIn h o q) : rank h o' < depth := by
  have hlt := rank_lt_of_nests ((mem_nestedIn_iff hq).1 ho')
  omega

theorem walk_nil (h : Heap) (module : String) (depth : Nat) : walk h module depth [] = [] := by
  cases depth <;> rfl

/-- A walk that may go deeper than names can get finds no more for it. -/
theorem walk_of_rank (hrank : ∀ o ∈ os, rank h o < depth) (hle : depth ≤ k) :
    walk h module k os = walk h module depth os := by
  induction depth generalizing os k with
  | zero =>
    cases os with
    | nil => exact walk_nil h module k
    | cons o os => exact absurd (hrank o List.mem_cons_self) (Nat.not_lt_zero _)
  | succ depth ih =>
    obtain ⟨k, rfl⟩ := Nat.exists_eq_add_of_le' (Nat.le_trans (Nat.le_add_left 1 depth) hle)
    have heach : ∀ o ∈ os, (match nameOf? h o with
        | some (m, q) => if m = module then o :: walk h module k (nestedIn h o q) else []
        | none => []) = match nameOf? h o with
        | some (m, q) => if m = module then o :: walk h module depth (nestedIn h o q) else []
        | none => [] := by
      intro o ho
      cases hq : nameOf? h o with
      | none => rfl
      | some name =>
        obtain ⟨m, q⟩ := name
        -- The rank falls below the depth that is left, so the induction goes on.
        have hnested : ∀ o' ∈ nestedIn h o q, rank h o' < depth :=
          fun o' ho' => rank_nestedIn_lt hq (hrank o ho) ho'
        simp only [ih hnested (Nat.le_of_succ_le_succ hle)]
    exact List.flatMap_congr heach

theorem reaches_of_mem_walk (hmem : e ∈ walk h module depth os) :
    ∃ o ∈ os, h.Reaches module o e := by
  induction depth generalizing os with
  | zero => cases hmem
  | succ depth ih =>
    obtain ⟨o, ho, he⟩ := List.mem_flatMap.1 hmem
    refine ⟨o, ho, ?_⟩
    cases hq : nameOf? h o with
    | none =>
      rw [hq] at he
      cases he
    | some name =>
      obtain ⟨m, q⟩ := name
      rw [hq] at he
      dsimp only at he
      split at he
      · rename_i hm
        have hbelongs : h.Belongs module o := ⟨q, hm ▸ hq⟩
        rcases List.mem_cons.1 he with rfl | he
        · exact .here hbelongs
        · obtain ⟨o', ho', hr⟩ := ih he
          exact .down hbelongs ((mem_nestedIn_iff hq).1 ho') hr
      · cases he

theorem mem_walk_of_reaches (hr : h.Reaches module o e) (ho : o ∈ os)
    (hrank : ∀ o ∈ os, rank h o < depth) : e ∈ walk h module depth os := by
  induction hr generalizing os depth with
  | @here o hbelongs =>
    obtain ⟨q, hq⟩ := hbelongs
    obtain ⟨depth, rfl⟩ := Nat.exists_eq_succ_of_ne_zero (Nat.ne_zero_of_lt (hrank o ho))
    refine List.mem_flatMap.2 ⟨o, ho, ?_⟩
    rw [hq]
    simp
  | @down o o' e hbelongs hn _ ih =>
    obtain ⟨q, hq⟩ := hbelongs
    obtain ⟨depth, rfl⟩ := Nat.exists_eq_succ_of_ne_zero (Nat.ne_zero_of_lt (hrank o ho))
    refine List.mem_flatMap.2 ⟨o, ho, ?_⟩
    have hnested : ∀ o' ∈ nestedIn h o q, rank h o' < depth :=
      fun o' ho' => rank_nestedIn_lt hq (hrank o ho) ho'
    have he := ih ((mem_nestedIn_iff hq).2 hn) hnested
    rw [hq]
    simp [he]

/-! ### Marked objects -/

def Marks (m : Machine) (slot : String) (o : Object) : Prop :=
  (m.marking? slot o).isSome = true

/-- An object that is bound in a module it belongs to, or nested below a class that is. -/
def Holds (m : Machine) (module : String) (o : Object) : Prop :=
  ∃ i name top, m.modules.get? module = some i ∧ (m.heap.namesAt i.names).get? name = some top ∧
    m.heap.Reaches module top o

variable {m : Machine} {slot : String} {modules : List String}

theorem mem_walkModule_iff : o ∈ m.walkModule module ↔ m.Holds module o := by
  unfold walkModule Holds
  cases hi : m.modules.get? module with
  | none => simp
  | some i =>
    have hrank : ∀ top ∈ (m.heap.namesAt i.names).values,
        rank m.heap top < m.heap.classes.size + 1 :=
      fun top _ => Nat.lt_succ_of_le (rank_le m.heap top)
    constructor
    · intro hmem
      obtain ⟨top, htop, hr⟩ := reaches_of_mem_walk hmem
      obtain ⟨name, hname⟩ := mem_values_iff.1 htop
      exact ⟨i, name, top, rfl, hname, hr⟩
    · rintro ⟨i, name, top, hsame, hname, hr⟩
      cases hsame
      exact mem_walk_of_reaches hr (mem_values_iff.2 ⟨name, hname⟩) hrank

theorem isSame_iff (hmarked : m.Marks slot o) : isSame o o' = true ↔ o = o' := by
  cases o with
  | «class» p => cases o' <;> simp [isSame]
  | function p => cases o' <;> simp [isSame]
  | _ => cases hmarked

/-- What is kept when an object is met. -/
theorem kept_step (m : Machine) (slot : String) (acc : List Object) (o : Object) :
    let kept := if (m.marking? slot o).isNone || acc.any (isSame o) then acc else acc ++ [o]
    (acc.Nodup → kept.Nodup) ∧ ∀ e, e ∈ kept ↔ e ∈ acc ∨ m.Marks slot e ∧ e = o := by
  by_cases hmarked : m.Marks slot o
  · have hsome : (m.marking? slot o).isNone = false := Option.isNone_eq_false_iff.2 hmarked
    have hany : acc.any (isSame o) = true ↔ o ∈ acc := by
      simp only [List.any_eq_true, isSame_iff hmarked, exists_eq_right']
    by_cases hmem : o ∈ acc
    · rw [if_pos (by rw [hany.2 hmem, Bool.or_true])]
      refine ⟨id, fun e => ⟨.inl, ?_⟩⟩
      rintro (he | ⟨-, rfl⟩)
      · exact he
      · exact hmem
    · rw [if_neg (by simpa [hsome, hany] using hmem)]
      refine ⟨fun hacc => List.nodup_append.2 ⟨hacc, by simp, ?_⟩, fun e => ?_⟩
      · rintro a ha b hb rfl
        exact hmem (List.mem_singleton.1 hb ▸ ha)
      · rw [List.mem_append, List.mem_singleton]
        exact or_congr_right ⟨fun he => ⟨he ▸ hmarked, he⟩, And.right⟩
  · have hnone : (m.marking? slot o).isNone = true := by
      simpa [Marks] using hmarked
    rw [if_pos (by rw [hnone, Bool.true_or])]
    refine ⟨id, fun e => ⟨.inl, ?_⟩⟩
    rintro (he | ⟨he, rfl⟩)
    · exact he
    · exact absurd he hmarked

theorem kept_fold (m : Machine) (slot : String) (os acc : List Object) :
    let kept := os.foldl (fun acc o =>
      if (m.marking? slot o).isNone || acc.any (isSame o) then acc else acc ++ [o]) acc
    (acc.Nodup → kept.Nodup) ∧ ∀ e, e ∈ kept ↔ e ∈ acc ∨ m.Marks slot e ∧ e ∈ os := by
  induction os generalizing acc with
  | nil => exact ⟨id, fun e => by simp⟩
  | cons o os ih =>
    obtain ⟨hnodup, hmem⟩ := m.kept_step slot acc o
    rw [List.foldl_cons]
    refine ⟨fun hacc => (ih _).1 (hnodup hacc), fun e => ?_⟩
    rw [(ih _).2, hmem, or_assoc, ← and_or_left, List.mem_cons]

theorem mem_markedObjects_iff :
    o ∈ m.markedObjects slot modules ↔
      m.Marks slot o ∧ ∃ module ∈ modules, m.Holds module o := by
  rw [markedObjects, (m.kept_fold slot _ []).2]
  simp only [List.not_mem_nil, false_or, List.mem_flatMap, mem_walkModule_iff]

theorem nodup_markedObjects (m : Machine) (slot : String) (modules : List String) :
    (m.markedObjects slot modules).Nodup :=
  (m.kept_fold slot _ []).1 List.nodup_nil

/-! ### Descriptions -/

/-- A class or a function whose name can be described. -/
def Nameable (m : Machine) (o : Object) : Prop :=
  ∃ module q n, nameOf? m.heap o = some (module, q) ∧ describedName module q = .ok n

theorem Nameable.describe (hn : m.Nameable o) (slot : String) :
    ∃ d, m.describe slot o = .ok (some d) ∧ d.marking = m.marking? slot o := by
  obtain ⟨module, q, n, hname, hdescribed⟩ := hn
  cases o with
  | «class» p =>
    obtain ⟨c, hc, rfl, rfl⟩ := nameOf?_class hname
    simp only [Machine.describe, hc, describeClass, hdescribed]
    exact ⟨_, rfl, rfl⟩
  | function p =>
    obtain ⟨f, hf, heq⟩ := Option.map_eq_some_iff.1 hname
    cases heq
    simp only [Machine.describe, hf, describeFunction, hdescribed]
    exact ⟨_, rfl, rfl⟩
  | _ => cases hname

end Machine

/-! ### Iterations -/

/-- The visit to a marked object. -/
def visit (slot : String) (o : Object) : Query Memory (Option Declaration) := do
  match (← get).machine.describe slot o with
  | .ok d => return d
  | .error f => throw f

theorem visit_run {slot : String} {o : Object} {s : Memory} {d : Declaration}
    (hd : s.machine.describe slot o = .ok (some d)) : (visit slot o).run s = (.ok (some d), s) := by
  unfold visit
  rw [run_get_bind, hd]
  rfl

theorem exhaust_visits {slot : String} {s : Memory} {os : List Object}
    (hos : ∀ o ∈ os, s.machine.Nameable o) :
    ∃ ds, (Provider.exhaust (os.map (visit slot))).run s = (.ok ds, s) ∧
      List.Forall₂ (fun o d => s.machine.describe slot o = .ok (some d)) os ds := by
  induction os with
  | nil => exact ⟨[], rfl, .nil⟩
  | cons o os ih =>
    obtain ⟨ho, hrest⟩ := List.forall_mem_cons.1 hos
    obtain ⟨d, hd, -⟩ := ho.describe slot
    obtain ⟨ds, hds, hall⟩ := ih hrest
    refine ⟨d :: ds, ?_, .cons hd hall⟩
    rw [List.map_cons, Provider.exhaust, run_bind_ok (visit_run hd), run_bind_ok hds]
    rfl

theorem visits_run (slot : String) (modules : List String) (s : Memory) :
    (visits slot modules).run s =
      (.ok ((s.machine.markedObjects slot modules).map (visit slot)), s) := by
  unfold visits
  rw [run_get_bind]
  rfl

theorem discover_run (slot : String) (modules : List String) (s : Memory) :
    (provider slot modules).discover.run s =
      (Provider.exhaust ((s.machine.markedObjects slot modules).map (visit slot))).run s :=
  run_bind_ok (visits_run slot modules s) Provider.exhaust

/-- An iteration yields one declaration for each marked object that modules hold, and for nothing
else, as long as the names of these objects can be described. It looks no deeper than names get. -/
theorem discovers_held_objects (s : Memory) (slot : String) (modules : List String)
    (hnamed : ∀ module ∈ modules, ∀ o, s.machine.Holds module o → s.machine.Marks slot o →
      s.machine.Nameable o) :
    (∃ os ds, (provider slot modules).discover.run s = (.ok ds, s) ∧
      List.Forall₂ (fun o d => s.machine.describe slot o = .ok (some d)) os ds ∧ os.Nodup ∧
      ∀ o, o ∈ os ↔ s.machine.Marks slot o ∧ ∃ module ∈ modules, s.machine.Holds module o) ∧
    (∀ module o, s.machine.Holds module o → s.machine.heap.Belongs module o) ∧
    ∀ module depth os, s.machine.heap.classes.size < depth →
      Machine.walk s.machine.heap module depth os =
        Machine.walk s.machine.heap module (s.machine.heap.classes.size + 1) os := by
  refine ⟨?_, ?_, ?_⟩
  · have hmarked : ∀ o ∈ s.machine.markedObjects slot modules, s.machine.Nameable o := by
      intro o ho
      obtain ⟨hmarks, module, hmodule, hholds⟩ := Machine.mem_markedObjects_iff.1 ho
      exact hnamed module hmodule o hholds hmarks
    obtain ⟨ds, hrun, hall⟩ := exhaust_visits hmarked
    exact ⟨_, ds, (discover_run slot modules s).trans hrun, hall,
      s.machine.nodup_markedObjects slot modules, fun o => Machine.mem_markedObjects_iff⟩
  · rintro module o ⟨i, name, top, -, -, hr⟩
    exact hr.belongs
  · intro module depth os hdepth
    exact Machine.walk_of_rank
      (fun o _ => Nat.lt_succ_of_le (Machine.rank_le s.machine.heap o)) hdepth

/-! ### Two modules -/

/-- A marked class without ancestors. -/
def markedClass (module qualname identifier : String) (attributes : Names) : Class where
  module := module
  qualname := qualname
  bases := []
  order := []
  metaclass := Place.type
  attributes := attributes.insert "__factory__" (.mark ⟨.text identifier, .reference ⟨"T", none⟩⟩)
  abstracts := []
  isProtocol := false
  fields := none
  members := []
  isFixed := false
  isFinal := false
  layout := Place.object

/-- A class that both modules have names for, and one nested in it that refers back to it and says
which module it belongs to. -/
def twoModules (inner : String) : Machine where
  files := FileTree.empty
  searched := []
  modules := Ordered.ofList
    [("m", ⟨0, none, none, [], false, false⟩), ("n", ⟨1, none, none, [], false, false⟩)]
  heap := {
    classes := #[markedClass "m" "Outer" "o" (Ordered.ofList [("Inner", .class 1)]),
      markedClass inner "Outer.Inner" "i" (Ordered.ofList [("around", .class 0)])]
    functions := #[]
    names := #[Ordered.ofList [("Outer", .class 0), ("Alias", .class 0)],
      Ordered.ofList [("Outer", .class 0)]] }
  spans := []

theorem both_classes_discovered :
    ∃ os ds, (provider "__factory__" ["m", "n"]).discover.run ⟨twoModules "m", Ordered.empty⟩ =
        (.ok ds, ⟨twoModules "m", Ordered.empty⟩) ∧
      List.Forall₂ (fun o d => (twoModules "m").describe "__factory__" o = .ok (some d)) os ds ∧
      os.Nodup ∧ .class 0 ∈ os ∧ .class 1 ∈ os := by
  have hmarked : (twoModules "m").markedObjects "__factory__" ["m", "n"] =
      [.class 0, .class 1] := rfl
  obtain ⟨⟨os, ds, hrun, hall, hnodup, hmem⟩, -⟩ :=
    discovers_held_objects ⟨twoModules "m", Ordered.empty⟩ "__factory__" ["m", "n"] <| by
      intro module hmodule o hholds hmarks
      have ho := Machine.mem_markedObjects_iff.2 ⟨hmarks, module, hmodule, hholds⟩
      rw [hmarked, List.mem_cons, List.mem_singleton] at ho
      rcases ho with rfl | rfl
      · exact ⟨"m", "Outer", ⟨"m", "Outer"⟩, rfl, rfl⟩
      · exact ⟨"m", "Outer.Inner", ⟨"m", "Outer.Inner"⟩, rfl, rfl⟩
  refine ⟨os, ds, hrun, hall, hnodup, ?_, ?_⟩
  · exact (hmem _).2 (Machine.mem_markedObjects_iff.1 (by simp [hmarked]))
  · exact (hmem _).2 (Machine.mem_markedObjects_iff.1 (by simp [hmarked]))

/-- The nested class belongs to a module that is looked through, but not to the module of the class
it is nested in: the walk of neither module reaches it. -/
theorem class_of_other_module_missed :
    (twoModules "n").Marks "__factory__" (.class 1) ∧
    (twoModules "n").heap.Belongs "n" (.class 1) ∧
    (twoModules "n").heap.Nests (.class 0) (.class 1) ∧
    (twoModules "n").Holds "m" (.class 0) ∧
    ((provider "__factory__" ["m", "n"]).discover.answer ⟨twoModules "n", Ordered.empty⟩).map
      (List.map Declaration.qualifiedName) = .ok ["m.Outer"] := by
  refine ⟨rfl, ⟨"Outer.Inner", rfl⟩, ?_, ?_, rfl⟩
  · exact ⟨0, _, 1, _, "Inner", rfl, rfl, rfl, rfl, rfl, "Inner", rfl⟩
  · exact ⟨_, "Outer", .class 0, rfl, rfl, .here ⟨"Outer", rfl⟩⟩

end Foundry.Live
