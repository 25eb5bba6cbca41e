import Foundry.Proofs.Source.Hierarchy
import Foundry.Proofs.Text.Splitting

/-!
How names are passed on from module to module: the links that a name can be followed along, and what
following them up to the limit finds.
-/

namespace Foundry.Source

open Foundry.Text

/-! ### Modules as they are read -/

/-- The names the module knows are those that its body binds. -/
def Module.IsRead (m : Module) : Prop :=
  ∃ name path body, m = Module.make name path body

/-- A class of a module is known by the name of the module and its own. -/
def Module.Owns (m : Module) : Prop :=
  ∀ head c, m.classes.get? head = some c → c = m.name ++ "." ++ head

theorem Module.Owns.foldl {α : Type} {m : Module} (h : m.Owns) {f : Module → α → Module}
    (hf : ∀ k a, (f k a).name = k.name ∧ (f k a).classes = k.classes) (as : List α) :
    (as.foldl f m).Owns := by
  refine List.foldlRecOn as f h ?_
  intro k hk a _ head c hc
  obtain ⟨hname, hclasses⟩ := hf k a
  rw [hclasses] at hc
  rw [hname]
  exact hk head c hc

theorem Module.Owns.addSymbols {m : Module} (h : m.Owns) (s : Stmt) : (m.addSymbols s).Owns := by
  unfold Module.addSymbols
  split
  · refine h.foldl (fun k a => ?_) _
    split <;> exact ⟨rfl, rfl⟩
  · split
    · exact h
    · refine h.foldl (fun k a => ?_) _
      split <;> exact ⟨rfl, rfl⟩
  · rename_i name _ _ _ _
    intro head c hc
    by_cases hn : head = name
    · subst hn
      rw [Ordered.get?_insert_self, Option.some.injEq] at hc
      exact hc.symm
    · rw [Ordered.get?_insert_of_ne _ _ hn] at hc
      exact h head c hc
  · exact h

theorem Module.IsRead.owns {m : Module} (h : m.IsRead) : m.Owns := by
  obtain ⟨name, path, body, rfl⟩ := h
  refine List.foldlRecOn (topLevel body) Module.addSymbols ?_ fun k hk s _ => hk.addSymbols s
  intro head c hc
  cases hc

/-! ### Chains of links -/

/-- A number of steps leads from one to the other. -/
inductive Steps {α : Type} (r : α → α → Prop) : Nat → α → α → Prop
  | zero (a : α) : Steps r 0 a a
  | succ {k : Nat} {a b c : α} : r a b → Steps r k b c → Steps r (k + 1) a c

theorem Steps.reaches {α : Type} {r : α → α → Prop} {k : Nat} {a b : α} (h : Steps r k a b) :
    Relation.ReflTransGen r a b := by
  induction h with
  | zero a => exact .refl
  | succ hab _ ih => exact .head hab ih

namespace Index

variable {x : Index} {m : Module} {parts tail : List String} {head name n : String}

/-! ### The module a name starts with -/

/-- A name cut at the longest proper start that is a module. -/
structure CutAt (x : Index) (parts : List String) (k : Nat) (m : Module) (head : String)
    (tail : List String) : Prop where
  pos : 0 < k
  rest : parts.drop k = head :: tail
  module : x.modules.get? (dotted (parts.take k)) = some m
  longest : ∀ j, k < j → j < parts.length → x.modules.get? (dotted (parts.take j)) = none

theorem CutAt.lt {k : Nat} (h : x.CutAt parts k m head tail) : k < parts.length := by
  have hlen := congrArg List.length h.rest
  rw [List.length_drop, List.length_cons] at hlen
  omega

theorem CutAt.append_eq {k : Nat} (h : x.CutAt parts k m head tail) :
    parts.take k ++ head :: tail = parts := by
  rw [← h.rest, List.take_append_drop]

theorem splitModule_eq_some_iff {i : Nat} (hi : i < parts.length)
    (hlong : ∀ j, i < j → j < parts.length → x.modules.get? (dotted (parts.take j)) = none) :
    x.splitModule parts i = some (m, head, tail) ↔ ∃ k, x.CutAt parts k m head tail := by
  induction i with
  | zero =>
    constructor
    · intro h
      cases h
    · rintro ⟨k, hk⟩
      have hnone := hlong k hk.pos hk.lt
      rw [hk.module] at hnone
      cases hnone
  | succ i ih =>
    rw [splitModule]
    cases hget : x.modules.get? (dotted (parts.take (i + 1))) with
    | some m' =>
      obtain ⟨head', tail', hrest⟩ := List.exists_cons_of_length_pos
        (show 0 < (parts.drop (i + 1)).length by rw [List.length_drop]; omega)
      simp only [hrest]
      constructor
      · intro h
        obtain ⟨rfl, rfl, rfl⟩ : m' = m ∧ head' = head ∧ tail' = tail := by simpa using h
        exact ⟨i + 1, Nat.succ_pos i, hrest, hget, hlong⟩
      · rintro ⟨k, hk⟩
        -- Neither cut can be longer than the other.
        have hle : k ≤ i + 1 := by
          by_contra hlt
          have hnone := hlong k (by omega) hk.lt
          rw [hk.module] at hnone
          cases hnone
        have hge : i + 1 ≤ k := by
          by_contra hlt
          have hnone := hk.longest (i + 1) (by omega) hi
          rw [hget] at hnone
          cases hnone
        obtain rfl : k = i + 1 := Nat.le_antisymm hle hge
        have hm := hget.symm.trans hk.module
        have hr := hrest.symm.trans hk.rest
        simp only [Option.some.injEq, List.cons.injEq] at hm hr
        rw [hm, hr.1, hr.2]
    | none =>
      simp only
      refine ih (by omega) fun j hij hj => ?_
      by_cases hlast : j = i + 1
      · rw [hlast, hget]
      · exact hlong j (by omega) hj

/-- A name starts with a module: the longest proper start that is one, the segment after it and the
rest. -/
def StartsIn (x : Index) (name : String) (m : Module) (head : String) (tail : List String) : Prop :=
  ∃ k, x.CutAt (segments name) k m head tail

theorem splitModule_iff :
    x.splitModule (segments name) ((segments name).length - 1) = some (m, head, tail) ↔
      x.StartsIn name m head tail := by
  have hlen := List.length_pos_iff.2 (segments_ne_nil name)
  refine splitModule_eq_some_iff (by omega) fun j hj hlt => ?_
  omega

/-- A name that starts with a module and a class of it is the name of the class and what follows. -/
theorem StartsIn.dotted_class (hx : x.Keyed) (hm : m.Owns) {c : String}
    (h : x.StartsIn name m head tail) (hc : m.classes.get? head = some c) :
    dotted (c :: tail) = name := by
  obtain ⟨k, hk⟩ := h
  have hne : (segments name).take k ≠ [] := by
    have hpos := hk.pos
    have hlt := hk.lt
    rw [← List.length_pos_iff, List.length_take]
    omega
  have hstart : m.name = dotted ((segments name).take k) := hx.module _ _ hk.module
  have hparts : dotted (c :: tail) = dotted ((segments name).take k ++ head :: tail) := by
    rw [dotted_append hne (List.cons_ne_nil head tail), ← hstart, hm head c hc]
    cases tail with
    | nil => rfl
    | cons t ts =>
      rw [dotted_cons (List.cons_ne_nil t ts), dotted_cons (List.cons_ne_nil t ts)]
      simp only [String.append_assoc]
  rw [hparts, hk.append_eq, dotted_segments]

/-! ### Links -/

/-- A name that is no definition and starts with a module that has no class of the next segment. -/
structure PassedOn (x : Index) (name : String) (m : Module) (head : String) (tail : List String) :
    Prop where
  undefined : x.defines name = false
  starts : x.StartsIn name m head tail
  noClass : m.classes.get? head = none

/-- A module passes a name on to what it imports by that name. -/
inductive ImportLink (x : Index) : String → String → Prop
  | mk {name head target : String} {tail : List String} {m : Module} :
    x.PassedOn name m head tail → m.imports.get? head = some target →
      ImportLink x name (dotted (target :: tail))

/-- A module passes a name that it does not import on to a module it imports all names of. -/
inductive StarLink (x : Index) : String → String → Prop
  | mk {name head star : String} {tail : List String} {m : Module} :
    x.PassedOn name m head tail → m.imports.get? head = none → star ∈ m.stars →
      StarLink x name (dotted (star :: head :: tail))

def Link (x : Index) (a b : String) : Prop :=
  x.ImportLink a b ∨ x.StarLink a b

theorem StartsIn.unique {m' : Module} {head' : String} {tail' : List String}
    (h : x.StartsIn name m head tail) (h' : x.StartsIn name m' head' tail') :
    m = m' ∧ head = head' ∧ tail = tail' := by
  have hsplit := (splitModule_iff.2 h).symm.trans (splitModule_iff.2 h')
  simpa using hsplit

theorem PassedOn.unique {m' : Module} {head' : String} {tail' : List String}
    (h : x.PassedOn name m head tail) (h' : x.PassedOn name m' head' tail') :
    m = m' ∧ head = head' ∧ tail = tail' :=
  h.starts.unique h'.starts

/-- No module passes the name on. -/
def Final (x : Index) (name : String) : Prop :=
  ∀ m head tail, ¬x.PassedOn name m head tail

theorem final_of_splitModule
    (h : x.splitModule (segments name) ((segments name).length - 1) = none) : x.Final name := by
  intro m head tail hp
  rw [splitModule_iff.2 hp.starts] at h
  cases h

/-- A name that starts with a module and a class of it is not passed on. -/
theorem final_of_class {c : String} (hstarts : x.StartsIn name m head tail)
    (hclass : m.classes.get? head = some c) : x.Final name := by
  intro m' head' tail' hp
  obtain ⟨rfl, rfl, rfl⟩ := hstarts.unique hp.starts
  rw [hp.noClass] at hclass
  cases hclass

theorem final_of_defines (h : x.defines name = true) : x.Final name :=
  fun _ _ _ hp => absurd (h.symm.trans hp.undefined) (by simp)

theorem ImportLink.unique {n' : String} (h : x.ImportLink name n) (h' : x.ImportLink name n') :
    n = n' := by
  obtain ⟨hp, hi⟩ := h
  obtain ⟨hp', hi'⟩ := h'
  obtain ⟨rfl, rfl, rfl⟩ := hp.unique hp'
  rw [Option.some.inj (hi.symm.trans hi')]

theorem Link.undefined (h : x.Link name n) : x.defines name = false := by
  rcases h with ⟨hp, -⟩ | ⟨hp, -, -⟩
  · exact hp.undefined
  · exact hp.undefined

theorem Link.eq_of_importLink {n' : String} (h : x.Link name n') (hi : x.ImportLink name n) :
    n = n' := by
  rcases h with h | ⟨hp, hnone, -⟩
  · exact hi.unique h
  · obtain ⟨hp', hsome⟩ := hi
    obtain ⟨rfl, rfl, rfl⟩ := hp.unique hp'
    cases hnone.symm.trans hsome

/-! ### Following links -/

/-- Modules and definitions are listed under their names, and classes of modules too. -/
structure WellRead (x : Index) : Prop extends x.Keyed where
  owns : ∀ n m, x.modules.get? n = some m → m.Owns

/-- One round of following links. -/
inductive Round (x : Index) (follow : String → String) (name : String) : String → Prop
  | found : x.defines name = true → Round x follow name name
  | viaImport {n : String} : x.ImportLink name n → Round x follow name (follow n)
  | viaStar {n : String} : x.StarLink name n → x.defines (follow n) = true →
    Round x follow name (follow n)
  | lost : x.defines name = false → (∀ n, ¬x.ImportLink name n) →
    (∀ n, x.StarLink name n → x.defines (follow n) = false) → Round x follow name name

theorem Final.round {follow : String → String} (h : x.Final name)
    (hdef : x.defines name = false) : x.Round follow name name := by
  refine .lost hdef ?_ ?_
  · rintro n ⟨hp, -⟩
    exact h _ _ _ hp
  · rintro n ⟨hp, -, -⟩
    exact absurd hp (h _ _ _)

/-- The module looks at its star imports for a name that it neither defines nor imports. -/
theorem PassedOn.round_of_stars {follow : String → String} (hp : x.PassedOn name m head tail)
    (himport : m.imports.get? head = none) :
    x.Round follow name ((m.stars.findSome? fun star =>
      if x.defines (follow (dotted (star :: head :: tail))) = true then
        some (follow (dotted (star :: head :: tail))) else none).getD name) := by
  cases hstar : m.stars.findSome? fun star =>
      if x.defines (follow (dotted (star :: head :: tail))) = true then
        some (follow (dotted (star :: head :: tail))) else none with
  | some found =>
    obtain ⟨star, hmem, hfound⟩ := List.exists_of_findSome?_eq_some hstar
    rw [Option.ite_none_right_eq_some, Option.some.injEq] at hfound
    obtain ⟨hdefines, rfl⟩ := hfound
    exact .viaStar ⟨hp, himport, hmem⟩ hdefines
  | none =>
    rw [List.findSome?_eq_none_iff] at hstar
    refine .lost hp.undefined ?_ ?_
    · rintro n ⟨hp', hsome⟩
      obtain ⟨rfl, rfl, rfl⟩ := hp.unique hp'
      cases himport.symm.trans hsome
    · rintro n ⟨hp', -, hmem⟩
      obtain ⟨rfl, rfl, rfl⟩ := hp.unique hp'
      have hnone := hstar _ hmem
      simpa using hnone

theorem canonical_round (hx : x.WellRead) (hops : Nat) (name : String) :
    x.Round (x.canonical hops) name (x.canonical (hops + 1) name) := by
  rw [canonical]
  cases hdef : x.defines name with
  | true => exact .found hdef
  | false =>
    simp only [Bool.false_eq_true, if_false]
    cases hsplit : x.splitModule (segments name) ((segments name).length - 1) with
    | none => exact (final_of_splitModule hsplit).round hdef
    | some r =>
      obtain ⟨m, head, tail⟩ := r
      have hstarts := splitModule_iff.1 hsplit
      simp only
      cases hclass : m.classes.get? head with
      | some c =>
        obtain ⟨k, hk⟩ := hstarts
        simp only
        rw [StartsIn.dotted_class hx.toKeyed (hx.owns _ m hk.module) ⟨k, hk⟩ hclass]
        exact (final_of_class ⟨k, hk⟩ hclass).round hdef
      | none =>
        have hp : x.PassedOn name m head tail := ⟨hdef, hstarts, hclass⟩
        cases himport : m.imports.get? head with
        | some target => exact .viaImport ⟨hp, himport⟩
        | none =>
          exact hp.round_of_stars himport

theorem canonical_of_defines (hdef : x.defines name = true) (hops : Nat) :
    x.canonical hops name = name := by
  cases hops with
  | zero => rfl
  | succ hops => rw [canonical, if_pos hdef]

theorem defines_of_get? {d : Definition} (hd : x.definitions.get? name = some d) :
    x.defines name = true := by
  unfold defines Ordered.contains
  rw [hd]
  rfl

theorem canon_of_get? {d : Definition} (hd : x.definitions.get? name = some d) :
    x.canon name = name :=
  canonical_of_defines (defines_of_get? hd) maxHops

/-- What is found is found along links, no more of them than are followed. -/
theorem canonical_sound (hx : x.WellRead) {hops : Nat}
    (hdef : x.defines (x.canonical hops name) = true) :
    ∃ k, k ≤ hops ∧ Steps x.Link k name (x.canonical hops name) := by
  induction hops generalizing name with
  | zero => exact ⟨0, Nat.le_refl 0, .zero name⟩
  | succ hops ih =>
    have hround := canonical_round hx hops name
    generalize x.canonical (hops + 1) name = found at hround hdef
    cases hround with
    | found _ => exact ⟨0, Nat.zero_le _, .zero name⟩
    | viaImport hlink =>
      obtain ⟨k, hk, hsteps⟩ := ih hdef
      exact ⟨k + 1, Nat.succ_le_succ hk, .succ (.inl hlink) hsteps⟩
    | viaStar hlink _ =>
      obtain ⟨k, hk, hsteps⟩ := ih hdef
      exact ⟨k + 1, Nat.succ_le_succ hk, .succ (.inr hlink) hsteps⟩
    | lost _ _ _ => exact ⟨0, Nat.zero_le _, .zero name⟩

/-- A definition that few enough links lead to makes some definition be found. -/
theorem canonical_complete (hx : x.WellRead) {k hops : Nat} (h : Steps x.Link k name n)
    (hk : k ≤ hops) (hdef : x.defines n = true) : x.defines (x.canonical hops name) = true := by
  induction h generalizing hops with
  | zero name => rwa [canonical_of_defines hdef]
  | @succ k name mid n hlink _ ih =>
    cases hops with
    | zero => omega
    | succ hops =>
      have hmid := ih (Nat.le_of_succ_le_succ hk) hdef
      have hround := canonical_round hx hops name
      generalize x.canonical (hops + 1) name = found at hround ⊢
      cases hround with
      | found hname => exact hname
      | viaImport hi =>
        rw [hlink.eq_of_importLink hi]
        exact hmid
      | viaStar _ hfound => exact hfound
      | lost _ himport hstar =>
        rcases hlink with hlink | hlink
        · exact absurd hlink (himport mid)
        · rw [hstar mid hlink] at hmid
          cases hmid

theorem canonical_of_final (hx : x.WellRead) (h : x.Final name) (hops : Nat) :
    x.canonical hops name = name := by
  cases hops with
  | zero => rfl
  | succ hops =>
    have hround := canonical_round hx hops name
    generalize x.canonical (hops + 1) name = found at hround
    cases hround with
    | found _ => rfl
    | viaImport hlink =>
      obtain ⟨hp, -⟩ := hlink
      exact absurd hp (h _ _ _)
    | viaStar hlink _ =>
      obtain ⟨hp, -, -⟩ := hlink
      exact absurd hp (h _ _ _)
    | lost _ _ _ => rfl

/-- Imports by name lead to one name only that is passed on no further, which is the one that is
found. -/
theorem canonical_of_imports (hx : x.WellRead) {k hops : Nat} (h : Steps x.ImportLink k name n)
    (hk : k ≤ hops) (hn : x.Final n) : x.canonical hops name = n := by
  induction h generalizing hops with
  | zero name => exact canonical_of_final hx hn hops
  | @succ k name mid n hlink _ ih =>
    cases hops with
    | zero => omega
    | succ hops =>
      have hmid := ih (Nat.le_of_succ_le_succ hk) hn
      have hround := canonical_round hx hops name
      generalize x.canonical (hops + 1) name = found at hround ⊢
      cases hround with
      | found hname => cases hname.symm.trans (Link.undefined (.inl hlink))
      | viaImport hi =>
        rw [hi.unique hlink]
        exact hmid
      | viaStar hs _ =>
        rw [← Link.eq_of_importLink (.inr hs) hlink]
        exact hmid
      | lost _ himport _ => exact absurd hlink (himport mid)

theorem canonical_imports (hx : x.WellRead) {k hops : Nat} (h : Steps x.ImportLink k name n)
    (hk : k ≤ hops) (hdef : x.defines n = true) : x.canonical hops name = n :=
  canonical_of_imports hx h hk (final_of_defines hdef)

end Index

end Foundry.Source
