import Foundry.Proofs.Provider.Answers
import Foundry.Validation

/-!
The search for an ancestor over fixed answers, with the room that was left below each name when it
was met.
-/

namespace Foundry

variable {σ : Type}

/-- Names met so far, each with the number of levels still allowed below it. -/
structure Trace where
  met : List (String × Nat)
  truncated : Bool
deriving DecidableEq, Repr

namespace Trace

def start : Trace := ⟨[], false⟩

def names (t : Trace) : List String :=
  t.met.map Prod.fst

def cut (t : Trace) : Trace :=
  { t with truncated := true }

def meet (t : Trace) (n : String) (room : Nat) : Trace :=
  { t with met := (n, room) :: t.met }

def search (t : Trace) : Search :=
  ⟨t.names, t.truncated⟩

end Trace

/-- An error stops the walk: the group was found. -/
def walkEach (step : String → Trace → Except Trace Trace) :
    List String → Trace → Except Trace Trace
  | [], t => .ok t
  | n :: ns, t =>
    match step n t with
    | .error t => .error t
    | .ok t => walkEach step ns t

def walkFrom (known : String → Option Declaration) (group : String) :
    Nat → List String → String → Trace → Except Trace Trace
  | 0, _, n, t => if n = group then .error t else .ok t.cut
  | room + 1, path, n, t =>
    if n = group then .error t
    else if n ∈ path then .ok t.cut
    else if n ∈ t.names then .ok t
    else
      match known n with
      | none => .ok (t.meet n room)
      | some d => walkEach (walkFrom known group room (n :: path)) d.superclasses (t.meet n room)

def walk (known : String → Option Declaration) (group : String) (limit : Nat) (d : Declaration) :
    Except Trace Trace :=
  walkEach (walkFrom known group limit [d.qualifiedName]) d.superclasses Trace.start

/-- What is left of a walk for the search. -/
def outcome : Except Trace Trace → Option Search
  | .error _ => none
  | .ok t => some t.search

theorem searchEach_gives {I : σ → Prop} {step : String → Search → Query σ (Option Search)}
    {walk : String → Trace → Except Trace Trace}
    (hstep : ∀ n t s, I s → Query.Gives I (step n t.search) s (outcome (walk n t)))
    (ns : List String) (t : Trace) {s : σ} (hs : I s) :
    Query.Gives I (searchEach step ns t.search) s (outcome (walkEach walk ns t)) := by
  induction ns generalizing t s with
  | nil => exact Query.Gives.pure hs _
  | cons n ns ih =>
    have hn := hstep n t s hs
    rw [searchEach, walkEach]
    refine hn.bind ?_
    cases hw : walk n t with
    | error t' => exact Query.Gives.pure hn.state none
    | ok t' => exact ih t' hn.state

theorem searchFrom_gives {p : Provider σ} {I : σ → Prop} {known : String → Option Declaration}
    (hp : p.Fixed I known) (group : String) (room : Nat) (path : List String) (n : String)
    (t : Trace) (s : σ) (hs : I s) :
    Query.Gives I (searchFrom p group room path n t.search) s
      (outcome (walkFrom known group room path n t)) := by
  induction room generalizing path n t s with
  | zero =>
    simp only [searchFrom, walkFrom]
    by_cases h : n = group
    · simp only [h, if_true]
      exact Query.Gives.pure hs none
    · simp only [h, if_false]
      exact Query.Gives.pure hs (some t.cut.search)
  | succ room ih =>
    simp only [searchFrom, walkFrom, List.contains_iff_mem]
    by_cases h : n = group
    · simp only [h, if_true]
      exact Query.Gives.pure hs none
    · simp only [h, if_false]
      by_cases hpath : n ∈ path
      · simp only [hpath, if_true]
        exact Query.Gives.pure hs (some t.cut.search)
      · simp only [hpath, if_false]
        by_cases hmet : n ∈ t.names
        · have hv : n ∈ t.search.visited := hmet
          simp only [hmet, hv, if_true]
          exact Query.Gives.pure hs (some t.search)
        · have hv : n ∉ t.search.visited := hmet
          have hn := hp n s hs
          simp only [hmet, hv, if_false]
          refine hn.bind ?_
          cases hk : known n with
          | none => exact Query.Gives.pure hn.state (some (t.meet n room).search)
          | some d =>
            exact searchEach_gives (ih (n :: path)) d.superclasses (t.meet n room) hn.state

theorem walk_gives {p : Provider σ} {I : σ → Prop} {known : String → Option Declaration}
    (hp : p.Fixed I known) (limit : Nat) (r : Record) {s : σ} (hs : I s) :
    Query.Gives I (searchEach (searchFrom p r.group limit [r.declaration.qualifiedName])
      r.declaration.superclasses ⟨[], false⟩) s
      (outcome (walk known r.group limit r.declaration)) :=
  searchEach_gives (searchFrom_gives hp r.group limit [r.declaration.qualifiedName])
    r.declaration.superclasses Trace.start hs

theorem checkAncestor_found {p : Provider σ} {I : σ → Prop} {known : String → Option Declaration}
    (hp : p.Fixed I known) {limit : Nat} {r : Record} {s : σ} (hs : I s) {t : Trace}
    (h : walk known r.group limit r.declaration = .error t) :
    Query.Gives I (checkAncestor p limit r) s () := by
  have hw := walk_gives hp limit r hs
  rw [h] at hw
  exact hw.bind (Query.Gives.pure hw.state ())

theorem checkAncestor_lost {p : Provider σ} {I : σ → Prop} {known : String → Option Declaration}
    (hp : p.Fixed I known) {limit : Nat} {r : Record} {s : σ} (hs : I s) {t : Trace}
    (h : walk known r.group limit r.declaration = .ok t) :
    (checkAncestor p limit r).answer s =
      .error (.rejected (.doesNotExtend r.declaration r.group
        (if t.truncated then some limit else none))) := by
  have hw := walk_gives hp limit r hs
  rw [h] at hw
  exact Query.answer_bind hw.answer _

end Foundry
