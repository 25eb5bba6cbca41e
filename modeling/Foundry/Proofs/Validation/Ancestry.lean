import Foundry.Proofs.Validation.Walk
import Mathlib.Data.List.Nodup

/-!
Chains of names from a class to its group, and what the walk knows about them when it ends.
-/

namespace Foundry

/-- Names climbed one after the other up to the group. All but the last are known, and none of
these is the class itself. -/
def Climbs (known : String → Option Declaration) (own group : String) : List String → Prop
  | [] => False
  | [n] => n = group
  | n :: m :: rest =>
    n ≠ own ∧ (∃ d, known n = some d ∧ m ∈ d.superclasses) ∧ Climbs known own group (m :: rest)

/-- A chain from a declaration through one of its bases to the group. -/
def Ancestry (known : String → Option Declaration) (d : Declaration) (group : String)
    (names : List String) : Prop :=
  (∃ n ∈ d.superclasses, names.head? = some n) ∧ Climbs known d.qualifiedName group names

variable {known : String → Option Declaration} {own group : String}

/-! ### Traces grow -/

structure Grows (t t' : Trace) : Prop where
  met : t.met <:+ t'.met
  truncated : t.truncated = true → t'.truncated = true

theorem Grows.refl (t : Trace) : Grows t t :=
  ⟨List.suffix_rfl, id⟩

theorem Grows.trans {t₁ t₂ t₃ : Trace} (h : Grows t₁ t₂) (h' : Grows t₂ t₃) : Grows t₁ t₃ :=
  ⟨h.met.trans h'.met, fun ht => h'.truncated (h.truncated ht)⟩

theorem grows_cut (t : Trace) : Grows t t.cut :=
  ⟨List.suffix_rfl, fun _ => rfl⟩

theorem grows_meet (t : Trace) (n : String) (room : Nat) : Grows t (t.meet n room) :=
  ⟨List.suffix_cons _ _, id⟩

theorem Grows.names {t t' : Trace} (h : Grows t t') {n : String} (hn : n ∈ t.names) :
    n ∈ t'.names := by
  obtain ⟨e, he, rfl⟩ := List.mem_map.1 hn
  exact List.mem_map_of_mem (h.met.subset he)

def lastTrace : Except Trace Trace → Trace
  | .error t => t
  | .ok t => t

/-! ### Invariants of walks

`C` is what a call may assume about the room, the path, the name and the trace it is given; `P` is
what every trace satisfies. -/

theorem walkEach_invariant {P : Trace → Prop} {C : String → Trace → Prop}
    (step : String → Trace → Except Trace Trace)
    (hmono : ∀ n t t', C n t → Grows t t' → C n t')
    (hstep : ∀ n t, C n t → P t → P (lastTrace (step n t)) ∧ Grows t (lastTrace (step n t)))
    (ns : List String) (t : Trace) (hC : ∀ n ∈ ns, C n t) (hP : P t) :
    P (lastTrace (walkEach step ns t)) ∧ Grows t (lastTrace (walkEach step ns t)) := by
  induction ns generalizing t with
  | nil => exact ⟨hP, Grows.refl t⟩
  | cons n ns ih =>
    have hn := hstep n t (hC n List.mem_cons_self) hP
    rw [walkEach]
    cases hw : step n t with
    | error t' => rwa [hw] at hn
    | ok t' =>
      rw [hw] at hn
      have hrest := ih t' (fun m hm => hmono m t t' (hC m (List.mem_cons_of_mem n hm)) hn.2) hn.1
      exact ⟨hrest.1, hn.2.trans hrest.2⟩

theorem walkFrom_invariant {P : Trace → Prop} {C : Nat → List String → String → Trace → Prop}
    (hmono : ∀ room path n t t', C room path n t → Grows t t' → C room path n t')
    (hcut : ∀ t, P t → P t.cut)
    (hmeet : ∀ room path n t, C (room + 1) path n t → n ∉ path → n ∉ t.names → P t →
      P (t.meet n room))
    (hnext : ∀ room path n t d m, C (room + 1) path n t → known n = some d →
      m ∈ d.superclasses → C room (n :: path) m (t.meet n room))
    (room : Nat) (path : List String) (n : String) (t : Trace) (hC : C room path n t) (hP : P t) :
    P (lastTrace (walkFrom known group room path n t)) ∧
      Grows t (lastTrace (walkFrom known group room path n t)) := by
  induction room generalizing path n t with
  | zero =>
    rw [walkFrom]
    split
    · exact ⟨hP, Grows.refl t⟩
    · exact ⟨hcut t hP, grows_cut t⟩
  | succ room ih =>
    rw [walkFrom]
    split
    · exact ⟨hP, Grows.refl t⟩
    · split
      · exact ⟨hcut t hP, grows_cut t⟩
      · rename_i hpath
        split
        · exact ⟨hP, Grows.refl t⟩
        · rename_i hnames
          have hP' := hmeet room path n t hC hpath hnames hP
          split
          · exact ⟨hP', grows_meet t n room⟩
          · rename_i d hd
            have hrest := walkEach_invariant (C := C room (n :: path)) _ (hmono room (n :: path))
              (fun m t' => ih (n :: path) m t') d.superclasses (t.meet n room)
              (fun m hm => hnext room path n t d m hC hd hm) hP'
            exact ⟨hrest.1, (grows_meet t n room).trans hrest.2⟩

theorem walkFrom_grows (known : String → Option Declaration) (group : String) (room : Nat)
    (path : List String) (n : String) (t : Trace) :
    Grows t (lastTrace (walkFrom known group room path n t)) :=
  (walkFrom_invariant (P := fun _ => True) (C := fun _ _ _ _ => True) (fun _ _ _ _ _ _ _ => trivial)
    (fun _ _ => trivial) (fun _ _ _ _ _ _ _ _ => trivial) (fun _ _ _ _ _ _ _ _ _ => trivial)
    room path n t trivial trivial).2

/-- No name is met twice, and the class itself is never met. -/
structure Sound (own : String) (t : Trace) : Prop where
  nodup : t.names.Nodup
  own : own ∉ t.names

theorem sound_start (own : String) : Sound own Trace.start :=
  ⟨List.nodup_nil, List.not_mem_nil⟩

theorem walkFrom_sound {room : Nat} {path : List String} {n : String} {t : Trace}
    (hown : own ∈ path) (ht : Sound own t) :
    Sound own (lastTrace (walkFrom known group room path n t)) := by
  refine (walkFrom_invariant (P := Sound own) (C := fun _ path _ _ => own ∈ path)
    (fun _ _ _ _ _ h _ => h) (fun _ h => ⟨h.nodup, h.own⟩) ?_
    (fun _ _ _ _ _ _ h _ _ => List.mem_cons_of_mem _ h) room path n t hown ht).1
  intro room path n t hpath hn hnames h
  refine ⟨List.nodup_cons.2 ⟨hnames, h.nodup⟩, ?_⟩
  intro hmem
  rcases List.mem_cons.1 hmem with rfl | hmem
  · exact hn hpath
  · exact h.own hmem

end Foundry
