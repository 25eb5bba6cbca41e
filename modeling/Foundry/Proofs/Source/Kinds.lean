import Foundry.Proofs.Source.Abstracts

/-!
Kinds of classes. A class is an interface by its own bases, and an enumeration when links lead up
to a base of enumerations past no interface; whether its abstract methods count is decided by any
class at or above it. Classes that derive from each other make no difference.
-/

namespace Foundry.Source.Index

variable {x : Index} {d e : Definition} {n : String} {fuel : Nat}

def hasProtocol (x : Index) (d : Definition) : Bool :=
  (x.bases d).any protocolBases.contains

def hasEnum (x : Index) (d : Definition) : Bool :=
  (x.bases d).any enumBases.contains

/-- Links up through the bases, past no interface; both ends count as on the way. -/
inductive ClimbsPlain (x : Index) : Definition → Definition → Prop
  | here {d : Definition} : x.hasProtocol d = false → ClimbsPlain x d d
  | up {d b e : Definition} : x.hasProtocol d = false → x.IsBase d b → ClimbsPlain x b e →
    ClimbsPlain x d e

theorem climbsPlain_iff : x.ClimbsPlain d e ↔
    Relation.ReflTransGen (fun a b => (!x.hasProtocol a) = true ∧ x.IsBase a b) d e ∧
      x.hasProtocol e = false := by
  constructor
  · intro h
    induction h with
    | here hd => exact ⟨.refl, hd⟩
    | up hd hb _ ih => exact ⟨.head ⟨by simp [hd], hb⟩ ih.1, ih.2⟩
  · rintro ⟨h, he⟩
    induction h using Relation.ReflTransGen.head_induction_on with
    | refl => exact .here he
    | head hb _ ih => exact .up (by simpa using hb.1) hb.2 ih

/-- The verdict on one class, from its own bases and what the search above it says. -/
def kindOf (hasProtocol hasEnum above : Bool) : Kind :=
  if hasProtocol then .interface
  else if hasEnum then .enum
  else if above then .enum
  else .ordinary

theorem kindFrom_succ (x : Index) (fuel : Nat) (seen : List String) (d : Definition) :
    x.kindFrom (fuel + 1) seen d = kindOf (x.hasProtocol d) (x.hasEnum d)
      ((x.freshBases d (d.qualifiedName :: seen)).any fun b =>
        x.kindFrom fuel (d.qualifiedName :: seen) b = .enum) := by
  rw [kindFrom]
  rfl

theorem kindOf_enum : ∀ p e r : Bool, decide (kindOf p e r = .enum) = (!p && e || (!p && r)) := by
  decide

theorem kindOf_interface : ∀ p e r : Bool, kindOf p e r = .interface ↔ p = true := by
  decide

theorem kindOf_ne_function : ∀ p e r : Bool, kindOf p e r ≠ .function := by
  decide

theorem kindFrom_searches (x : Index) :
    x.Searches (fun d => !x.hasProtocol d && x.hasEnum d) (fun d => !x.hasProtocol d)
      fun fuel seen d => decide (x.kindFrom fuel seen d = .enum) := by
  intro fuel seen d
  simp only [kindFrom_succ]
  exact kindOf_enum _ _ _

theorem kindFrom_interface_iff (hroom : x.bound ≤ fuel) :
    x.kindFrom fuel [] d = .interface ↔ x.hasProtocol d = true := by
  obtain ⟨k, rfl⟩ := Nat.exists_eq_add_of_le' (Nat.le_trans (Nat.le_add_left 1 _) hroom)
  rw [kindFrom_succ]
  exact kindOf_interface _ _ _

theorem kindFrom_ne_function (x : Index) (fuel : Nat) (seen : List String) (d : Definition) :
    x.kindFrom fuel seen d ≠ .function := by
  cases fuel with
  | zero => simp [kindFrom]
  | succ fuel =>
    rw [kindFrom_succ]
    exact kindOf_ne_function _ _ _

theorem kindFrom_enum_iff (hx : x.Keyed) (hd : x.Lists d) (hroom : x.bound ≤ fuel) :
    x.kindFrom fuel [] d = .enum ↔ ∃ e, x.ClimbsPlain d e ∧ x.hasEnum e = true := by
  have hsearch := x.kindFrom_searches.links_iff hx hd hroom
  rw [decide_eq_true_eq] at hsearch
  rw [hsearch]
  apply exists_congr
  intro e
  simp [climbsPlain_iff, and_assoc]

theorem kindFrom_ordinary_iff (hx : x.Keyed) (hd : x.Lists d) (hroom : x.bound ≤ fuel) :
    x.kindFrom fuel [] d = .ordinary ↔
      x.hasProtocol d = false ∧ ¬∃ e, x.ClimbsPlain d e ∧ x.hasEnum e = true := by
  rw [← kindFrom_enum_iff hx hd hroom, ← Bool.not_eq_true, ← kindFrom_interface_iff hroom]
  have hfunction := x.kindFrom_ne_function fuel [] d
  cases hkind : x.kindFrom fuel [] d with
  | function => exact absurd hkind hfunction
  | _ => simp

theorem kindFrom_eq_kind (hx : x.Keyed) (hd : x.Lists d) (hroom : x.bound ≤ fuel) :
    x.kindFrom fuel [] d = x.kind d := by
  have hbound := Nat.le_refl x.bound
  cases hkind : x.kind d with
  | ordinary =>
    apply (kindFrom_ordinary_iff hx hd hroom).2
    exact (kindFrom_ordinary_iff hx hd hbound).1 hkind
  | interface =>
    apply (kindFrom_interface_iff hroom).2
    exact (kindFrom_interface_iff hbound).1 hkind
  | enum =>
    apply (kindFrom_enum_iff hx hd hroom).2
    exact (kindFrom_enum_iff hx hd hbound).1 hkind
  | function => exact absurd hkind (x.kindFrom_ne_function x.bound [] d)

/-- The searches end within the bound: more room changes nothing, also where classes derive from
each other. -/
theorem kinds_by_links {modules : List Module} {annotationNames : List String}
    (hx : make modules annotationNames = .ok x) (hd : x.definitions.get? n = some d)
    (hroom : x.bound ≤ fuel) :
    x.kindFrom fuel [] d = x.kind d ∧
    x.usesAbstractBase fuel [] d = x.usesAbstractBase x.bound [] d ∧
    (x.kind d = .interface ↔ x.hasProtocol d = true) ∧
    (x.kind d = .enum ↔ ∃ e, x.ClimbsPlain d e ∧ x.hasEnum e = true) ∧
    (x.kind d = .ordinary ↔
      x.hasProtocol d = false ∧ ¬∃ e, x.ClimbsPlain d e ∧ x.hasEnum e = true) ∧
    (x.usesAbstractBase x.bound [] d = true ↔ ∃ e, x.Above d e ∧ x.marksAbstract e = true) := by
  have hkeyed := (keyed_make hx).1
  have hlists := hkeyed.lists hd
  have hbound := Nat.le_refl x.bound
  refine ⟨kindFrom_eq_kind hkeyed hlists hroom, ?_, kindFrom_interface_iff hbound,
    kindFrom_enum_iff hkeyed hlists hbound, kindFrom_ordinary_iff hkeyed hlists hbound,
    usesAbstractBase_iff hkeyed hlists hbound⟩
  rw [Bool.eq_iff_iff, usesAbstractBase_iff hkeyed hlists hroom,
    usesAbstractBase_iff hkeyed hlists hbound]

/-- Two classes that derive from each other and from an enumeration, and a class below an interface
that derives from the same enumeration. -/
def figures : Module :=
  Module.make "m" (Path.ofText "m.py")
    [.importFrom (some "enum") [⟨"Enum", none⟩] 0,
     .importFrom (some "typing") [⟨"Protocol", none⟩] 0,
     .classDef 4 4 "A" [.name "B"] [] [] [.pass],
     .classDef 7 7 "B" [.name "A", .name "C"] [] [] [.pass],
     .classDef 10 10 "C" [.name "Enum"] [] [] [.pass],
     .classDef 13 13 "P" [.name "C", .name "Protocol"] [] [] [.pass],
     .classDef 16 16 "Q" [.name "P"] [] [] [.pass]]

def figuresIndex : Index :=
  (make [figures] []).toOption.getD ⟨Ordered.empty, Ordered.empty, []⟩

theorem figures_by_links :
    make [figures] [] = .ok figuresIndex ∧ figuresIndex.bound ≤ 6 ∧
    (∃ d, figuresIndex.definitions.get? "m.A" = some d ∧
      ∃ e, figuresIndex.ClimbsPlain d e ∧ figuresIndex.hasEnum e = true) ∧
    (∃ d, figuresIndex.definitions.get? "m.Q" = some d ∧
      (¬∃ e, figuresIndex.ClimbsPlain d e ∧ figuresIndex.hasEnum e = true) ∧
      ∃ e, figuresIndex.Above d e ∧ figuresIndex.marksAbstract e = true) := by
  have hmake : make [figures] [] = .ok figuresIndex := rfl
  have hroom : figuresIndex.bound ≤ 6 := by decide
  have hA : figuresIndex.definitions.get? "m.A" =
      some ⟨"m", "A", 4, [], some ⟨[.name "B"], [], [.pass]⟩⟩ := rfl
  have hQ : figuresIndex.definitions.get? "m.Q" =
      some ⟨"m", "Q", 16, [], some ⟨[.name "P"], [], [.pass]⟩⟩ := rfl
  obtain ⟨-, -, -, henum, -⟩ := kinds_by_links hmake hA hroom
  obtain ⟨-, -, -, -, hordinary, habstract⟩ := kinds_by_links hmake hQ hroom
  exact ⟨hmake, hroom, ⟨_, hA, henum.1 rfl⟩, ⟨_, hQ, (hordinary.1 rfl).2, habstract.1 rfl⟩⟩

end Foundry.Source.Index
