import Foundry.Proofs.Source.Hierarchy

/-!
The names a class leaves abstract, and what remembering them keeps of that: a remembered set never
holds too much, and holds everything where no class stands above itself.
-/

namespace Foundry.Source

/-- The statements in the body of a class. -/
def Definition.body (d : Definition) : List Stmt :=
  match d.parts with
  | some c => c.body
  | none => []

namespace Index

variable {x : Index} {d b : Definition} {seen : List String} {mem : AbstractMemory}

/-- The names that the body of a class binds to abstract methods. -/
def ownAbstract (x : Index) (d : Definition) : List String :=
  (x.ownMethods d.module d.body).1

/-- The names that the body of a class binds to anything else. -/
def ownConcrete (x : Index) (d : Definition) : List String :=
  (x.ownMethods d.module d.body).2

/-- A name that a class leaves abstract: it binds the name to an abstract method, or some base
leaves it abstract and the class does not bind it to anything else. -/
inductive LeavesAbstract (x : Index) : Definition → String → Prop
  | own {d : Definition} {n : String} : n ∈ x.ownAbstract d → LeavesAbstract x d n
  | inherited {d b : Definition} {n : String} : x.IsBase d b → LeavesAbstract x b n →
    n ∉ x.ownConcrete d → LeavesAbstract x d n

/-- A list of names that a class leaves abstract, its own among them, and all of them if the
hierarchy permits. -/
structure Accounts (x : Index) (d : Definition) (names : List String) : Prop where
  sound : ∀ n ∈ names, x.LeavesAbstract d n
  own : ∀ n ∈ x.ownAbstract d, n ∈ names
  complete : x.Acyclic d → ∀ n, x.LeavesAbstract d n → n ∈ names

/-- What is remembered of the classes of the index accounts for them. -/
def Faithful (x : Index) (mem : AbstractMemory) : Prop :=
  ∀ c names d, mem.get? c = some names → x.definitions.get? c = some d → x.Accounts d names

theorem faithful_empty (x : Index) : x.Faithful Ordered.empty :=
  fun _ _ _ h _ => by cases h

theorem Faithful.insert {names : List String} (h : x.Faithful mem) (hd : x.Lists d)
    (hnames : x.Accounts d names) : x.Faithful (mem.insert d.qualifiedName names) := by
  intro c others e hc he
  by_cases hname : c = d.qualifiedName
  · subst hname
    obtain rfl : d = e := Option.some.inj (hd.symm.trans he)
    rw [Ordered.get?_insert_self, Option.some.injEq] at hc
    exact hc ▸ hnames
  · rw [Ordered.get?_insert_of_ne _ _ hname] at hc
    exact h c others e hc he

/-- What one round over bases collects. -/
theorem collectFrom_accounts
    {step : Definition → AbstractMemory → List String × AbstractMemory}
    {bases : List Definition} (acc : List String)
    (hstep : ∀ b ∈ bases, b.qualifiedName ∉ seen → ∀ mem, x.Faithful mem →
      x.Accounts b (step b mem).1 ∧ x.Faithful (step b mem).2)
    (hmem : x.Faithful mem) :
    (∀ n ∈ (collectFrom step seen bases acc mem).1,
      n ∈ acc ∨ ∃ b ∈ bases, x.LeavesAbstract b n) ∧
    (∀ n ∈ acc, n ∈ (collectFrom step seen bases acc mem).1) ∧
    (∀ b ∈ bases, b.qualifiedName ∉ seen → x.Acyclic b → ∀ n, x.LeavesAbstract b n →
      n ∈ (collectFrom step seen bases acc mem).1) ∧
    x.Faithful (collectFrom step seen bases acc mem).2 := by
  induction bases generalizing acc mem with
  | nil =>
    exact ⟨fun n hn => .inl hn, fun n hn => hn, fun b hb => absurd hb List.not_mem_nil, hmem⟩
  | cons a rest ih =>
    have hrest : ∀ b ∈ rest, b.qualifiedName ∉ seen → ∀ mem, x.Faithful mem →
        x.Accounts b (step b mem).1 ∧ x.Faithful (step b mem).2 :=
      fun b hb => hstep b (List.mem_cons_of_mem a hb)
    rw [collectFrom]
    by_cases hseen : a.qualifiedName ∈ seen
    · rw [if_pos (List.contains_iff_mem.2 hseen)]
      obtain ⟨hsound, hkept, hcomplete, hmem⟩ := ih acc hrest hmem
      refine ⟨fun n hn => (hsound n hn).imp_right ?_, hkept, ?_, hmem⟩
      · rintro ⟨b, hb, hn⟩
        exact ⟨b, List.mem_cons_of_mem a hb, hn⟩
      · intro b hb hnew
        rcases List.mem_cons.1 hb with rfl | hb
        · exact absurd hseen hnew
        · exact hcomplete b hb hnew
    · rw [if_neg fun h => hseen (List.contains_iff_mem.1 h)]
      obtain ⟨haccounts, hnext⟩ := hstep a List.mem_cons_self hseen mem hmem
      obtain ⟨hsound, hkept, hcomplete, hmem⟩ := ih (acc ++ (step a mem).1) hrest hnext
      refine ⟨fun n hn => ?_, fun n hn => hkept n (List.mem_append_left _ hn), ?_, hmem⟩
      · rcases hsound n hn with hn | ⟨b, hb, hn⟩
        · exact (List.mem_append.1 hn).imp_right fun hn =>
            ⟨a, List.mem_cons_self, haccounts.sound n hn⟩
        · exact .inr ⟨b, List.mem_cons_of_mem a hb, hn⟩
      · intro b hb hnew hacyclic n hn
        rcases List.mem_cons.1 hb with rfl | hb
        · exact hkept n (List.mem_append_right _ (haccounts.complete hacyclic n hn))
        · exact hcomplete b hb hnew hacyclic n hn

theorem abstractNames_accounts (hx : x.Keyed) {fuel : Nat} (hw : x.Way seen d) (hd : x.Lists d)
    (hnew : d.qualifiedName ∉ seen) (hroom : x.bound ≤ fuel + seen.length)
    (hmem : x.Faithful mem) :
    x.Accounts d (x.abstractNames fuel seen d mem).1 ∧
      x.Faithful (x.abstractNames fuel seen d mem).2 := by
  induction fuel generalizing seen d mem with
  | zero =>
    have hlt := hw.length_lt hd hnew
    rw [bound] at hroom
    omega
  | succ fuel ih =>
    cases hget : mem.get? d.qualifiedName with
    | some names =>
      simp only [abstractNames, hget]
      exact ⟨hmem _ names d hget hd, hmem⟩
    | none =>
      simp only [abstractNames, hget]
      have hstep : ∀ b ∈ x.knownBases d, b.qualifiedName ∉ d.qualifiedName :: seen →
          ∀ mem, x.Faithful mem →
            x.Accounts b (x.abstractNames fuel (d.qualifiedName :: seen) b mem).1 ∧
              x.Faithful (x.abstractNames fuel (d.qualifiedName :: seen) b mem).2 := by
        intro b hb hfresh mem hmem
        refine ih (hw.next hd hnew hb) (IsBase.lists hb hx) hfresh ?_ hmem
        rw [List.length_cons]
        omega
      obtain ⟨hsound, -, hcomplete, hmem⟩ := collectFrom_accounts [] hstep hmem
      have haccounts : x.Accounts d (x.ownAbstract d ++
          (collectFrom (x.abstractNames fuel (d.qualifiedName :: seen)) (d.qualifiedName :: seen)
            (x.knownBases d) [] mem).1.filter fun n => !(x.ownConcrete d).contains n) := by
        refine ⟨fun n hn => ?_, fun n hn => List.mem_append_left _ hn, fun hacyclic n hn => ?_⟩
        · rcases List.mem_append.1 hn with hn | hn
          · exact .own hn
          · obtain ⟨hn, hconcrete⟩ := List.mem_filter.1 hn
            obtain ⟨b, hb, hbn⟩ := (hsound n hn).resolve_left List.not_mem_nil
            exact .inherited hb hbn (by simpa using hconcrete)
        · cases hn with
          | own hn => exact List.mem_append_left _ hn
          | inherited hb hbn hconcrete =>
            -- No base is on the way already, as it would stand above itself.
            have hfresh := (hw.next hd hnew hb).fresh (hb.lists hx) (hacyclic.base hb)
            have hn := hcomplete _ hb hfresh (hacyclic.base hb) n hbn
            exact List.mem_append_right _ (List.mem_filter.2 ⟨hn, by simpa using hconcrete⟩)
      exact ⟨haccounts, hmem.insert hd haccounts⟩

/-! ### Classes that count abstract names -/

/-- A class that says itself that its abstract methods count. -/
def marksAbstract (x : Index) (d : Definition) : Bool :=
  (x.bases d).contains "abc.ABC" || (x.bases d).any protocolBases.contains ||
    (match d.parts with
    | some c => c.keywords
    | none => []).any fun k =>
      k.name == some "metaclass" && x.resolveExpr d.module k.value == some "abc.ABCMeta"

theorem usesAbstractBase_searches (x : Index) :
    x.Searches x.marksAbstract (fun _ => true) x.usesAbstractBase := by
  intro fuel seen d
  have hor : ∀ a b r : Bool,
      (if a = true then true else if b = true then true else r) = (a || b || (true && r)) := by
    decide
  rw [usesAbstractBase]
  exact hor _ _ _

theorem usesAbstractBase_iff (hx : x.Keyed) (hd : x.Lists d) {fuel : Nat}
    (hroom : x.bound ≤ fuel) :
    x.usesAbstractBase fuel [] d = true ↔ ∃ e, x.Above d e ∧ x.marksAbstract e = true :=
  x.usesAbstractBase_searches.above_iff hx hd hroom

end Index

end Foundry.Source
