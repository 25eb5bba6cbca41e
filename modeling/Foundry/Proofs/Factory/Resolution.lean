import Foundry.Proofs.Factory.ImportTable
import Foundry.Proofs.Factory.Program

/-!
Plain names make a plan whose text can be read back, and what its expressions lead to.
-/

namespace Foundry.Factory

open Foundry.Text

/-! ### Plain names -/

/-- A plain word that is not reserved. -/
def IsPlain (s : String) : Prop :=
  Name.isWord s.toList = true ∧ isKeyword s = false

instance (s : String) : Decidable (IsPlain s) :=
  inferInstanceAs (Decidable (_ ∧ _))

/-- Plain words joined by dots. -/
def IsPlainPath (s : String) : Prop :=
  ∀ w ∈ segments s, IsPlain w

instance (s : String) : Decidable (IsPlainPath s) :=
  inferInstanceAs (Decidable (∀ w ∈ segments s, IsPlain w))

theorem IsPlain.isName {s : String} (h : IsPlain s) : IsName s :=
  ⟨isIdentifier_of_isWord h.1, h.2⟩

theorem IsPlainPath.isPath {s : String} (h : IsPlainPath s) : IsPath s :=
  fun w hw => (h w hw).isName

theorem keywords_plain : ∀ w ∈ keywords, '_' ∉ w.toList := by decide

theorem isPlain_numbered {name : String} (h : IsPlain name) (k : Nat) :
    IsPlain (numbered name k) := by
  have htext : (numbered name k).toList = name.toList ++ '_' :: Nat.toDigits 10 k := by
    simp [numbered]
  have hdigits : ∀ c ∈ Nat.toDigits 10 k, isWordPart c = true := by
    intro c hc
    have hdigit := Nat.isDigit_of_mem_toDigits (by decide) (by decide) hc
    rw [isWordPart, Char.isAlphanum, hdigit]
    simp
  constructor
  · have hword := h.1
    rw [htext]
    unfold Name.isWord at hword ⊢
    cases hname : name.toList with
    | nil => simp [hname] at hword
    | cons c cs =>
      simp only [hname, Bool.and_eq_true, List.all_eq_true] at hword
      simp only [List.cons_append, Bool.and_eq_true, List.all_eq_true]
      refine ⟨hword.1, fun x hx => ?_⟩
      rcases List.mem_append.1 hx with hx | hx
      · exact hword.2 x hx
      · rcases List.mem_cons.1 hx with rfl | hx
        · decide
        · exact hdigits x hx
  · rw [isKeyword, ← Bool.not_eq_true, List.contains_iff_mem]
    intro hmem
    refine keywords_plain _ hmem ?_
    rw [htext]
    exact List.mem_append_right _ List.mem_cons_self

theorem segments_ne_directives {s : String} (h : s ≠ "__future__") : segments s ≠ directives := by
  intro heq
  apply h
  rw [← dotted_segments s, heq]
  rfl

theorem exists_segments (target : QualifiedName) :
    segments target.qualname = target.topLevel :: (segments target.qualname).tail := by
  obtain ⟨w, ws, h⟩ := List.exists_cons_of_ne_nil (segments_ne_nil target.qualname)
  rw [QualifiedName.topLevel, firstSegment, h]
  rfl

/-! ### What may be said about names -/

/-- Names that can be written in a module. -/
structure Plain (runtimeModule factoryName : String) (targets : List QualifiedName) : Prop where
  runtime : IsPlainPath runtimeModule ∧ runtimeModule ≠ "__future__"
  targets : ∀ q ∈ targets, IsPlainPath q.module ∧ q.module ≠ "__future__" ∧ IsPlainPath q.qualname
  factory : IsName factoryName ∧ factoryName ∉ [errorName, "__all__", "__debug__"]

/-- The group and the members, as they are declared. -/
def Plan.targets (p : Plan) : List QualifiedName :=
  p.group :: p.branches.map (·.target)

/-- A dotted name without private parts means within a class what it means outside. -/
def Public (owner : String) (names : List String) : Prop :=
  ∀ s ∈ names, privateName owner s = s

instance (owner : String) (names : List String) : Decidable (Public owner names) :=
  inferInstanceAs (Decidable (∀ s ∈ names, privateName owner s = s))

/-- Names that mean within the factory what they mean outside: none is private there, and no import
binds a name that the module, or the language within it, uses for something else. -/
structure Plan.Unshadowed (p : Plan) : Prop where
  imports : ∀ i ∈ p.imports,
    i.bound ∉ ["self", "identifier", "__all__", "__debug__", "__builtins__"]
  bound : ∀ i ∈ p.imports, privateName p.factoryName i.bound = i.bound
  inner : ∀ q ∈ p.targets, Public p.factoryName (segments q.qualname).tail
  annotation : (segments p.group.qualname).tail ≠ [] → ∀ i ∈ p.imports, i.Serves p.group →
    i.bound ∉ ["group", "identifiers", "__doc__", "__module__", "__qualname__"]

/-! ### Expressions -/

/-- An expression leads from the name of the import to the target. Where nothing follows the
top-level name, no dot may end the qualified name either. -/
theorem segments_expression_of_notMem {i : Import} {target : QualifiedName}
    (hbound : '.' ∉ i.bound.toList)
    (hrest : target.rest = "" → (segments target.qualname).tail = []) :
    segments (ImportTable.expression i target) =
      i.bound :: (segments target.qualname).tail := by
  rw [ImportTable.expression]
  by_cases hempty : target.rest = ""
  · rw [if_pos (beq_iff_eq.2 hempty), hrest hempty, segments_of_notMem hbound]
  · have hne : (segments target.qualname).tail ≠ [] := by
      intro hnil
      apply hempty
      rw [QualifiedName.rest, afterFirstSegment, hnil]
      rfl
    have htail : segments target.rest = (segments target.qualname).tail :=
      segments_dotted_of_notMem hne fun p hp => notMem_of_mem_segments (List.mem_of_mem_tail hp)
    rw [if_neg (by rwa [beq_iff_eq]), segments_append, segments_of_notMem hbound, htail]
    rfl

theorem segments_expression {i : Import} {target : QualifiedName} (hbound : IsName i.bound)
    (hpath : IsPath target.qualname) :
    segments (ImportTable.expression i target) =
      i.bound :: (segments target.qualname).tail := by
  refine segments_expression_of_notMem (hbound.notMem (by decide)) fun hempty => ?_
  refine Decidable.of_not_not fun hne => dotted_ne_empty hne (fun hhead => ?_) hempty
  have hname := hpath "" (List.mem_of_mem_tail (List.mem_of_mem_head? hhead))
  obtain ⟨c, cs, hc, -⟩ := hname.exists_cons
  cases hc

/-! ### Names in the module -/

variable {runtimeModule : String} {p : Plan}

theorem plain_of_served (hplain : Plain runtimeModule p.factoryName p.targets) {i : Import}
    (hserved : ∃ q ∈ p.targets, i.Serves q) :
    IsPlainPath i.module ∧ i.module ≠ "__future__" ∧ IsPlain i.name := by
  obtain ⟨q, hq, hmodule, hname⟩ := hserved
  obtain ⟨hpath, hfuture, hqual⟩ := hplain.targets q hq
  rw [hmodule, hname]
  refine ⟨hpath, hfuture, hqual _ ?_⟩
  rw [exists_segments q]
  exact List.mem_cons_self

theorem isName_bound (hsound : p.Sound) (hplain : Plain runtimeModule p.factoryName p.targets)
    {i : Import} (hi : i ∈ p.imports) : IsName i.bound := by
  obtain ⟨hserved, hnumbered⟩ := hsound.served i hi
  obtain ⟨-, -, hname⟩ := plain_of_served hplain hserved
  rcases hnumbered with h | ⟨k, h⟩
  · rw [h]
    exact hname.isName
  · rw [h]
    exact (isPlain_numbered hname k).isName

/-- A text that names a target leads from an import to the target. -/
theorem segments_of_names (hsound : p.Sound)
    (hplain : Plain runtimeModule p.factoryName p.targets) {text : String}
    {target : QualifiedName} (htarget : target ∈ p.targets) (h : Names p.imports text target) :
    ∃ i ∈ p.imports, i.Serves target ∧
      segments text = i.bound :: (segments target.qualname).tail := by
  obtain ⟨i, hi, hserves, rfl⟩ := h
  exact ⟨i, hi, hserves, segments_expression (isName_bound hsound hplain hi)
    (hplain.targets target htarget).2.2.isPath⟩

theorem isPath_of_names (hsound : p.Sound) (hplain : Plain runtimeModule p.factoryName p.targets)
    {text : String} {target : QualifiedName} (htarget : target ∈ p.targets)
    (h : Names p.imports text target) : IsPath text := by
  obtain ⟨i, hi, -, hsegments⟩ := segments_of_names hsound hplain htarget h
  intro w hw
  rw [hsegments] at hw
  rcases List.mem_cons.1 hw with rfl | hw
  · exact isName_bound hsound hplain hi
  · exact (hplain.targets target htarget).2.2.isPath w (List.mem_of_mem_tail hw)

theorem mem_targets_group (p : Plan) : p.group ∈ p.targets :=
  List.mem_cons_self

theorem mem_targets_of_branch {b : Branch} (hb : b ∈ p.branches) : b.target ∈ p.targets :=
  List.mem_cons_of_mem _ (List.mem_map_of_mem hb)

theorem notMem_group_text (hplain : Plain runtimeModule p.factoryName p.targets) {c : Char}
    (hword : isIdentifierContinue c = false) (hdot : c ≠ '.') : c ∉ p.group.text.toList := by
  obtain ⟨hmodule, -, hqual⟩ := hplain.targets p.group (mem_targets_group p)
  have hm := hmodule.isPath.notMem hword hdot
  have hq := hqual.isPath.notMem hword hdot
  simp [QualifiedName.text, hm, hq, hdot]

theorem legible_of_plain (hsound : p.Sound) (hplain : Plain runtimeModule p.factoryName p.targets)
    (hdebug : ∀ i ∈ p.imports, i.bound ≠ "__debug__") : p.Legible runtimeModule := by
  have hfactory := hplain.factory.2
  simp only [List.mem_cons, List.not_mem_nil, or_false, not_or] at hfactory
  refine ⟨⟨hplain.runtime.1.isPath, segments_ne_directives hplain.runtime.2⟩, fun i hi => ?_,
    ⟨hplain.factory.1, hfactory.2.2⟩, isPath_of_names hsound hplain (mem_targets_group p)
    hsound.group, fun b hb => isPath_of_names hsound hplain (mem_targets_of_branch hb)
    (hsound.branches b hb), notMem_group_text hplain (by decide) (by decide)⟩
  obtain ⟨hmodule, hfuture, hname⟩ := plain_of_served hplain (hsound.served i hi).1
  exact ⟨hmodule.isPath, segments_ne_directives hfuture, hname.isName,
    isName_bound hsound hplain hi, hdebug i hi⟩

end Foundry.Factory
