import Foundry.Proofs.Text.Splitting
import Foundry.Source.Index

/-!
Relative imports. A level leaves the module itself and then one package after the other; the module
text of the statement continues from there. `absoluteImport` is this rule. The names of the index
follow it at every level but one: a statement with a module text whose level is one more than the
package has segments is refused by the rule, and the index reads its text as an absolute name.
-/

namespace Foundry

namespace Source

open Text

variable {module : String} {isPackage : Bool} {source : Option String} {level : Nat}

/-- The segments of the package that a module stands in; a package stands in itself. -/
def containingPackage (module : String) (isPackage : Bool) : List String :=
  if isPackage then segments module else (segments module).dropLast

/-- The absolute name that a relative import stands for: the containing package without its last
`level - 1` segments, and the module text after it. A level greater than the number of segments
leaves the topmost package and is refused. -/
def absoluteImport (module : String) (isPackage : Bool) (source : Option String) (level : Nat) :
    Option String :=
  let package := containingPackage module isPackage
  if package.length < level then none
  else some (dotted (package.take (package.length - (level - 1)) ++ source.toList))

theorem head?_containingPackage (isPackage : Bool) (hname : firstSegment module ≠ "") :
    (containingPackage module isPackage).head? ≠ some "" := by
  intro hhead
  apply hname
  rw [firstSegment]
  obtain ⟨p, ps, hps⟩ := List.exists_cons_of_ne_nil (segments_ne_nil module)
  rw [containingPackage, hps] at hhead
  rw [hps]
  cases isPackage with
  | true => simpa using hhead
  | false =>
    cases ps with
    | nil => simp at hhead
    | cons q qs => simpa using hhead

/-- The package as the index writes it, cut again at its dots. -/
theorem segments_package (isPackage : Bool) (hname : firstSegment module ≠ "") :
    (let package := if isPackage then module else beforeLastSegment module
     if package == "" then [] else segments package) = containingPackage module isPackage := by
  have hhead := head?_containingPackage isPackage hname
  cases isPackage with
  | true =>
    have hne : module ≠ "" := fun h => hname (by rw [h]; rfl)
    simp [containingPackage, hne]
  | false =>
    simp only [containingPackage, beforeLastSegment, Bool.false_eq_true, if_false] at hhead ⊢
    by_cases hnil : (segments module).dropLast = []
    · rw [hnil]
      rfl
    · have hcut := segments_dotted_of_notMem hnil fun p hp =>
        notMem_of_mem_segments (List.dropLast_subset _ hp)
      simp [dotted_ne_empty hnil hhead, hcut]

/-- One level past the topmost package the index still answers, with the bare module text. -/
theorem importSource_eq (isPackage : Bool) (source : Option String) (hlevel : 1 ≤ level)
    (hname : firstSegment module ≠ "") :
    importSource module isPackage source level =
      if level = (containingPackage module isPackage).length + 1 then source
      else absoluteImport module isPackage source level := by
  have hhead := head?_containingPackage isPackage hname
  have hparts := segments_package isPackage hname
  simp only at hparts
  unfold importSource absoluteImport
  rw [if_neg (by omega)]
  simp only [hparts]
  generalize containingPackage module isPackage = package at hhead ⊢
  by_cases hpast : package.length + 1 < level
  · rw [if_pos (by omega), if_neg (by omega), if_pos (by omega)]
  · rw [if_neg (by omega)]
    by_cases htop : level = package.length + 1
    · -- nothing of the package is left, and the text is taken as it stands
      have hleft : package.length - (level - 1) = 0 := by omega
      rw [if_pos htop, hleft, List.take_zero]
      cases source <;> rfl
    · have hlt : 0 < package.length - (level - 1) := by omega
      rw [if_neg htop, if_neg (show ¬ package.length < level by omega)]
      generalize package.length - (level - 1) = n at hlt ⊢
      obtain ⟨p, ps, rfl⟩ := List.exists_cons_of_ne_nil (show package ≠ [] by
        rintro rfl
        simp at hpast htop
        omega)
      have hne : (p :: ps).take n ≠ [] := by simp; omega
      have hbase : dotted ((p :: ps).take n) ≠ "" := by
        apply dotted_ne_empty hne
        rwa [List.head?_take, if_neg (by omega)]
      cases source with
      | none => simp [hbase]
      | some text =>
        simp only [beq_iff_eq, hbase, if_false, Option.toList_some]
        rw [dotted_append hne (List.cons_ne_nil text [])]
        rfl

theorem absoluteImport_eq_none_iff :
    absoluteImport module isPackage source level = none ↔
      (containingPackage module isPackage).length < level := by
  unfold absoluteImport
  simp only
  split <;> simp_all

/-- The index reads a relative import as the rule does, unless the statement has a module text and
its level is one more than the containing package has segments. There the rule refuses the
statement and the index answers with the text. -/
theorem relative_import_exact_below_top (hlevel : 1 ≤ level) (hname : firstSegment module ≠ "") :
    (importSource module isPackage source level = absoluteImport module isPackage source level ↔
      ¬ (source.isSome ∧ level = (containingPackage module isPackage).length + 1)) ∧
    (importSource module isPackage source level = none ↔
      (containingPackage module isPackage).length < level ∧
        ¬ (source.isSome ∧ level = (containingPackage module isPackage).length + 1)) ∧
    (level = (containingPackage module isPackage).length + 1 →
      absoluteImport module isPackage source level = none ∧
      importSource module isPackage source level = source) := by
  have heq := importSource_eq isPackage source hlevel hname
  have hnone : absoluteImport module isPackage source level = none ↔
      (containingPackage module isPackage).length < level := absoluteImport_eq_none_iff
  by_cases htop : level = (containingPackage module isPackage).length + 1
  · have hrefused : absoluteImport module isPackage source level = none := hnone.2 (by omega)
    rw [if_pos htop] at heq
    rw [heq, hrefused]
    refine ⟨?_, ?_, fun _ => ⟨rfl, rfl⟩⟩
    · cases source <;> simp [htop]
    · cases source <;> simp [htop]
  · rw [if_neg htop] at heq
    rw [heq, hnone]
    exact ⟨by simp [htop], by simp [htop], fun h => absurd h htop⟩

/-- A module of an inner package that takes names from the package around it. -/
theorem relative_import_from_tea :
    (1 ≤ 2 ∧ firstSegment "shop.sub.tea" ≠ "") ∧
    importSource "shop.sub.tea" false (some "base") 2 =
      absoluteImport "shop.sub.tea" false (some "base") 2 ∧
    absoluteImport "shop.sub.tea" false (some "base") 2 = some "shop.base" := by
  have hname : firstSegment "shop.sub.tea" ≠ "" := by decide
  have hexact := @relative_import_exact_below_top "shop.sub.tea" false (some "base") 2 (by decide)
    hname
  exact ⟨⟨by decide, hname⟩, hexact.1.2 (by decide), by decide⟩

/-- A module outside every package cannot leave one, yet its relative import is read as the
absolute import of the same text. -/
theorem relative_import_past_top :
    absoluteImport "m" false (some "x") 1 = none ∧
    importSource "m" false (some "x") 1 = some "x" := by
  decide

end Source

end Foundry
