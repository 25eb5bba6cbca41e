import Foundry.Proofs.Source.Discovery
import Foundry.Proofs.Source.Symbols

/-!
Ways to import a marker: whatever an import calls it and however many modules pass it on by name, the
decorator stands for the same name in the end, and so the same classes are yielded.
-/

namespace Foundry.Source

open Text

variable {m : Module}

namespace Module

/-- The imports of a module bind a name to one target, and no class takes the name. -/
structure Binds (m : Module) (name target : String) : Prop where
  bound : (name, target) ∈ m.importedNames
  only : ∀ t, (name, t) ∈ m.importedNames → t = target
  classes : ∀ d ∈ m.recorded, d.qualname ≠ name

/-- No import and no class of a module binds a name. -/
structure LeavesFree (m : Module) (name : String) : Prop where
  imports : ∀ t, (name, t) ∉ m.importedNames
  classes : ∀ d ∈ m.recorded, d.qualname ≠ name

theorem IsRead.get?_classes_of_free {name : String} (h : m.IsRead)
    (hfree : ∀ d ∈ m.recorded, d.qualname ≠ name) : m.classes.get? name = none := by
  rw [h.classes_eq, Ordered.get?_ofList_eq_none_iff]
  intro hmem
  obtain ⟨e, he, rfl⟩ := List.mem_map.1 hmem
  obtain ⟨d, hd, rfl⟩ := List.mem_map.1 he
  exact hfree d hd rfl

theorem Binds.get?_imports {name target : String} (h : m.Binds name target) (hm : m.IsRead) :
    m.imports.get? name = some target := by
  rw [hm.imports_eq]
  exact Ordered.get?_ofList_of_mem h.bound h.only

theorem LeavesFree.get?_imports {name : String} (h : m.LeavesFree name) (hm : m.IsRead) :
    m.imports.get? name = none := by
  rw [hm.imports_eq, Ordered.get?_ofList_eq_none_iff]
  intro hmem
  obtain ⟨⟨n, t⟩, he, rfl⟩ := List.mem_map.1 hmem
  exact h.imports t he

end Module

namespace Index

variable {x : Index} {d : Definition} {e : Expr} {n head base target written : String}

/-! ### Names in a module -/

/-- A written name with its first segment replaced by what the segment stands for. -/
def expanded (base written : String) : String :=
  let rest := afterFirstSegment written
  if rest == "" then base else base ++ "." ++ rest

theorem resolveExpr_eq (hm : x.modules.get? n = some m) (he : dottedName? e = some written) :
    x.resolveExpr n e = some (((x.headTarget m (firstSegment written)).map fun base =>
      x.canon (expanded base written)).getD written) := by
  unfold resolveExpr resolveIn
  rw [he, Option.map_some, hm]
  rfl

theorem headTarget_of_binds (hm : m.IsRead) (h : m.Binds head base) :
    x.headTarget m head = some base := by
  unfold headTarget
  rw [hm.get?_classes_of_free h.classes, h.get?_imports hm]

/-- What the star imports of a module find under a name. -/
def starTarget (x : Index) (m : Module) (head : String) : Option String :=
  m.stars.findSome? fun star =>
    let found := x.canon (star ++ "." ++ head)
    if x.defines found then some found else none

theorem headTarget_of_free (hm : m.IsRead) (h : m.LeavesFree head) (hb : isBuiltin head = false) :
    x.headTarget m head = x.starTarget m head := by
  unfold headTarget starTarget
  rw [hm.get?_classes_of_free h.classes, h.get?_imports hm]
  simp only [hb, Bool.false_eq_true, if_false]
  generalize List.findSome? _ m.stars = found
  cases found <;> rfl

theorem starTarget_eq_none (h : ∀ star ∈ m.stars, x.defines (x.canon (star ++ "." ++ head)) = false) :
    x.starTarget m head = none := by
  unfold starTarget
  rw [List.findSome?_eq_none_iff]
  intro star hstar
  simp [h star hstar]

theorem starTarget_eq_some {star : String} (hstar : star ∈ m.stars)
    (hdef : x.defines (x.canon (star ++ "." ++ head)) = true)
    (h : ∀ s ∈ m.stars, x.defines (x.canon (s ++ "." ++ head)) = true →
      x.canon (s ++ "." ++ head) = target) : x.starTarget m head = some target := by
  cases hfound : x.starTarget m head with
  | none =>
    have hnone := List.findSome?_eq_none_iff.1 hfound star hstar
    simp [hdef] at hnone
  | some found =>
    obtain ⟨s, hs, hs'⟩ := List.exists_of_findSome?_eq_some hfound
    rw [Option.ite_none_right_eq_some, Option.some.injEq] at hs'
    rw [← hs'.2, h s hs hs'.1]

/-! ### Ways to import -/

/-- An expression in a module stands for a name that no module passes on: by an import of a name or
of a module, followed along the imports by name of other modules, or by an import of all names that
finds a definition. -/
inductive Brings (x : Index) (m : Module) (e : Expr) (target : String) : Prop
  | byName {written base : String} {k : Nat} : dottedName? e = some written →
    m.Binds (firstSegment written) base → Steps x.ImportLink k (expanded base written) target →
    k ≤ maxHops → x.Final target → Brings x m e target
  | byStar {head star : String} {k : Nat} : dottedName? e = some head → segments head = [head] →
    m.LeavesFree head → isBuiltin head = false → star ∈ m.stars →
    Steps x.ImportLink k (star ++ "." ++ head) target → k ≤ maxHops → x.defines target = true →
    (∀ s ∈ m.stars, x.defines (x.canon (s ++ "." ++ head)) = true →
      x.canon (s ++ "." ++ head) = target) → Brings x m e target

theorem Brings.resolveExpr_eq (h : x.Brings m e target) (hx : x.WellRead) (hread : m.IsRead)
    (hm : x.modules.get? n = some m) : x.resolveExpr n e = some target := by
  cases h with
  | byName hwritten hbinds hsteps hk hfinal =>
    rw [Index.resolveExpr_eq hm hwritten, headTarget_of_binds hread hbinds, Option.map_some,
      Option.getD_some, canon, canonical_of_imports hx hsteps hk hfinal]
  | @byStar head star k hwritten hword hfree hbuiltin hstar hsteps hk hdef honly =>
    have hcanon : x.canon (star ++ "." ++ head) = target :=
      canonical_of_imports hx hsteps hk (final_of_defines hdef)
    have hfirst : firstSegment head = head := by rw [firstSegment, hword]; rfl
    have hexpanded : expanded target head = target := by
      rw [expanded, afterFirstSegment, hword]
      rfl
    rw [Index.resolveExpr_eq hm hwritten, hfirst, headTarget_of_free hread hfree hbuiltin,
      starTarget_eq_some hstar (hcanon ▸ hdef) honly, Option.map_some, Option.getD_some, hexpanded,
      canon, canonical_of_defines hdef]

/-- An expression in a module starts with a name that only imports of all names could bind, and none
of them finds a definition. -/
structure Loses (x : Index) (m : Module) (e : Expr) (written : String) : Prop where
  text : dottedName? e = some written
  free : m.LeavesFree (firstSegment written)
  notBuiltin : isBuiltin (firstSegment written) = false
  stars : ∀ star ∈ m.stars, x.defines (x.canon (star ++ "." ++ firstSegment written)) = false

theorem Loses.resolveExpr_eq (h : x.Loses m e written) (hread : m.IsRead)
    (hm : x.modules.get? n = some m) : x.resolveExpr n e = some written := by
  rw [Index.resolveExpr_eq hm h.text, headTarget_of_free hread h.free h.notBuiltin,
    starTarget_eq_none h.stars]
  rfl

/-! ### Markers -/

/-- A decorator in a module is a marker. -/
def Marks (x : Index) (module : String) (e : Expr) : Prop :=
  ∃ name, x.resolveExpr module (decoratorTarget e) = some name ∧ name ∈ x.annotationNames

theorem isMarked_iff : x.IsMarked d ↔ ∃ e ∈ d.decorators, x.Marks d.module e := by
  unfold IsMarked marker?
  rw [List.find?_isSome]
  refine exists_congr fun e => and_congr_right fun _ => ?_
  unfold Marks
  cases x.resolveExpr d.module (decoratorTarget e) with
  | none => simp
  | some name => simp

theorem marks_iff (h : x.resolveExpr n (decoratorTarget e) = some target) :
    x.Marks n e ↔ target ∈ x.annotationNames := by
  unfold Marks
  simp [h]

/-- A listed class with one decorator that can be a marker is yielded when it is one. -/
theorem discovers_of_marks (hx : x.Keyed) (hd : x.Lists d) (he : e ∈ d.decorators)
    (hothers : ∀ f ∈ d.decorators, f ≠ e → ¬x.Marks d.module f)
    (h : x.resolveExpr d.module (decoratorTarget e) = some target) {s : Memory}
    (hs : x.Remembers s) :
    x.Discovers s fun as =>
      d.qualifiedName ∈ as.map Declaration.qualifiedName ↔ target ∈ x.annotationNames := by
  refine (discovers_markedNames hx hs).imp fun as ⟨hnames, _⟩ => ?_
  rw [hnames, mem_markedNames, ← marks_iff h]
  constructor
  · rintro ⟨c, hc, hmarked⟩
    obtain rfl : d = c := Option.some.inj (hd.symm.trans hc)
    obtain ⟨f, hf, hmarks⟩ := isMarked_iff.1 hmarked
    by_cases hfe : f = e
    · exact hfe ▸ hmarks
    · exact absurd hmarks (hothers f hf hfe)
  · exact fun hmarks => ⟨d, hd, isMarked_iff.2 ⟨e, he, hmarks⟩⟩

/-- Whether a listed class is yielded depends on what its decorator stands for, not on the form of
the import: an import of the marker or of its module under any name, an import of a name that other
modules pass on, an import of all names of a module that leads to a definition. An import of all
names that leads to no definition binds nothing, and the text of the decorator decides. -/
theorem discovery_follows_import {modules : List Module} {annotationNames : List String}
    (hx : make modules annotationNames = .ok x) (hread : ∀ m ∈ modules, m.IsRead)
    (hm : x.modules.get? d.module = some m) (hd : x.Lists d) (he : e ∈ d.decorators)
    (hothers : ∀ f ∈ d.decorators, f ≠ e → ¬x.Marks d.module f) (questions : List Question) :
    let s := x.provider.after questions Memory.empty
    (∀ target, x.Brings m (decoratorTarget e) target → x.Discovers s fun as =>
      d.qualifiedName ∈ as.map Declaration.qualifiedName ↔ target ∈ annotationNames) ∧
    ∀ written, x.Loses m (decoratorTarget e) written → x.Discovers s fun as =>
      d.qualifiedName ∈ as.map Declaration.qualifiedName ↔ written ∈ annotationNames := by
  have hkeyed := (keyed_make hx).1
  have hmread : m.IsRead := hread m (mem_modules hx hm)
  have hwell : x.WellRead := wellRead_make hx hread
  have hremembers := after_remembers hkeyed questions
  rw [← annotationNames_make hx]
  refine ⟨fun target hbrings => ?_, fun written hloses => ?_⟩
  · exact discovers_of_marks hkeyed hd he hothers (hbrings.resolveExpr_eq hwell hmread hm) hremembers
  · exact discovers_of_marks hkeyed hd he hothers (hloses.resolveExpr_eq hmread hm) hremembers

/-- A module that imports a marker and marks a class with it. -/
def importing (statement : Stmt) (marker : Expr) : Module :=
  Module.make "m" (Path.ofText "m.py")
    [statement,
     .classDef 4 3 "A" [] []
       [.call marker []
         [.mk (some "identifier") (.constant (.text "a" false)),
          .mk (some "type") (.constant (.text "T" false))]]
       [.pass]]

/-- A module that passes the marker on under another name. -/
def passing : Module :=
  Module.make "p" (Path.ofText "p.py")
    [.importFrom (some "factorygen") [⟨"factory", some "mark"⟩] 0]

def renamers : List Module :=
  [importing (.importFrom (some "p") [⟨"mark", some "made"⟩] 0) (.name "made"), passing]

def renamingIndex : Index :=
  (make renamers ["factorygen.factory"]).toOption.getD ⟨Ordered.empty, Ordered.empty, []⟩

def renamingClass : Definition :=
  (renamingIndex.definitions.get? "m.A").getD ⟨"", "", 0, [], none⟩

theorem renaming_brings :
    renamingIndex.Brings (importing (.importFrom (some "p") [⟨"mark", some "made"⟩] 0)
      (.name "made")) (.name "made") "factorygen.factory" := by
  have hbinds : (importing (.importFrom (some "p") [⟨"mark", some "made"⟩] 0)
      (.name "made")).Binds "made" "p.mark" := by
    refine ⟨.head _, fun t ht => ?_, fun d hd => ?_⟩
    · obtain ⟨-, rfl⟩ := Prod.mk.inj (List.mem_singleton.1 ht)
      rfl
    · obtain rfl := List.mem_singleton.1 hd
      decide
  have hpassed : renamingIndex.PassedOn "p.mark" passing "mark" [] :=
    ⟨rfl, splitModule_iff.1 rfl, rfl⟩
  refine .byName rfl hbinds (.succ (.mk hpassed rfl) (.zero _)) (by decide) ?_
  intro m head tail hp
  cases (splitModule_iff.2 hp.starts).symm.trans
    (show renamingIndex.splitModule (segments "factorygen.factory") 1 = none from rfl)

theorem renamed_marker_yields :
    make renamers ["factorygen.factory"] = .ok renamingIndex ∧
    renamingIndex.Discovers (renamingIndex.provider.after [.get "m.A"] Memory.empty) fun as =>
      "m.A" ∈ as.map Declaration.qualifiedName := by
  have hmake : make renamers ["factorygen.factory"] = .ok renamingIndex := rfl
  have hread : ∀ m ∈ renamers, m.IsRead := by
    intro m hm
    simp only [renamers, List.mem_cons, List.not_mem_nil, or_false] at hm
    rcases hm with rfl | rfl
    · exact ⟨_, _, _, rfl⟩
    · exact ⟨_, _, _, rfl⟩
  have hyields := (discovery_follows_import (d := renamingClass) hmake hread rfl rfl (.head _)
    (fun f hf hne => absurd (List.mem_singleton.1 hf) hne) [.get "m.A"]).1 _ renaming_brings
  exact ⟨hmake, hyields.imp fun as h => h.2 (.head _)⟩

/-- The names that an iteration yields. -/
def yielded (modules : List Module) : Except Fault (List String) := do
  let x ← make modules ["factorygen.factory"]
  let found ← x.provider.discover.answer Memory.empty
  return found.map Declaration.qualifiedName

/-- A class is yielded when its marker is imported by name, from its module or from one that passes
it on, and is not when all names of these modules are imported. -/
theorem star_import_drops_class :
    yielded [importing (.importFrom (some "factorygen") [⟨"factory", none⟩] 0) (.name "factory")] =
      .ok ["m.A"] ∧
    yielded [importing (.importNames [⟨"factorygen", some "g"⟩]) (.member (.name "g") "factory")] =
      .ok ["m.A"] ∧
    yielded [importing (.importFrom (some "factorygen") [⟨"*", none⟩] 0) (.name "factory")] =
      .ok [] ∧
    yielded [importing (.importFrom (some "p") [⟨"mark", none⟩] 0) (.name "mark"), passing] =
      .ok ["m.A"] ∧
    yielded [importing (.importFrom (some "p") [⟨"*", none⟩] 0) (.name "mark"), passing] =
      .ok [] :=
  ⟨rfl, rfl, rfl, rfl, rfl⟩

end Index

end Foundry.Source
