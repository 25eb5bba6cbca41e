import Foundry.Proofs.Pass.Visits
import Foundry.Proofs.Source.Discovery
import Mathlib

/-!
Generation from source text: an iteration is answered when every marked definition can be described,
and a pass gives a result when every definition of the index can, and those that are marked can be
rejected in words.
-/

namespace Foundry.Source

open Query Text

/-- The marker that a decorator may be can be read, and refused in words. -/
def Legible (module : String) (e : Expr) : Prop :=
  ∃ marking, Index.readMarker module e = .ok marking ∧ marking.unshown? = none

instance (module : String) (e : Expr) : Decidable (Legible module e) :=
  match h : Index.readMarker module e with
  | .ok a => decidable_of_iff (a.unshown? = none)
      ⟨fun hworded => ⟨a, h, hworded⟩, fun hlegible => by
        obtain ⟨b, hb, hworded⟩ := hlegible
        exact Except.ok.inj (hb.symm.trans h) ▸ hworded⟩
  | .error f => isFalse fun hlegible => by
      obtain ⟨b, hb, -⟩ := hlegible
      cases h.symm.trans hb

/-- A module whose names are dotted words, its classes' and its functions' too, and whose decorators
can be read as markers. -/
structure Module.IsLegible (m : Module) : Prop where
  named : Name.isDotted (strip m.name) = true
  names : ∀ d ∈ definitionsOf m.name "" m.body, Name.isDotted (strip d.qualname) = true
  markers : ∀ d ∈ definitionsOf m.name "" m.body, ∀ e ∈ d.decorators, Legible m.name e

namespace Index

variable {x : Index} {d : Definition} {n : String}

/-! ### Making an index -/

/-- Whatever marker a definition has, what is wrong with it can be said. -/
def IsWorded (x : Index) (d : Definition) : Prop :=
  ∀ a, x.marking? d = .ok (some a) → a.unshown? = none

theorem marking?_of_legible (h : ∀ e ∈ d.decorators, Legible d.module e) :
    (∃ marking, x.marking? d = .ok marking) ∧ x.IsWorded d := by
  unfold IsWorded marking?
  cases hmarker : x.marker? d with
  | none => exact ⟨⟨none, rfl⟩, fun a ha => nomatch ha⟩
  | some e =>
    obtain ⟨marking, hmarking, hworded⟩ := h e (List.mem_of_find?_eq_some hmarker)
    simp only [hmarking, Except.map]
    refine ⟨⟨_, rfl⟩, fun a ha => ?_⟩
    obtain rfl := Option.some.inj (Except.ok.inj ha)
    exact hworded

mutual

theorem addStmt_ok {module start : String} {s : Stmt} (x : Index)
    (h : ∀ d ∈ definitionsIn module start s, ∀ e ∈ d.decorators, Legible module e) :
    ∃ y, x.addStmt module start s = .ok y := by
  cases s with
  | classDef line first name bases keywords decorators body =>
    rw [definitionsIn] at h
    rw [addStmt]
    exact addStmts_ok _ fun d hd => h d (List.mem_cons_of_mem _ hd)
  | functionDef line first name params decorators body =>
    rw [definitionsIn] at h
    obtain ⟨⟨marking, hmarking⟩, -⟩ := marking?_of_legible (x := x)
      (d := ⟨module, start ++ name, line, decorators, none⟩) (h _ List.mem_cons_self)
    rw [addStmt, hmarking]
    cases marking with
    | none => exact ⟨_, rfl⟩
    | some k => exact ⟨_, rfl⟩
  | _ =>
    rw [addStmt]
    · exact ⟨x, rfl⟩
    all_goals intros; contradiction

theorem addStmts_ok {module start : String} {body : List Stmt} (x : Index)
    (h : ∀ d ∈ definitionsOf module start body, ∀ e ∈ d.decorators, Legible module e) :
    ∃ y, x.addStmts module start body = .ok y := by
  cases body with
  | nil =>
    rw [addStmts]
    exact ⟨x, rfl⟩
  | cons s rest =>
    rw [definitionsOf] at h
    obtain ⟨z, hz⟩ := addStmt_ok x fun d hd => h d (List.mem_append_left _ hd)
    rw [addStmts, hz]
    exact addStmts_ok z fun d hd => h d (List.mem_append_right _ hd)

end

theorem addModules_ok {ms : List Module} (x : Index) (h : ∀ m ∈ ms, m.IsLegible) :
    ∃ y, addModules (.ok x) ms = .ok y := by
  induction ms generalizing x with
  | nil => exact ⟨x, rfl⟩
  | cons m ms ih =>
    obtain ⟨hm, hrest⟩ := List.forall_mem_cons.1 h
    obtain ⟨z, hz⟩ := addStmts_ok x hm.markers
    obtain ⟨y, hy⟩ := ih z hrest
    refine ⟨y, ?_⟩
    change addModules (x.addStmts m.name "" m.body) ms = .ok y
    rw [hz, hy]

/-- Modules that can be read make an index of definitions that can be described, with markers that
can be refused in words. -/
theorem make_of_legible {modules : List Module} (annotationNames : List String)
    (h : ∀ m ∈ modules, m.IsLegible) :
    ∃ x, make modules annotationNames = .ok x ∧
      ∀ n d, x.definitions.get? n = some d → x.Describable d ∧ x.IsWorded d := by
  have hknown : ∀ m ∈ (Ordered.ofList (modules.map fun m => (m.name, m))).values, m.IsLegible := by
    intro m hm
    obtain ⟨⟨n, k⟩, he, rfl⟩ := List.mem_map.1 hm
    obtain ⟨m, hm, heq⟩ :=
      List.mem_map.1 (Ordered.mem_of_get?_ofList ((Ordered.get?_eq_some_iff _ n k).2 he))
    exact (Prod.mk.inj heq).2 ▸ h m hm
  obtain ⟨x, hx⟩ := addModules_ok
    ⟨Ordered.ofList (modules.map fun m => (m.name, m)), Ordered.empty, annotationNames⟩ hknown
  have hmake : make modules annotationNames = .ok x := hx
  refine ⟨x, hmake, fun n d hd => ?_⟩
  obtain ⟨m, hm, hwritten⟩ := (keyed_make hmake).1.written n d hd
  have hname := (keyed_make hmake).1.module _ m hm
  have hm := h m (mem_modules hmake hm)
  rw [← hname] at hwritten
  obtain ⟨hmarking, hworded⟩ := marking?_of_legible (hname ▸ hm.markers d hwritten)
  exact ⟨⟨hmarking, hname ▸ hm.named, hm.names d hwritten⟩, hworded⟩

/-! ### Iterations -/

/-- An iteration is answered exactly if every marked definition can be described, and then it yields
a declaration for each. -/
theorem discover_answered_iff (hx : x.Keyed) {s : Memory} (hs : x.Remembers s) :
    (∃ as, x.provider.discover.answer s = .ok as ∧
      as.map Declaration.qualifiedName = x.markedNames) ↔
      ∀ n d, x.definitions.get? n = some d → x.IsMarked d → x.Describable d := by
  rcases discovers_markedNames hx hs with ⟨f, hf, n, d, hd, hrefuses⟩ | ⟨as, has, hnames, hyields⟩
  · constructor
    · rintro ⟨as, has, -⟩
      cases hf.symm.trans has
    · intro h
      exact absurd (h n d hd hrefuses.1) hrefuses.not_describable
  · refine ⟨fun _ n d hd hmarked => ?_, fun _ => ⟨as, has, hnames⟩⟩
    have hmem : n ∈ as.map Declaration.qualifiedName :=
      hnames ▸ mem_markedNames.2 ⟨d, hd, hmarked⟩
    obtain ⟨a, ha, rfl⟩ := List.mem_map.1 hmem
    obtain ⟨k, e, hae⟩ := hyields a ha
    rw [hae.qualifiedName_eq hx] at hd
    obtain rfl : d = e := Option.some.inj (hd.symm.trans hae.listed)
    exact hae.describes.describable

/-! ### Passes -/

theorem provider_within (hx : x.Keyed)
    (h : ∀ n d, x.definitions.get? n = some d → x.Describable d) :
    x.provider.Within x.Remembers Fault.IsRejection where
  rejection r := ⟨r, rfl⟩
  get n s hs := by
    refine (get_answers hx n hs).imp (fun _ _ ht => ht.1) fun f t ht => ⟨ht.1, ?_⟩
    cases ht.2 with
    | refused hd hf => exact absurd (hf Ordered.empty) (h _ _ hd).describe_ne_error
  resolve r := .pure _

theorem annotated_finds (hx : x.Keyed)
    (h : ∀ n d, x.definitions.get? n = some d → x.Describable d)
    (hworded : ∀ n d, x.definitions.get? n = some d → x.IsWorded d) (t : FileTree)
    (l : Diagnostics) {w : World Memory} (hw : (World.view x.Remembers).At t l w) :
    After (World.host x.provider).provider.annotated w
      (fun visits w' => (World.view x.Remembers).At t l w' ∧
        ∀ visit ∈ visits, Pass.Finds (World.view x.Remembers) visit) fun _ _ => False := by
  refine ⟨hw, fun visit hvisit => ?_⟩
  obtain ⟨q, hq, rfl⟩ := List.mem_map.1 hvisit
  rw [annotated_eq] at hq
  obtain ⟨e, he, rfl⟩ := List.mem_map.1 hq
  have hd := (Ordered.get?_eq_some_iff _ e.1 e.2).2 he
  rintro t l w ⟨hgood, hfiles, hheard⟩
  rw [after_lift]
  refine (visit_after hx hd hgood).imp ?_ ?_
  · rintro found m ⟨hm, hsees⟩
    refine ⟨⟨hm, hfiles, hheard⟩, ?_⟩
    rintro a rfl
    have hmarking := hsees.describes.marking_eq
    cases hmarked : a.marking with
    | some k => exact ⟨k, hmarked, hworded _ _ hd k (hmarked ▸ hmarking)⟩
    | none =>
      rw [hmarked] at hmarking
      exact absurd hsees.marked (marking?_eq_none_iff.1 hmarking)
  · rintro f m ⟨-, hf⟩
    exact hf.not_describable (h _ _ hd)

variable {platform : Platform}

theorem parseText_of_parse {wording : Wording} {cs : List Char} {body : List Stmt}
    (hplain : cs.contains (Char.ofNat 0) = false) (h : parse cs = .ok body) :
    parseText wording cs = .ok body := by
  rw [parseText, hplain, h]
  rfl

/-- A class and, within it, a member of its group. -/
def nestedText : List Char :=
  "class A:\n @f('b',A)\n class B(A):pass\n".toList

def nestedBody : List Stmt :=
  [.classDef 1 1 "A" [] [] []
    [.classDef 3 2 "B" [.name "A"] []
      [.call (.name "f") [.constant (.text "b" false), .name "A"] []] [.pass]]]

set_option maxRecDepth 4000 in
theorem parse_nestedText : parse nestedText = .ok nestedBody := by cbv

/-- A class that is marked for a group it does not belong to. -/
def strayText : List Char :=
  "@f('c','A')\nclass C:pass\n".toList

def strayBody : List Stmt :=
  [.classDef 2 1 "C" [] []
    [.call (.name "f") [.constant (.text "c" false), .constant (.text "A" false)] []] [.pass]]

set_option maxRecDepth 4000 in
theorem parse_strayText : parse strayText = .ok strayBody := by cbv

def shelfModules : List Module :=
  [Module.make "a" (Path.ofText "src/a.py") nestedBody,
   Module.make "c" (Path.ofText "lib/c.py") strayBody]

/-- Sources with a group and its member under one root and a stray under the other. -/
def shelfTree : FileTree :=
  FileTree.ofFiles
    [("src/a.py", nestedText.map fun c => c.toNat.toUInt8),
     ("lib/c.py", strayText.map fun c => c.toNat.toUInt8)]

def shelfRoots : List Path := [Path.ofText "src", Path.ofText "lib"]

def shelfSettings : Settings :=
  Settings.ofLayers [Ordered.ofList
    [("OUTPUT_DIR", .text "out"), ("MODULE_SUFFIX", .text "_shelf"),
     ("ANNOTATION_NAMES", .tuple [.text "f"]), ("MAX_SUPERCLASS_DEPTH", .text "2")]]

def shelfConfig : Config :=
  { Config.standard with
    outputDir := Path.ofText "out", moduleSuffix := "_shelf", maxSuperclassDepth := 2,
    annotationNames := ["f"] }

def shelfPlatform : Platform :=
  .usual fun _ => "invalid syntax"

def shelfIndex : Index :=
  (make shelfModules ["f"]).toOption.getD ⟨Ordered.empty, Ordered.empty, []⟩

theorem loadFiles_shelfTree :
    loadFiles shelfPlatform.wording shelfTree (shelfPlatform.codecs "utf-8")
      (Discovery.findSources shelfTree shelfRoots).modules [] [] =
        .ok (shelfModules, []) := by
  have hfound : (Discovery.findSources shelfTree shelfRoots).modules =
      [("a", Path.ofText "src/a.py"), ("c", Path.ofText "lib/c.py")] := by decide +kernel
  have hnested : readSource shelfTree (shelfPlatform.codecs "utf-8") (Path.ofText "src/a.py") =
      .ok nestedText := by rfl
  have hstray : readSource shelfTree (shelfPlatform.codecs "utf-8") (Path.ofText "lib/c.py") =
      .ok strayText := by rfl
  simp only [hfound, loadFiles, hnested, hstray, parseText_of_parse (by decide) parse_nestedText,
    parseText_of_parse (by decide) parse_strayText]
  rfl

theorem shelf_legible : ∀ m ∈ shelfModules, m.IsLegible :=
  List.forall_mem_cons.2 ⟨⟨by rfl, by decide, by decide⟩,
    List.forall_mem_singleton.2 ⟨by rfl, by decide, by decide⟩⟩

def accentedMarker (identifier : String) : Expr :=
  .call (.name "factory") []
    [.mk (some "identifier") (.constant (.text identifier false)),
     .mk (some "type") (.constant (.text "T" false))]

/-- Two marked classes, one with a letter in its name that dotted names do not have. -/
def accented : Module :=
  Module.make "m" (Path.ofText "m.py")
    [.importFrom (some "factorygen") [⟨"factory", none⟩] 0,
     .classDef 4 3 "A" [] [] [accentedMarker "a"] [.pass],
     .classDef 8 7 "Ä" [] [] [accentedMarker "b"] [.pass]]

def accentedIndex : Index :=
  (make [accented] ["factorygen.factory"]).toOption.getD ⟨Ordered.empty, Ordered.empty, []⟩

end Index

end Foundry.Source
