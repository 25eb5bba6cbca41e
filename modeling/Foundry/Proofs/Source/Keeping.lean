import Foundry.Proofs.Factory.Program
import Foundry.Proofs.Pass.Footprint
import Foundry.Proofs.Source.Generating

/-!
Which files generation from source text leaves as they were.
-/

namespace Foundry

open Query

namespace Generation

variable {platform : Platform}

theorem fromSources_of_load {s : Settings} {c : Config} {roots : Option (List Path)} {t : FileTree}
    {loaded : Source.Loaded} (hc : Config.ofSettings platform.coercions s = .ok c)
    (hload : prepare platform c roots t = .ok loaded) :
    fromSources platform (.ok s) roots t = ofLoaded platform c loaded t := by
  unfold fromSources
  simp only [hc, hload]

theorem prepare_of_files {c : Config} {roots : Option (List Path)} {t : FileTree}
    {modules : List Source.Module} {errors : List (Path × Source.SyntaxFault)}
    {x : Source.Index}
    (hfiles : Source.loadFiles platform.wording t (platform.codecs c.encoding)
      (Discovery.findSources t (roots.getD c.sourceRoots)).modules [] [] = .ok (modules, errors))
    (hmake : Source.Index.make modules c.annotationNames = .ok x) :
    prepare platform c roots t = .ok ⟨x, errors⟩ := by
  unfold prepare Source.load
  rw [hfiles]
  simp only [hmake]
  rfl

theorem fromSources_ok {s : Settings} {c : Config} {roots : Option (List Path)} {t : FileTree}
    {result : PassResult} {w : World Source.Index.Memory}
    (hc : Config.ofSettings platform.coercions s = .ok c)
    (hrun : fromSources platform (.ok s) roots t = (.ok result, w)) :
    ∃ loaded, prepare platform c roots t = .ok loaded ∧
      ofLoaded platform c loaded t = (.ok result, w) := by
  cases hload : prepare platform c roots t with
  | error f => simp [fromSources, hc, hload] at hrun
  | ok loaded => exact ⟨loaded, rfl, (fromSources_of_load hc hload).symm.trans hrun⟩

theorem ofLoaded_of_run {c : Config} {loaded : Source.Loaded} {t : FileTree}
    {result : Except Fault PassResult} {s : Pass × World Source.Index.Memory}
    (hrun : (work (World.host loaded.index.provider) loaded.errors).run
      (Pass.ofConfig platform.codecs c, World.start Source.Index.Memory.empty t) = (result, s)) :
    ofLoaded platform c loaded t = (result, s.2) :=
  congrArg (fun r => (r.1, r.2.2)) hrun

/-- Whatever sources it is given, generation writes its artifacts and nothing else. -/
theorem ofLoaded_writesOnly {c : Config} {loaded : Source.Loaded} {t : FileTree}
    {result : PassResult} {w : World Source.Index.Memory}
    (hrun : ofLoaded platform c loaded t = (.ok result, w)) :
    Pass.WritesOnly (World.host loaded.index.provider) (World.view fun _ => True) c
      (Filer.make c.outputDir (platform.codecs c.encoding)) t result w.files := by
  have hafter := Pass.work_writesOnly loaded.index.provider loaded.errors c
    (Filer.make c.outputDir (platform.codecs c.encoding)) (World.start Source.Index.Memory.empty t)
  obtain ⟨hresult, hworld⟩ := Prod.mk.inj hrun
  rw [← hworld]
  exact hafter.of_ok (Prod.ext hresult rfl)

/-- Every artifact lies at the path of its module and holds its rendered text. A file that was there
before keeps its bytes exactly if every artifact whose path leads to it has those bytes; where it lies
at the path of a module, exactly if no factory of that module is generated, or one of the same text. -/
theorem file_kept_iff {s : Settings} {c : Config} {roots : Option (List Path)} {t : FileTree}
    {result : PassResult} {w : World Source.Index.Memory}
    (hc : Config.ofSettings platform.coercions s = .ok c)
    (hrun : fromSources platform (.ok s) roots t = (.ok result, w)) :
    (∀ a ∈ result.artifacts, a.module = c.naming.moduleName a.plan.group ∧
      (Filer.make c.outputDir (platform.codecs c.encoding)).pathFor a.module = .ok a.path ∧
      ∃ bytes, Filer.encodeAs (platform.codecs c.encoding)
          (Factory.render c.runtimeModule a.plan) = .ok bytes ∧
        w.files.find? a.path = some (some bytes)) ∧
    ∀ p old, t.find? p = some (some old) →
      (w.files.find? p = some (some old) ↔
        ∀ a ∈ result.artifacts, w.files.locate a.path = w.files.locate p →
          Filer.encodeAs (platform.codecs c.encoding)
            (Factory.render c.runtimeModule a.plan) = .ok old) ∧
      ∀ m, (Filer.make c.outputDir (platform.codecs c.encoding)).pathFor m = .ok p →
        (w.files.find? p = some (some old) ↔
          ∀ a ∈ result.artifacts, a.module = m →
            Filer.encodeAs (platform.codecs c.encoding)
              (Factory.render c.runtimeModule a.plan) = .ok old) := by
  obtain ⟨loaded, -, hpass⟩ := fromSources_ok hc hrun
  obtain ⟨es, f', hchain, hartifacts⟩ := ofLoaded_writesOnly hpass
  have hpaths : ∀ a ∈ result.artifacts,
      (Filer.make c.outputDir (platform.codecs c.encoding)).pathFor a.module = .ok a.path := by
    intro a ha
    rw [hartifacts] at ha
    obtain ⟨e, he, hr⟩ := List.mem_map.1 (Pass.mem_accepted.1 ha)
    exact (hchain.pathFor e he a hr).1
  refine ⟨fun a ha => ?_, fun p old hold => ?_⟩
  · have hmem := hartifacts ▸ ha
    obtain ⟨e, he, hr⟩ := List.mem_map.1 (Pass.mem_accepted.1 hmem)
    obtain ⟨hplanned, hartifact⟩ := hchain.planned e he
    obtain ⟨hplan, hmodule⟩ := hartifact a hr
    rw [hplan] at hplanned
    obtain ⟨d, hmake⟩ := hplanned.exists_make
    refine ⟨?_, hpaths a ha, hchain.find?_artifact e he a hr⟩
    rw [hmodule, hmake]
    rfl
  · obtain ⟨place, hl, hn⟩ := FileTree.find?_eq_some_iff.1 hold
    have hplace : w.files.locate p = .ok place :=
      FileTree.walk_of_keepsDirs hchain.keepsDirs p.parts hl
    have hkept : w.files.find? p = some (some old) ↔
        ∀ a ∈ result.artifacts, w.files.locate a.path = w.files.locate p →
          Filer.encodeAs (platform.codecs c.encoding)
            (Factory.render c.runtimeModule a.plan) = .ok old := by
      have hfind : w.files.find? p = some (some old) ↔ w.files.at? place = some (some old) := by
        unfold FileTree.find?
        rw [hplace]
      rw [hfind, hchain.kept_iff hn, hartifacts, hplace]
      exact Iff.rfl
    refine ⟨hkept, fun m hm => hkept.trans ?_⟩
    refine forall₂_congr fun a ha => ?_
    rw [Filer.locate_eq_iff hm (hpaths a ha) hplace]

/-! ### A source file with the name of a factory -/

open Source Source.Index

def inPlaceModule : Module :=
  Module.make "a_factory" (Path.ofText "src/a_factory.py") nestedBody

/-- Sources in a module that has the name of the factory they ask for, and another file. -/
def inPlaceTree : FileTree :=
  ((FileTree.empty.put ["src"] none).put ["src", "a_factory.py"]
    (some (nestedText.map fun c => c.toNat.toUInt8))).put ["src", "notes.txt"] (some [])

def inPlaceSettings : Settings :=
  Settings.ofLayers [Ordered.ofList
    [("OUTPUT_DIR", .text "src"), ("ANNOTATION_NAMES", .tuple [.text "f"])]]

def inPlaceConfig : Config :=
  { Config.standard with outputDir := Path.ofText "src", annotationNames := ["f"] }

theorem ofSettings_inPlace :
    Config.ofSettings shelfPlatform.coercions inPlaceSettings = .ok inPlaceConfig := by rfl

def inPlaceIndex : Index :=
  (make [inPlaceModule] ["f"]).toOption.getD ⟨Ordered.empty, Ordered.empty, []⟩

def inPlacePlan : Factory.Plan where
  group := ⟨"a_factory", "A"⟩
  groupBound := "A"
  factoryName := "AFactory"
  moduleName := "a_factory"
  imports := [⟨"a_factory", "A", none⟩]
  branches := [⟨"b", ⟨"a_factory", "A.B"⟩, "A.B"⟩]

theorem make_inPlace : make [inPlaceModule] ["f"] = .ok inPlaceIndex := by rfl

theorem prepare_inPlace :
    prepare shelfPlatform inPlaceConfig (some [Path.ofText "src"]) inPlaceTree =
      .ok ⟨inPlaceIndex, []⟩ := by
  have hfound : (Discovery.findSources inPlaceTree [Path.ofText "src"]).modules =
      [("a_factory", Path.ofText "src/a_factory.py")] := by decide +kernel
  have hread : readSource inPlaceTree (shelfPlatform.codecs "utf-8")
      (Path.ofText "src/a_factory.py") = .ok nestedText := by rfl
  have hfiles : loadFiles shelfPlatform.wording inPlaceTree (shelfPlatform.codecs "utf-8")
      (Discovery.findSources inPlaceTree [Path.ofText "src"]).modules [] [] =
        .ok ([inPlaceModule], []) := by
    simp only [hfound, loadFiles, hread, parseText_of_parse (by decide) parse_nestedText]
    rfl
  exact prepare_of_files hfiles make_inPlace

/-- A pass over loaded sources that comes to one group, of which a plan is made. -/
def PlansOne (platform : Platform) (c : Config) (loaded : Loaded) (t : FileTree)
    (plan : Factory.Plan) : Prop :=
  ∃ p w w' g, (Pass.gather (World.host loaded.index.provider) loaded.errors).run
      (Pass.ofConfig platform.codecs c, World.start Index.Memory.empty t) = (.ok (), p, w) ∧
    p.registry.beginEmission = .ok ⟨[g], .emitting⟩ ∧ p.config = c ∧
    p.filer = Filer.make c.outputDir (platform.codecs c.encoding) ∧ w.files = t ∧
    g.members.entries ≠ [] ∧
    (Factory.planGroup (World.host loaded.index.provider).provider c.naming g).run w =
      (.ok plan, w')

theorem PlansOne.ofLoaded {c : Config} {loaded : Loaded} {t : FileTree} {plan : Factory.Plan}
    (h : PlansOne platform c loaded t plan) (hff : c.failFast = false)
    {written : Except Rejection Path} {f : Filer} {t' : FileTree}
    (hwrite : (Filer.make c.outputDir (platform.codecs c.encoding)).write plan.moduleName
      (Factory.render c.runtimeModule plan) t = (written.mapError .rejected, f, t')) :
    ∃ result w, Generation.ofLoaded platform c loaded t = (.ok result, w) ∧
      result.artifacts = (written.toOption.map (⟨plan.moduleName, ·, plan⟩)).toList := by
  obtain ⟨p, w, w', g, hgather, hopen, rfl, hf, rfl, hmembers, hplan⟩ := h
  have hfiles : w'.files = w.files := by
    have hwithin := ((World.host_orderly loaded.index.provider).provider w.files _).planGroup
      p.config.naming hmembers w ⟨trivial, rfl, rfl⟩
    rw [After, hplan] at hwithin
    exact hwithin.2.1
  rw [← hfiles] at hwrite
  obtain ⟨result, s, hrun, hartifacts⟩ :=
    (Pass.finish_one hopen (by rw [hff, Bool.false_and]) hplan (hf ▸ hwrite)).exists_ok fun _ _ h => h
  refine ⟨result, s.2, ofLoaded_of_run ?_, hartifacts⟩
  rw [Pass.run_work]
  exact (run_bind_ok hgather _).trans hrun

def gatheredInPlace (errors : List (Path × SyntaxFault)) (dir : Path) (t : FileTree) :
    Except Fault Unit × Pass × World Index.Memory :=
  (Pass.gather (World.host inPlaceIndex.provider) errors).run
    (Pass.ofConfig shelfPlatform.codecs { inPlaceConfig with outputDir := dir },
      World.start Index.Memory.empty t)

def inPlaceGroup : Group :=
  (gatheredInPlace [] (Path.ofText "src") inPlaceTree).2.1.registry.groups.headD
    ⟨"", Ordered.empty⟩

def plannedInPlace (w : World Index.Memory) : Except Fault Factory.Plan × World Index.Memory :=
  (Factory.planGroup (World.host inPlaceIndex.provider).provider inPlaceConfig.naming
    inPlaceGroup).run w

theorem ok_of_toOption {ε α : Type} {x : Except ε α} {a : α} (h : x.toOption = some a) :
    x = .ok a := by
  cases x with
  | error e => cases h
  | ok b => exact congrArg Except.ok (Option.some.inj h)

theorem inPlaceGroup_members : inPlaceGroup.members.entries ≠ [] := by decide +kernel

theorem plansOne_inPlace :
    PlansOne shelfPlatform inPlaceConfig ⟨inPlaceIndex, []⟩ inPlaceTree inPlacePlan :=
  have hplan : (plannedInPlace (gatheredInPlace [] (Path.ofText "src") inPlaceTree).2.2).1.toOption =
    some inPlacePlan := by decide +kernel
  ⟨(gatheredInPlace [] (Path.ofText "src") inPlaceTree).2.1, _, _, inPlaceGroup,
    Prod.ext (by rfl) rfl, by rfl, by rfl, by rfl, by rfl, inPlaceGroup_members,
    Prod.ext (ok_of_toOption hplan) rfl⟩

theorem inPlace_generates :
    ∃ result w, fromSources shelfPlatform (.ok inPlaceSettings) (some [Path.ofText "src"])
      inPlaceTree = (.ok result, w) ∧
      result.artifacts = [⟨"a_factory", Path.ofText "src/a_factory.py", inPlacePlan⟩] := by
  obtain ⟨bytes, hbytes⟩ :=
    Filer.encodeAs_utf8 (Factory.render inPlaceConfig.runtimeModule inPlacePlan)
  have hpath : (Filer.make inPlaceConfig.outputDir
      (shelfPlatform.codecs inPlaceConfig.encoding)).pathFor "a_factory" =
        .ok (Path.ofText "src/a_factory.py") := by rfl
  have hwrite := Filer.write_eq (t := inPlaceTree) hpath (by rfl) (by rfl) (by decide) hbytes
    (by rfl)
  rw [fromSources_of_load ofSettings_inPlace prepare_inPlace]
  exact @PlansOne.ofLoaded _ _ _ _ _ plansOne_inPlace (by rfl)
    (.ok (Path.ofText "src/a_factory.py")) _ _ hwrite

/-- Rendered texts begin with a comment. -/
theorem render_start {runtimeModule : String} {plan : Factory.Plan} {bytes : Bytes}
    (h : Filer.encodeAs (shelfPlatform.codecs "utf-8")
      (Factory.render runtimeModule plan) = .ok bytes) :
    bytes.head? = some 35 := by
  have hcodec : shelfPlatform.codecs "utf-8" = .ok Text.Encoding.utf8.toCodec := by rfl
  have hheader : Factory.header.toList = '#' :: Factory.header.toList.tail := by rfl
  have htext : ∃ cs, (Factory.render runtimeModule plan).toList = '#' :: cs := by
    rw [Factory.render, Factory.lines_eq]
    simp only [List.cons_append, Text.join_cons_cons, String.toList_append]
    rw [hheader]
    exact ⟨_, rfl⟩
  obtain ⟨cs, hcs⟩ := htext
  simp only [Filer.encodeAs, hcodec, Text.Encoding.toCodec, Text.Encoding.encode, hcs,
    Text.Encoding.encodeFrom, Text.Encoding.charBytes?] at h
  cases hrest : Text.Encoding.utf8.encodeFrom (0 + 1) cs with
  | error e => simp [hrest, Except.map, Except.mapError] at h
  | ok rest =>
    simp only [hrest, Except.map, Except.mapError, Except.ok.injEq] at h
    rw [← h]
    rfl

theorem notes_beside_sources_kept :
    Config.ofSettings shelfPlatform.coercions inPlaceSettings = .ok inPlaceConfig ∧
    ∃ result w, fromSources shelfPlatform (.ok inPlaceSettings) (some [Path.ofText "src"])
      inPlaceTree = (.ok result, w) ∧ result.artifacts.map (·.module) = ["a_factory"] ∧
      w.files.find? (Path.ofText "src/notes.txt") = some (some []) := by
  obtain ⟨result, w, hrun, hartifacts⟩ := inPlace_generates
  refine ⟨ofSettings_inPlace, result, w, hrun, by rw [hartifacts]; rfl, ?_⟩
  obtain ⟨hwritten, hkept⟩ := file_kept_iff ofSettings_inPlace hrun
  refine (hkept (Path.ofText "src/notes.txt") [] (by rfl)).1.2 fun a ha hl => ?_
  obtain ⟨-, -, bytes, -, hfind⟩ := hwritten a ha
  obtain ⟨place, hplace, -⟩ := FileTree.find?_eq_some_iff.1 hfind
  have hpath : a.path = Path.ofText "src/a_factory.py" := by
    rw [hartifacts] at ha
    rw [List.mem_singleton.1 ha]
  have hdown : ∀ p : Path, (∀ x ∈ p.parts, x ≠ "..") → w.files.locate p = .ok place →
      place = p.parts := fun p hp hl => by simpa using FileTree.walk_down hp hl
  have hsame := (hdown a.path (by rw [hpath]; decide) hplace).symm.trans
    (hdown (Path.ofText "src/notes.txt") (by decide) (hl ▸ hplace))
  rw [hpath] at hsame
  exact absurd hsame (by decide)

/-- A module that declares a group and its member gives way to the factory of the group. -/
theorem sources_overwritten_in_place :
    Config.ofSettings shelfPlatform.coercions inPlaceSettings = .ok inPlaceConfig ∧
    prepare shelfPlatform inPlaceConfig (some [Path.ofText "src"]) inPlaceTree =
      .ok ⟨inPlaceIndex, []⟩ ∧
    inPlaceIndex.markedNames = ["a_factory.A.B"] ∧
    inPlaceTree.find? (Path.ofText "src/a_factory.py") =
      some (some (nestedText.map fun c => c.toNat.toUInt8)) ∧
    ∃ result w, fromSources shelfPlatform (.ok inPlaceSettings) (some [Path.ofText "src"])
      inPlaceTree = (.ok result, w) ∧
      result.artifacts.map (·.plan.group.text) = ["a_factory.A"] ∧
      w.files.find? (Path.ofText "src/a_factory.py") ≠
        some (some (nestedText.map fun c => c.toNat.toUInt8)) := by
  obtain ⟨result, w, hrun, hartifacts⟩ := inPlace_generates
  refine ⟨ofSettings_inPlace, prepare_inPlace, by rfl, by rfl, result, w, hrun,
    by rw [hartifacts]; rfl, ?_⟩
  obtain ⟨loaded, -, hpass⟩ := fromSources_ok ofSettings_inPlace hrun
  obtain ⟨es, f', hchain, hemitted⟩ := ofLoaded_writesOnly hpass
  have hmem : ⟨"a_factory", Path.ofText "src/a_factory.py", inPlacePlan⟩ ∈
      Pass.accepted (Pass.results es) := by
    rw [← hemitted, hartifacts]
    exact List.mem_cons_self
  obtain ⟨e, he, hr⟩ := List.mem_map.1 (Pass.mem_accepted.1 hmem)
  obtain ⟨bytes, hencode, hfind⟩ := hchain.find?_artifact e he _ hr
  rw [hfind]
  intro hsame
  obtain rfl := Option.some.inj (Option.some.inj hsame)
  have hstart := render_start hencode
  exact absurd hstart (by decide)

end Generation

end Foundry
