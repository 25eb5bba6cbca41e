import Foundry.Proofs.Pass.Apart
import Foundry.Proofs.Source.Candidates
import Foundry.Proofs.Source.Keeping

/-!
Source files that do not parse: generation over a tree that has them and over one that lacks them
differ in the reports on these files only.
-/

namespace Foundry

open Query Text

namespace Source

open Discovery FileTree

variable {wording : Wording} {t : FileTree} {codec : Except NoCodec Codec}

/-- The text of a file that can be read and decoded. -/
def textAt? (t : FileTree) (codec : Except NoCodec Codec) (place : List String) :
    Option (List Char) :=
  match t.at? place, codec with
  | some (some bytes), .ok k => (k.decode bytes).toOption.map fun s => unifyLineEnds s.toList
  | _, _ => none

/-- What the parser says about a text that does not parse. -/
def refusal? (wording : Wording) (cs : List Char) : Option SyntaxFault :=
  match parseText wording cs with
  | .error e => some e
  | .ok _ => none

/-- What the parser says about a file that can be read but does not parse. -/
def brokenAt? (wording : Wording) (t : FileTree) (codec : Except NoCodec Codec)
    (place : List String) : Option SyntaxFault :=
  (textAt? t codec place).bind (refusal? wording)

/-- A file is set aside with what the parser says about it. -/
def aside? (wording : Wording) (t : FileTree) (codec : Except NoCodec Codec) (e : Candidate) :
    Option (Path × SyntaxFault) :=
  (brokenAt? wording t codec e.place).map fun fault => (e.path, fault)

theorem read_of_locate {place : List String} {p : Path} (hl : t.locate p = .ok place) :
    t.read p = match t.at? place with
      | none => .error ⟨.missing, p.text, none⟩
      | some none => .error ⟨.isDirectory, p.text, none⟩
      | some (some bytes) => .ok bytes := by
  rcases hn : t.at? place with _ | _ | _ <;> simp [FileTree.read, hl, hn]

theorem readSource_toOption {place : List String} {p : Path} (hl : t.locate p = .ok place) :
    (readSource t codec p).toOption = textAt? t codec place := by
  unfold readSource textAt?
  rw [read_of_locate hl]
  rcases t.at? place with _ | _ | bytes
  · cases codec <;> rfl
  · cases codec <;> rfl
  · cases codec with
    | error missing => rfl
    | ok k =>
      dsimp only
      cases k.decode bytes <;> rfl

theorem textAt?_isFile {place : List String} {cs : List Char}
    (h : textAt? t codec place = some cs) : ∃ bytes, t.at? place = some (some bytes) := by
  unfold textAt? at h
  split at h
  · exact ⟨_, ‹_›⟩
  · cases h

/-- What reading and parsing one file comes to: what the parser says about it, or statements. -/
def loadsAs (wording : Wording) (t : FileTree) (codec : Except NoCodec Codec) (p : Path) :
    Except Fault (Except SyntaxFault (List Stmt)) :=
  (readSource t codec p).map (parseText wording)

theorem loadsAs_of_read {p : Path} {cs : List Char} (hread : readSource t codec p = .ok cs) :
    loadsAs wording t codec p = .ok (parseText wording cs) := by
  rw [loadsAs, hread]
  rfl

theorem loadFiles_cons (name : String) (p : Path) (rest : List (String × Path))
    (modules : List Module) (errors : List (Path × SyntaxFault)) :
    loadFiles wording t codec ((name, p) :: rest) modules errors =
      match loadsAs wording t codec p with
      | .error f => .error f
      | .ok (.error e) => loadFiles wording t codec rest modules (errors ++ [(p, e)])
      | .ok (.ok body) =>
        loadFiles wording t codec rest (modules ++ [Module.make name p body]) errors := by
  rw [loadFiles, loadsAs]
  cases readSource t codec p with
  | error f => rfl
  | ok cs =>
    dsimp only [Except.map]
    cases parseText wording cs <;> rfl

theorem aside?_eq {e : Candidate} (hl : t.locate e.path = .ok e.place) :
    aside? wording t codec e = match loadsAs wording t codec e.path with
      | .ok (.error fault) => some (e.path, fault)
      | _ => none := by
  rw [aside?, brokenAt?, ← readSource_toOption hl, loadsAs]
  cases readSource t codec e.path with
  | error f => rfl
  | ok cs =>
    simp only [Except.toOption, Except.map, Option.bind_some, refusal?]
    cases parseText wording cs <;> rfl

/-- Files that are set aside leave nothing but their reports: the others are loaded as they are
without them. -/
theorem loadFiles_without (t' : FileTree) (gone : List (List String)) (files : List Candidate)
    (hkept : ∀ e ∈ files, e.place ∉ gone →
      readSource t' codec e.path = readSource t codec e.path)
    (hlocate : ∀ e ∈ files, t.locate e.path = .ok e.place)
    (hgone : ∀ e ∈ files, e.place ∈ gone → (aside? wording t codec e).isSome)
    (modules : List Module) (errors errors' : List (Path × SyntaxFault)) :
    (∃ f, loadFiles wording t codec (files.map Candidate.entry) modules errors = .error f ∧
      loadFiles wording t' codec
        ((files.filter fun e => e.place ∉ gone).map Candidate.entry) modules errors' = .error f) ∨
    ∃ loaded, loadFiles wording t codec (files.map Candidate.entry) modules errors =
        .ok (loaded, errors ++ files.filterMap (aside? wording t codec)) ∧
      loadFiles wording t' codec
        ((files.filter fun e => e.place ∉ gone).map Candidate.entry) modules errors' =
          .ok (loaded, errors' ++
            (files.filter fun e => e.place ∉ gone).filterMap (aside? wording t codec)) := by
  induction files generalizing modules errors errors' with
  | nil => exact .inr ⟨modules, by simp [loadFiles], by simp [loadFiles]⟩
  | cons e files ih =>
    obtain ⟨hkept₁, hkept⟩ := List.forall_mem_cons.1 hkept
    obtain ⟨hlocate₁, hlocate⟩ := List.forall_mem_cons.1 hlocate
    obtain ⟨hgone₁, hgone⟩ := List.forall_mem_cons.1 hgone
    have hrest := ih hkept hlocate hgone
    have haside : aside? wording t codec e = _ := aside?_eq hlocate₁
    rw [List.map_cons, Candidate.entry, loadFiles_cons]
    by_cases hg : e.place ∈ gone
    · have hdrop : (e :: files).filter (fun e => e.place ∉ gone) =
          files.filter fun e => e.place ∉ gone := by simp [hg]
      have hsome := hgone₁ hg
      rw [haside] at hsome
      rcases hout : loadsAs wording t codec e.path with f | fault | body
      · simp [hout] at hsome
      · rw [hout] at haside
        rw [hdrop, List.filterMap_cons_some haside]
        simpa using hrest modules (errors ++ [(e.path, fault)]) errors'
      · simp [hout] at hsome
    · have hkeep : (e :: files).filter (fun e => e.place ∉ gone) =
          e :: files.filter fun e => e.place ∉ gone := by simp [hg]
      have hsame : loadsAs wording t' codec e.path = loadsAs wording t codec e.path := by
        rw [loadsAs, loadsAs, hkept₁ hg]
      rw [hkeep, List.map_cons, Candidate.entry, loadFiles_cons, hsame]
      rcases hout : loadsAs wording t codec e.path with f | fault | body
      · exact .inl ⟨f, rfl, rfl⟩
      · rw [hout] at haside
        rw [List.filterMap_cons_some haside, List.filterMap_cons_some haside]
        simpa using hrest modules (errors ++ [(e.path, fault)]) (errors' ++ [(e.path, fault)])
      · rw [hout] at haside
        rw [List.filterMap_cons_none haside, List.filterMap_cons_none haside]
        exact hrest (modules ++ [Module.make e.name e.path body]) errors errors'

end Source

namespace Generation

open Source Discovery FileTree

variable {platform : Platform} {s : Settings} {c : Config} {roots : Option (List Path)}
  {t : FileTree} {gone : List (List String)}

/-- Some source files do not parse; no two source files hold the same module, and none of these lies
where modules are written or above it. -/
structure Unparsed (platform : Platform) (c : Config) (roots : List Path) (t : FileTree)
    (gone : List (List String)) : Prop where
  names : t.WellNamed
  distinct : OneFileEach t roots
  sources : ∀ q ∈ gone, ∃ e ∈ candidates t roots, e.place = q
  broken : ∀ q ∈ gone, (brokenAt? platform.wording t (platform.codecs c.encoding) q).isSome
  clear : Clear gone c.outputDir.parts

theorem Unparsed.allFiles {roots : List Path} (h : Unparsed platform c roots t gone) :
    t.AllFiles gone := by
  intro q hq
  obtain ⟨fault, hfault⟩ := Option.isSome_iff_exists.1 (h.broken q hq)
  obtain ⟨cs, hcs, -⟩ := Option.bind_eq_some_iff.1 hfault
  exact textAt?_isFile hcs

theorem Unparsed.sourceNamed {roots : List Path} (h : Unparsed platform c roots t gone) :
    SourceNamed gone := by
  intro q hq
  obtain ⟨e, he, rfl⟩ := h.sources q hq
  exact (locate_candidate h.names he).2

theorem Unparsed.readSource_eq {roots : List Path} (h : Unparsed platform c roots t gone)
    {e : Candidate} (he : e ∈ candidates t roots) (hkept : e.place ∉ gone) :
    readSource (t.without gone) (platform.codecs c.encoding) e.path =
      readSource t (platform.codecs c.encoding) e.path := by
  have hl := (locate_candidate h.names he).1
  have he' : e ∈ candidates (t.without gone) roots := by
    rw [candidates_without h.allFiles, List.mem_filter]
    exact ⟨he, by simpa using hkept⟩
  have hl' := (locate_candidate (h.names.without gone) he').1
  have hread : (t.without gone).read e.path = t.read e.path := by
    rw [read_of_locate hl, read_of_locate hl', (lacks_without t h.allFiles).at?_eq hkept]
  unfold readSource
  rw [hread]

theorem Unparsed.writeAlike {roots : List Path} (h : Unparsed platform c roots t gone) :
    Filer.WriteAlike (fun f => f.outputDir = c.outputDir) (Lacks t gone) := by
  intro f module text u u' hdir hu
  obtain ⟨hresult, hfiler, hfiles⟩ :=
    Filer.write_beside h.allFiles h.sourceNamed (f := f) (hdir ▸ h.clear) hu module text
  exact ⟨hresult, hfiler, (Filer.outputDir_write f module text u).trans hdir, hfiles⟩

/-- The sources are loaded as they are without the files that do not parse. -/
theorem prepare_without (h : Unparsed platform c (roots.getD c.sourceRoots) t gone) :
    (∃ f, prepare platform c roots t = .error f ∧
      prepare platform c roots (t.without gone) = .error f) ∨
    ∃ x, prepare platform c roots t =
        .ok ⟨x, (Discovery.sources t (roots.getD c.sourceRoots)).filterMap
          (aside? platform.wording t (platform.codecs c.encoding))⟩ ∧
      prepare platform c roots (t.without gone) =
        .ok ⟨x, ((Discovery.sources t (roots.getD c.sourceRoots)).filter fun e =>
          e.place ∉ gone).filterMap (aside? platform.wording t (platform.codecs c.encoding))⟩ := by
  have hloaded := loadFiles_without (t.without gone) gone
    (Discovery.sources t (roots.getD c.sourceRoots))
    (fun e he hkept => h.readSource_eq (mem_of_mem_sources he) hkept)
    (fun e he => (locate_candidate h.names (mem_of_mem_sources he)).1)
    (fun e he hgone => by simpa [aside?] using h.broken e.place hgone) [] [] []
  unfold prepare load
  rw [findSources_modules, findSources_modules, sources_without h.allFiles h.distinct]
  rcases hloaded with ⟨f, hfull, hrest⟩ | ⟨loaded, hfull, hrest⟩
  · exact .inl ⟨f, by rw [hfull], by rw [hrest]⟩
  · rw [hfull, hrest]
    dsimp only
    cases Index.make loaded c.annotationNames with
    | error f => exact .inl ⟨f, rfl, rfl⟩
    | ok x => exact .inr ⟨x, rfl, rfl⟩

/-- The report on a file that was set aside: the words of the parser, and its line if it has one. -/
def asideReport (e : Path × SyntaxFault) : Diagnostic :=
  let line := match e.2.line with
    | some n => toString n
    | none => "None"
  ⟨.error, s!"Cannot parse {e.1.text}: {e.2.message} (line {line})", none, some "ProcessingError"⟩

theorem told_eq (aside : List (Path × SyntaxFault)) : Pass.told aside = aside.map asideReport := by
  refine List.map_congr_left fun e _ => ?_
  unfold asideReport unparsed
  cases e.2.line <;> rfl

open Source.Index

def badText : List Char := ")\n".toList

/-- A parser with its words for that text. -/
def besidePlatform : Platform :=
  .usual fun _ => "unmatched ')'"

def badFault : SyntaxFault := ⟨"unmatched ')'", some 1⟩

def nullFault : SyntaxFault := ⟨"source code string cannot contain null bytes", none⟩

set_option maxRecDepth 4000 in
theorem parse_badText : parse badText = .error 1 := by cbv

theorem parseText_badText : parseText besidePlatform.wording badText = .error badFault := by
  have hplain : badText.contains (Char.ofNat 0) = false := by decide
  rw [parseText, hplain, parse_badText]
  rfl

theorem parseText_nestedText : parseText besidePlatform.wording nestedText = .ok nestedBody :=
  parseText_of_parse (by decide) parse_nestedText

theorem loadsAs_badText {p : Path}
    (hread : readSource t (besidePlatform.codecs "utf-8") p = .ok badText) :
    loadsAs besidePlatform.wording t (besidePlatform.codecs "utf-8") p = .ok (.error badFault) := by
  rw [loadsAs_of_read hread, parseText_badText]

theorem loadsAs_nestedText {p : Path}
    (hread : readSource t (besidePlatform.codecs "utf-8") p = .ok nestedText) :
    loadsAs besidePlatform.wording t (besidePlatform.codecs "utf-8") p = .ok (.ok nestedBody) := by
  rw [loadsAs_of_read hread, parseText_nestedText]

theorem brokenAt?_of_badText {place : List String}
    (htext : textAt? t (besidePlatform.codecs "utf-8") place = some badText) :
    brokenAt? besidePlatform.wording t (besidePlatform.codecs "utf-8") place = some badFault := by
  rw [brokenAt?, htext, Option.bind_some, refusal?, parseText_badText]

/-- A module with a group under one root, and perhaps files under others. -/
def besideTree (beside : List (String × Bytes)) : FileTree :=
  FileTree.ofFiles
    (("src/a_factory.py", nestedText.map fun c => c.toNat.toUInt8) :: ("lib/", []) ::
      ("ext/", []) :: beside)

def badBytes : Bytes := badText.map fun c => c.toNat.toUInt8

def besideRoots : List Path := [Path.ofText "src", Path.ofText "lib", Path.ofText "ext"]

def besideSettings : Settings :=
  Settings.ofLayers [Ordered.ofList
    [("OUTPUT_DIR", .text "lib/out.py"), ("ANNOTATION_NAMES", .tuple [.text "f"])]]

def besideConfig : Config :=
  { inPlaceConfig with outputDir := Path.ofText "lib/out.py" }

theorem ofSettings_beside :
    Config.ofSettings besidePlatform.coercions besideSettings = .ok besideConfig := by rfl

/-- Beside the group lie a file that does not parse and one with a null character. -/
def badTree : FileTree := besideTree [("lib/bad.py", badBytes), ("ext/null.py", [0])]

def badPlaces : List (List String) := [["lib", "bad.py"], ["ext", "null.py"]]

/-- A file that does not parse lies where the factory is to be written. -/
def blockedTree : FileTree := besideTree [("lib/out.py", badBytes)]

/-- A file that two roots find. -/
def nestedTree : FileTree := FileTree.ofFiles [("src/pkg/bad.py", badBytes)]

def nestedRoots : List Path := [Path.ofText "src", Path.ofText "src/pkg"]

theorem found_beside :
    (findSources (besideTree []) besideRoots).modules =
      [("a_factory", Path.ofText "src/a_factory.py")] ∧
    (findSources blockedTree besideRoots).modules =
      [("a_factory", Path.ofText "src/a_factory.py"), ("out", Path.ofText "lib/out.py")] ∧
    (findSources nestedTree nestedRoots).modules =
      [("pkg.bad", Path.ofText "src/pkg/bad.py"), ("bad", Path.ofText "src/pkg/bad.py")] ∧
    Discovery.sources badTree besideRoots =
      [⟨"a_factory", Path.ofText "src/a_factory.py", ["src", "a_factory.py"]⟩,
        ⟨"bad", Path.ofText "lib/bad.py", ["lib", "bad.py"]⟩,
        ⟨"null", Path.ofText "ext/null.py", ["ext", "null.py"]⟩] := by decide +kernel

def gatheredBlocked : Except Fault Unit × Pass × World Index.Memory :=
  gatheredInPlace [(Path.ofText "lib/out.py", badFault)] besideConfig.outputDir blockedTree

theorem planned_beside :
    (plannedInPlace (gatheredInPlace [] besideConfig.outputDir (besideTree [])).2.2).1.toOption =
      some inPlacePlan ∧
    (plannedInPlace gatheredBlocked.2.2).1.toOption = some inPlacePlan := by decide +kernel

theorem badTree_without : badTree.without badPlaces = besideTree [] := by rfl

theorem blockedTree_without : blockedTree.without [["lib", "out.py"]] = besideTree [] := by rfl

theorem prepare_beside :
    prepare besidePlatform besideConfig (some besideRoots) (besideTree []) =
      .ok ⟨inPlaceIndex, []⟩ := by
  have hsource : loadsAs besidePlatform.wording (besideTree []) (besidePlatform.codecs "utf-8")
      (Path.ofText "src/a_factory.py") = .ok (.ok nestedBody) := loadsAs_nestedText (by rfl)
  have hfiles : loadFiles besidePlatform.wording (besideTree []) (besidePlatform.codecs "utf-8")
      (findSources (besideTree []) besideRoots).modules [] [] = .ok ([inPlaceModule], []) := by
    simp only [found_beside.1, loadFiles_cons, hsource]
    rfl
  exact prepare_of_files hfiles make_inPlace

theorem plansOne_beside :
    PlansOne besidePlatform besideConfig ⟨inPlaceIndex, []⟩ (besideTree []) inPlacePlan :=
  ⟨(gatheredInPlace [] besideConfig.outputDir (besideTree [])).2.1, _, _, inPlaceGroup,
    Prod.ext (by rfl) rfl, by rfl, by rfl, by rfl, by rfl, inPlaceGroup_members,
    Prod.ext (ok_of_toOption planned_beside.1) rfl⟩

theorem beside_generates :
    ∃ r, (fromSources besidePlatform (.ok besideSettings) (some besideRoots)
        (besideTree [])).1 = .ok r ∧
      r.artifacts = [⟨"a_factory", Path.ofText "lib/out.py/a_factory.py", inPlacePlan⟩] := by
  obtain ⟨bytes, hbytes⟩ :=
    Filer.encodeAs_utf8 (Factory.render inPlaceConfig.runtimeModule inPlacePlan)
  have hpath : (Filer.make besideConfig.outputDir
      (besidePlatform.codecs besideConfig.encoding)).pathFor "a_factory" =
        .ok (Path.ofText "lib/out.py/a_factory.py") := by rfl
  have hwrite := Filer.write_eq (t := besideTree []) hpath (by rfl) (by rfl) (by decide) hbytes
    (by rfl)
  obtain ⟨r, w, hrun, hartifacts⟩ := @PlansOne.ofLoaded _ _ _ _ _ plansOne_beside rfl
    (.ok (Path.ofText "lib/out.py/a_factory.py")) _ _ hwrite
  rw [fromSources_of_load ofSettings_beside prepare_beside, hrun]
  exact ⟨r, rfl, hartifacts⟩

theorem brokenAt?_badTree :
    brokenAt? besidePlatform.wording badTree (besidePlatform.codecs "utf-8") ["lib", "bad.py"] =
      some badFault ∧
    brokenAt? besidePlatform.wording badTree (besidePlatform.codecs "utf-8") ["ext", "null.py"] =
      some nullFault :=
  ⟨brokenAt?_of_badText (by rfl), by rfl⟩

theorem aside_badTree :
    (Discovery.sources badTree besideRoots).filterMap
        (aside? besidePlatform.wording badTree (besidePlatform.codecs "utf-8")) =
      [(Path.ofText "lib/bad.py", badFault), (Path.ofText "ext/null.py", nullFault)] ∧
    ((Discovery.sources badTree besideRoots).filter fun e => e.place ∉ badPlaces).filterMap
      (aside? besidePlatform.wording badTree (besidePlatform.codecs "utf-8")) = [] := by
  have htext : textAt? badTree (besidePlatform.codecs "utf-8") ["src", "a_factory.py"] =
      some nestedText := by rfl
  have hgroup : aside? besidePlatform.wording badTree (besidePlatform.codecs "utf-8")
      ⟨"a_factory", Path.ofText "src/a_factory.py", ["src", "a_factory.py"]⟩ = none := by
    rw [aside?, brokenAt?, htext, Option.bind_some, refusal?, parseText_nestedText]
    rfl
  have hbad : aside? besidePlatform.wording badTree (besidePlatform.codecs "utf-8")
      ⟨"bad", Path.ofText "lib/bad.py", ["lib", "bad.py"]⟩ =
        some (Path.ofText "lib/bad.py", badFault) := by
    rw [aside?, brokenAt?_badTree.1]
    rfl
  have hnull : aside? besidePlatform.wording badTree (besidePlatform.codecs "utf-8")
      ⟨"null", Path.ofText "ext/null.py", ["ext", "null.py"]⟩ =
        some (Path.ofText "ext/null.py", nullFault) := by
    rw [aside?, brokenAt?_badTree.2]
    rfl
  rw [found_beside.2.2.2]
  constructor
  · rw [List.filterMap_cons_none hgroup, List.filterMap_cons_some hbad,
      List.filterMap_cons_some hnull]
    rfl
  · exact List.filterMap_cons_none hgroup

theorem prepare_blocked : prepare besidePlatform besideConfig (some besideRoots) blockedTree =
    .ok ⟨inPlaceIndex, [(Path.ofText "lib/out.py", badFault)]⟩ := by
  have hsource : loadsAs besidePlatform.wording blockedTree (besidePlatform.codecs "utf-8")
      (Path.ofText "src/a_factory.py") = .ok (.ok nestedBody) := loadsAs_nestedText (by rfl)
  have hbad : loadsAs besidePlatform.wording blockedTree (besidePlatform.codecs "utf-8")
      (Path.ofText "lib/out.py") = .ok (.error badFault) := loadsAs_badText (by rfl)
  have hfiles : loadFiles besidePlatform.wording blockedTree (besidePlatform.codecs "utf-8")
      (findSources blockedTree besideRoots).modules [] [] =
        .ok ([inPlaceModule], [(Path.ofText "lib/out.py", badFault)]) := by
    simp only [found_beside.2.1, loadFiles_cons, hsource, hbad]
    rfl
  exact prepare_of_files hfiles make_inPlace

theorem gatheredBlocked_ok :
    gatheredBlocked.1 = .ok () ∧ gatheredBlocked.2.2.files = blockedTree :=
  ⟨by rfl, by rfl⟩

theorem gatheredBlocked_opens :
    gatheredBlocked.2.1.registry.beginEmission = .ok ⟨[inPlaceGroup], .emitting⟩ := by rfl

theorem plansOne_blocked :
    PlansOne besidePlatform besideConfig
      ⟨inPlaceIndex, [(Path.ofText "lib/out.py", badFault)]⟩ blockedTree inPlacePlan :=
  ⟨gatheredBlocked.2.1, gatheredBlocked.2.2, (plannedInPlace gatheredBlocked.2.2).2, inPlaceGroup,
    Prod.ext gatheredBlocked_ok.1 rfl, gatheredBlocked_opens, by rfl, by rfl, gatheredBlocked_ok.2,
    inPlaceGroup_members, Prod.ext (ok_of_toOption planned_beside.2) rfl⟩

theorem blocked_generates :
    ∃ r, (fromSources besidePlatform (.ok besideSettings) (some besideRoots) blockedTree).1 =
        .ok r ∧
      r.artifacts = [] := by
  have hwrite : (Filer.make besideConfig.outputDir
      (besidePlatform.codecs besideConfig.encoding)).write "a_factory"
        (Factory.render besideConfig.runtimeModule inPlacePlan) blockedTree =
      ((Except.error (.notWritten (Path.ofText "lib/out.py/a_factory.py")
        (FileFault.message ⟨.exists, "lib/out.py", none⟩))).mapError .rejected,
        Filer.make besideConfig.outputDir (besidePlatform.codecs besideConfig.encoding),
        blockedTree) := by rfl
  obtain ⟨r, w, hrun, hartifacts⟩ := plansOne_blocked.ofLoaded rfl hwrite
  rw [fromSources_of_load ofSettings_beside prepare_blocked, hrun]
  exact ⟨r, rfl, hartifacts⟩

def noIndex : Index := ⟨Ordered.empty, Ordered.empty, Config.standard.annotationNames⟩

theorem prepare_nested :
    prepare besidePlatform Config.standard (some nestedRoots) nestedTree =
      .ok ⟨noIndex, List.replicate 2 (Path.ofText "src/pkg/bad.py", badFault)⟩ := by
  have hbad : loadsAs besidePlatform.wording nestedTree (besidePlatform.codecs "utf-8")
      (Path.ofText "src/pkg/bad.py") = .ok (.error badFault) := loadsAs_badText (by rfl)
  have hfiles : loadFiles besidePlatform.wording nestedTree (besidePlatform.codecs "utf-8")
      (findSources nestedTree nestedRoots).modules [] [] =
        .ok ([], List.replicate 2 (Path.ofText "src/pkg/bad.py", badFault)) := by
    simp only [found_beside.2.2.1, loadFiles_cons, hbad]
    rfl
  exact prepare_of_files hfiles (by rfl)

theorem fromSources_of_none {roots : List Path} (hnone : (findSources t roots).modules = []) :
    (fromSources besidePlatform (.ok (Settings.ofLayers [])) (some roots) t).1 = .ok ⟨[], []⟩ := by
  have hfiles : loadFiles besidePlatform.wording t
      (besidePlatform.codecs Config.standard.encoding)
      (findSources t ((some roots).getD Config.standard.sourceRoots)).modules [] [] =
        .ok ([], []) := by
    rw [Option.getD_some, hnone]
    rfl
  rw [fromSources_of_load (c := Config.standard) (by rfl)
    (prepare_of_files (x := noIndex) hfiles (by rfl))]
  rfl

end Generation

end Foundry
