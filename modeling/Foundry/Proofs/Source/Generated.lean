import Foundry.Proofs.Files.Absence
import Foundry.Proofs.Source.Roots
import Foundry.Proofs.Text.Dotted

/-!
Generated modules are found again under their names. A file is named for the module it was written
for, unless the module is called like a package file, and a search of the output directory finds the
written modules and nothing else. Packages with the name of a directory that the search skips are
left out.
-/

namespace Foundry

open Text

namespace Filer

open FileTree Discovery

variable {f : Filer} {dir p : Path} {m s : String} {ms : List String} {t t' : FileTree}

/-! ### Names of files -/

/-- Where a module lies below an output directory. -/
def fileOf (dir : Path) (m : String) : Path :=
  dir.append ⟨"", partsOf m⟩

theorem pathFor_iff : f.pathFor m = .ok p ↔ Name.isDotted m = true ∧ p = fileOf f.outputDir m := by
  refine ⟨pathFor_ok, ?_⟩
  rintro ⟨hdotted, rfl⟩
  rw [pathFor, if_pos hdotted]
  rfl

theorem isDown_of_isSegment (h : Name.isSegment s = true) : Path.IsDown s := by
  refine ⟨⟨?_, ?_, fun hslash => ?_⟩, segment_ne_up h⟩
  · rintro rfl
    exact absurd h (by decide)
  · rintro rfl
    exact absurd h (by decide)
  · rw [Name.isSegment, Bool.and_eq_true] at h
    exact absurd (Name.mem_isSegmentList h.1 hslash) (by decide)

theorem isDown_source (h : Path.IsDown s) : Path.IsDown (s ++ ".py") := by
  have hlong : 3 ≤ (s ++ ".py").length := by
    rw [String.length_append]
    exact Nat.le_add_left _ _
  refine ⟨⟨?_, ?_, ?_⟩, ?_⟩
  · exact fun heq => absurd (heq ▸ hlong) (by decide)
  · exact fun heq => absurd (heq ▸ hlong) (by decide)
  · rw [String.toList_append, List.mem_append, not_or]
    exact ⟨h.1.slash, by decide⟩
  · exact fun heq => absurd (heq ▸ hlong) (by decide)

theorem isSegment_last (h : Name.isDotted m = true) : Name.isSegment (lastSegment m) = true :=
  List.all_eq_true.1 h _ (lastSegment_mem m)

theorem isSegment_package (h : Name.isDotted m = true) :
    ∀ d ∈ (segments m).dropLast, Name.isSegment d = true :=
  fun d hd => List.all_eq_true.1 h d (List.dropLast_subset _ hd)

theorem isDown_partsOf (h : Name.isDotted m = true) : ∀ q ∈ partsOf m, Path.IsDown q := by
  intro q hq
  rcases List.mem_append.1 hq with hq | hq
  · exact isDown_of_isSegment (isSegment_package h q hq)
  · rw [List.mem_singleton.1 hq]
    exact isDown_source (isDown_of_isSegment (isSegment_last h))

theorem isPart_fileOf (hdir : dir.Proper) (h : Name.isDotted m = true) :
    ∀ q ∈ (fileOf dir m).parts, Path.IsPart q :=
  fun q hq => (List.mem_append.1 hq).elim (hdir.parts q) fun hq => (isDown_partsOf h q hq).1

/-- A file is named for the module it belongs to. -/
theorem moduleName_fileOf (hdir : dir.Proper) (hm : Name.isDotted m = true)
    (hlast : lastSegment m ≠ "__init__") :
    moduleName (fileOf dir m).text dir.text = .ok (some m) := by
  have hne : lastSegment m ≠ "" := ne_empty_of_isDotted hm _ (lastSegment_mem m)
  have hname := moduleName_undotted hdir (isDown_partsOf hm) hne
    (notMem_of_mem_segments (lastSegment_mem m))
    fun d hd => notMem_of_mem_segments (List.dropLast_subset _ hd)
  have hof : moduleOf (segments m).dropLast (lastSegment m) = some m := by
    rw [moduleOf, if_neg hlast, segments_dropLast_concat, dotted_segments]
  exact hname.trans (congrArg _ hof)

theorem isEligible_partsOf :
    isEligible (partsOf m) = true ↔ ∀ d ∈ (segments m).dropLast, d ∉ skippedDirs := by
  have hdrop : (partsOf m).dropLast = (segments m).dropLast := List.dropLast_concat
  rw [isEligible, hdrop, List.all_eq_true]
  refine forall₂_congr fun d hd => ?_
  have hdot : startsWith d "." = false := by
    refine Bool.eq_false_iff.2 fun hstart => ?_
    exact notMem_of_mem_segments (List.dropLast_subset _ hd)
      (mem_of_startsWithList hstart List.mem_cons_self)
  simp [hdot]

/-! ### Files that are written -/

/-- A place below a directory that is named like a source. -/
def SourceBelow (dir : Path) (q : List String) : Prop :=
  ∃ rel, q = reach dir.parts ++ rel ∧ endsWith (rel.getLastD "") ".py" = true

/-- The way to a directory leads past no source below it, which it could with double dots. -/
def PlainWay (dir : Path) : Prop :=
  ∀ taken, taken <+: dir.parts → ¬ SourceBelow dir (reach taken)

/-- No source lies below a directory or on the way there. -/
structure NoSources (dir : Path) (t : FileTree) : Prop where
  proper : t.Proper
  below : ∀ q n, t.at? q = some n → ¬ SourceBelow dir q
  way : PlainWay dir

/-- Nothing is in the way where there is nothing at all. -/
theorem noSources_empty (hdown : ∀ s ∈ dir.parts, s ≠ "..") : NoSources dir FileTree.empty := by
  have hreach : ∀ taken, taken <+: dir.parts → reach taken = taken := fun taken htaken =>
    @reach_append_down [] taken fun s hs => hdown s (htaken.subset hs)
  have hshort : ∀ q, q <+: dir.parts → ¬ SourceBelow dir q := by
    rintro q hq ⟨rel, rfl, hpy⟩
    rw [hreach _ List.prefix_rfl] at hq
    have hlength := hq.length_le
    rw [List.length_append] at hlength
    obtain rfl : rel = [] := List.length_eq_zero_iff.1 (by omega)
    exact absurd hpy (by decide)
  refine ⟨fun _ he => absurd he List.not_mem_nil, fun q n hn => ?_, fun taken htaken => ?_⟩
  · have hroot : q = [] := by
      refine Decidable.of_not_not fun hne => ?_
      exact absurd (mem_entries_of_at? hne hn) List.not_mem_nil
    rw [hroot]
    exact hshort [] List.nil_prefix
  · rw [hreach taken htaken]
    exact hshort taken htaken

/-- Files after any writes into one directory, by one filer or by several, with the modules that
were written. -/
inductive Generates (dir : Path) (t : FileTree) : List String → FileTree → Prop
  | start : Generates dir t [] t
  | written {ms : List String} {u u' : FileTree} {f f' : Filer} {m text : String} {p : Path} :
    Generates dir t ms u → f.outputDir = dir → f.write m text u = (.ok p, f', u') →
    Generates dir t (m :: ms) u'
  | refused {ms : List String} {u u' : FileTree} {f f' : Filer} {m text : String} {e : Fault} :
    Generates dir t ms u → f.outputDir = dir → f.write m text u = (.error e, f', u') →
    Generates dir t ms u'

/-- The files of the modules are there, and no other sources. -/
structure HoldsOnly (dir : Path) (ms : List String) (t : FileTree) : Prop where
  proper : t.Proper
  files : ∀ m ∈ ms, Name.isDotted m = true ∧ t.isFile (fileOf dir m) = true
  only : ∀ rel n, t.at? (reach dir.parts ++ rel) = some n →
    endsWith (rel.getLastD "") ".py" = true → ∃ m ∈ ms, rel = partsOf m

/-- The directories that are made for a file, as far as that goes. -/
def dirsFor (p : Path) (t : FileTree) : FileTree :=
  leftBy (t.makeDirs (p.parts.length + 1) p.parent)

/-- What a write leaves: all as it was, only directories, or the file. -/
inductive Leaves (f : Filer) (m : String) (t : FileTree) : Except Fault Path → FileTree → Prop
  | same {e : Fault} : Leaves f m t (.error e) t
  | dirs {e : Fault} {p : Path} : f.pathFor m = .ok p → Leaves f m t (.error e) (dirsFor p t)
  | file {p : Path} {bytes : Bytes} {t' : FileTree} :
    f.pathFor m = .ok p → (dirsFor p t).writeFile p bytes = .ok t' → Leaves f m t (.ok p) t'

theorem write_leaves (f : Filer) (m text : String) (t : FileTree) :
    Leaves f m t (f.write m text t).1 (f.write m text t).2.2 := by
  unfold write
  cases hp : f.pathFor m with
  | error r => exact .same
  | ok p =>
    dsimp only
    split
    · exact .same
    · rcases place_steps f.codec p text t with ⟨e, hplace, -⟩ | ⟨t', bytes, hplace, -, hw⟩
      · simp only [hplace]
        exact .dirs hp
      · simp only [hplace]
        exact .file hp hw

/-- Directories are made along the path and nowhere else. -/
theorem at?_dirsFor {q : List String} {n : Node} (h : (dirsFor p t).at? q = some n) :
    t.at? q = some n ∨ ∃ taken, taken <+: p.parent.parts ∧ q = reach taken := by
  have hkeeps := makeDirs_keeps
    (P := fun u => ∀ q n, u.at? q = some n →
      t.at? q = some n ∨ ∃ taken, taken <+: p.parent.parts ∧ q = reach taken)
    (Q := fun p' => p'.parts <+: p.parent.parts)
    (fun p' hp' => (List.dropLast_prefix _).trans hp')
    (fun u p' u' hu hp' hmade q n hn => ?_)
    (p.parts.length + 1) List.prefix_rfl (fun _ _ hn => .inl hn)
  · exact hkeeps q n h
  · obtain ⟨place, hl, -, rfl⟩ := makeDir_ok hmade
    by_cases hq : q = place
    · exact .inr ⟨p'.parts, hp', hq.trans (locate_eq_reach hl)⟩
    · rw [at?_put_of_ne u hq] at hn
      exact hu q n hn

/-- A directory on the way to a module is no source. -/
theorem not_sourceBelow (hway : PlainWay dir) (hm : Name.isDotted m = true) {taken : List String}
    (htaken : taken <+: (fileOf dir m).parent.parts) : ¬ SourceBelow dir (reach taken) := by
  have hparts : (fileOf dir m).parent.parts = dir.parts ++ (segments m).dropLast := by
    simp [fileOf, Path.append, Path.parent, partsOf, ← List.append_assoc]
  have hdown : ∀ d ∈ (segments m).dropLast, d ≠ ".." := fun d hd =>
    segment_ne_up (isSegment_package hm d hd)
  rw [hparts] at htaken
  rcases reach_of_prefix hdown htaken with hbefore | ⟨init, d, hd, hreach⟩
  · exact hway taken hbefore
  · rintro ⟨rel, hrel, hpy⟩
    obtain rfl := List.append_cancel_left (hreach.symm.trans hrel)
    rw [List.getLastD_concat, segment_not_source (List.dropLast_subset _ hd)] at hpy
    cases hpy

namespace HoldsOnly

theorem of_noSources (h : NoSources dir t) : HoldsOnly dir [] t :=
  ⟨h.proper, fun _ hm => absurd hm List.not_mem_nil,
    fun rel n hn hpy => absurd ⟨rel, rfl, hpy⟩ (h.below _ n hn)⟩

section

variable (hdir : dir.Proper) (hway : PlainWay dir)

include hdir hway

theorem dirsFor (h : HoldsOnly dir ms t) (hm : Name.isDotted m = true) :
    HoldsOnly dir ms (dirsFor (fileOf dir m) t) := by
  refine ⟨?_, fun m' hm' => ⟨(h.files m' hm').1, ?_⟩, fun rel n hn hpy => ?_⟩
  · exact makeDirs_keeps (Q := fun p => ∀ s ∈ p.parts, Path.IsPart s)
      (fun _ hp s hs => hp s (List.dropLast_subset _ hs))
      (fun _ _ _ ht hp hmade => ht.makeDir hp hmade) _
      (fun s hs => isPart_fileOf hdir hm s (List.dropLast_subset _ hs)) h.proper
  · obtain ⟨bytes, hfind⟩ := isFile_iff.1 (h.files m' hm').2
    exact isFile_iff.2 ⟨bytes, (makeDirs_extends _ _ t).find? hfind⟩
  · rcases at?_dirsFor hn with hold | ⟨taken, htaken, hq⟩
    · exact h.only rel n hold hpy
    · exact absurd ⟨rel, hq.symm, hpy⟩ (not_sourceBelow hway hm htaken)

theorem refused {e : Fault} {f' : Filer} {text : String} (h : HoldsOnly dir ms t)
    (hf : f.outputDir = dir) (hwrite : f.write m text t = (.error e, f', t')) :
    HoldsOnly dir ms t' := by
  have hleaves := write_leaves f m text t
  rw [hwrite] at hleaves
  cases hleaves with
  | same => exact h
  | dirs hp =>
    obtain ⟨hm, rfl⟩ := pathFor_iff.1 hp
    rw [hf]
    exact h.dirsFor hdir hway hm

theorem written {f' : Filer} {text : String} (h : HoldsOnly dir ms t) (hf : f.outputDir = dir)
    (hwrite : f.write m text t = (.ok p, f', t')) : HoldsOnly dir (m :: ms) t' := by
  have hleaves := write_leaves f m text t
  have hwrites := write_writes f m text t
  rw [hwrite] at hleaves hwrites
  cases hleaves with
  | file hp hw =>
    obtain ⟨hm, rfl⟩ := pathFor_iff.1 hp
    subst hf
    have hdirs := h.dirsFor hdir hway hm
    refine ⟨hdirs.proper.writeFile (isPart_fileOf hdir hm) hw, fun m' hm' => ?_,
      fun rel n hn hpy => ?_⟩
    · by_cases hsame : m' = m
      · obtain ⟨bytes, -, hfind⟩ := hwrites.find?_self
        rw [hsame]
        exact ⟨hm, isFile_iff.2 ⟨bytes, hfind⟩⟩
      · obtain ⟨hdotted, hfile⟩ := h.files m' ((List.mem_cons.1 hm').resolve_left hsame)
        obtain ⟨bytes, hfind⟩ := isFile_iff.1 hfile
        have hkept := hwrites.find?_other (pathFor_iff.2 ⟨hdotted, rfl⟩) hsame hfind
        exact ⟨hdotted, isFile_iff.2 ⟨bytes, hkept⟩⟩
    · obtain ⟨place, hl, -, rfl⟩ := writeFile_ok hw
      by_cases hq : reach f.outputDir.parts ++ rel = place
      · have hplace : place = reach f.outputDir.parts ++ partsOf m :=
          (locate_eq_reach hl).trans (reach_append_down (partsOf_ne_up hm))
        exact ⟨m, List.mem_cons_self, List.append_cancel_left (hq.trans hplace)⟩
      · rw [at?_put_of_ne _ hq] at hn
        obtain ⟨m', hm', hrel⟩ := hdirs.only rel n hn hpy
        exact ⟨m', List.mem_cons_of_mem m hm', hrel⟩

end

theorem of_generates (hdir : dir.Proper) (h : NoSources dir t)
    (hgenerates : Generates dir t ms t') : HoldsOnly dir ms t' := by
  induction hgenerates with
  | start => exact .of_noSources h
  | written _ hf hwrite ih => exact ih.written hdir h.way hf hwrite
  | refused _ hf hwrite ih => exact ih.refused hdir h.way hf hwrite

end HoldsOnly

/-! ### What a search finds -/

theorem isDir_of_isFile (h : t.isFile (fileOf dir m) = true) : t.isDir dir = true := by
  obtain ⟨bytes, hfind⟩ := isFile_iff.1 h
  obtain ⟨place, hl, -⟩ := find?_eq_some_iff.1 hfind
  rw [fileOf, append_parts, locate, walk_append] at hl
  cases hbase : t.walk [] dir.parts with
  | error problem =>
    rw [hbase] at hl
    cases hl
  | ok base =>
    rw [hbase] at hl
    refine isDir_iff.2 ⟨base, hbase, ?_⟩
    have hne : partsOf m ≠ [] := by simp [partsOf]
    obtain ⟨part, rest, hparts⟩ := List.exists_cons_of_ne_nil hne
    change t.walk base (partsOf m) = .ok place at hl
    rw [hparts] at hl
    exact (walk_cons_ok.1 hl).1

/-- The file of a module offers the module, unless its package is skipped. -/
theorem HoldsOnly.offers (h : HoldsOnly dir ms t) (hdir : dir.Proper) (hm : m ∈ ms)
    (hlast : lastSegment m ≠ "__init__") (hseen : ∀ d ∈ (segments m).dropLast, d ∉ skippedDirs) :
    Offers t dir (partsOf m) m := by
  obtain ⟨hdotted, hfile⟩ := h.files m hm
  obtain ⟨bytes, hfind⟩ := isFile_iff.1 hfile
  exact {
    dir := isDir_of_isFile hfile
    down := fun hup => partsOf_ne_up hdotted _ hup rfl
    there := Option.isSome_iff_exists.2 ⟨_, hfind⟩
    source := by
      rw [partsOf, List.getLastD_concat]
      exact endsWith_append _ _
    eligible := isEligible_partsOf.2 hseen
    module := moduleName_fileOf hdir hdotted hlast
    dotted := hdotted }

/-- Only the file of a module offers it. -/
theorem HoldsOnly.of_offers (h : HoldsOnly dir ms t) (hdir : dir.Proper)
    (hlast : ∀ m ∈ ms, lastSegment m ≠ "__init__") {rel : List String} (ho : Offers t dir rel m) :
    m ∈ ms ∧ rel = partsOf m ∧ ∀ d ∈ (segments m).dropLast, d ∉ skippedDirs := by
  obtain ⟨n, hn⟩ := Option.isSome_iff_exists.1 ho.there
  obtain ⟨q, hq, hat⟩ := find?_eq_some_iff.1 hn
  have hdown : ∀ p ∈ rel, p ≠ ".." := fun p hp hup => ho.down (hup ▸ hp)
  have hplace : q = reach dir.parts ++ rel :=
    (locate_eq_reach hq).trans (reach_append_down hdown)
  rw [hplace] at hat
  obtain ⟨m', hm', rfl⟩ := h.only rel n hat ho.source
  have hname := moduleName_fileOf hdir (h.files m' hm').1 (hlast m' hm')
  have hsame : some m' = some m := Except.ok.inj (hname.symm.trans ho.module)
  obtain rfl := Option.some.inj hsame
  exact ⟨hm', rfl, isEligible_partsOf.1 ho.eligible⟩

theorem HoldsOnly.mem_found_iff (h : HoldsOnly dir ms t) (hdir : dir.Proper)
    (hlast : ∀ m ∈ ms, lastSegment m ≠ "__init__") :
    (m, p) ∈ (findSources t [dir]).modules ↔
      m ∈ ms ∧ p = fileOf dir m ∧ ∀ d ∈ (segments m).dropLast, d ∉ skippedDirs := by
  have hcandidates : candidates t [dir] = candidatesUnder t dir := List.flatMap_singleton _ _
  have hfound : ∀ e ∈ sources t [dir],
      e.name ∈ ms ∧ e.path = fileOf dir e.name ∧
        ∀ d ∈ (segments e.name).dropLast, d ∉ skippedDirs := by
    intro e he
    obtain ⟨pre, post, hsplit, -⟩ := (fresh_of_mem_foldl he).resolve_left List.not_mem_nil
    have hmem : e ∈ candidatesUnder t dir := by
      rw [← hcandidates, hsplit]
      exact List.mem_append_right _ List.mem_cons_self
    obtain ⟨rel, hpath, -, ho⟩ := offers_of_mem h.proper hmem
    obtain ⟨hms, rfl, hseen⟩ := h.of_offers hdir hlast ho
    exact ⟨hms, hpath, hseen⟩
  rw [findSources_modules, List.mem_map]
  constructor
  · rintro ⟨e, he, heq⟩
    cases heq
    exact hfound e he
  · rintro ⟨hm, rfl, hseen⟩
    obtain ⟨e, he, hname, -⟩ := mem_of_offers (h.offers hdir hm (hlast m hm) hseen)
    have hmem : e ∈ [] ++ candidates t [dir] := by rwa [hcandidates]
    obtain ⟨e', he', hname'⟩ := exists_mem_foldl hmem
    have hsame : e'.name = m := hname'.trans hname
    refine ⟨e', he', ?_⟩
    rw [Candidate.entry, (hfound e' he').2.1, hsame]

/-- A module whose name is not that of a package file is read off its file again, and no two modules
share a file. Where modules were written into a directory without sources, a search of the directory
finds each of them under its name, but for those in packages with the name of a directory that is
skipped, and it finds nothing else. -/
theorem generated_modules_found (f : Filer) (hdir : f.outputDir.Proper) :
    (∀ m p, f.pathFor m = .ok p → lastSegment m ≠ "__init__" →
      moduleName p.text f.outputDir.text = .ok (some m)) ∧
    (∀ m m' p, f.pathFor m = .ok p → f.pathFor m' = .ok p → m = m') ∧
    ∀ t ms t', NoSources f.outputDir t → Generates f.outputDir t ms t' →
      (∀ m ∈ ms, lastSegment m ≠ "__init__") → ∀ m p,
        ((m, p) ∈ (findSources t' [f.outputDir]).modules ↔
          m ∈ ms ∧ f.pathFor m = .ok p ∧ ∀ d ∈ (segments m).dropLast, d ∉ skippedDirs) := by
  refine ⟨fun m p hp hlast => ?_, fun m m' p hp hp' => pathFor_injective hp hp',
    fun t ms t' ht hgenerates hlast m p => ?_⟩
  · obtain ⟨hdotted, rfl⟩ := pathFor_iff.1 hp
    exact moduleName_fileOf hdir hdotted hlast
  · have hholds := HoldsOnly.of_generates hdir ht hgenerates
    rw [hholds.mem_found_iff hdir hlast, pathFor_iff]
    exact and_congr_right fun hm =>
      ⟨fun h => ⟨⟨(hholds.files m hm).1, h.1⟩, h.2⟩, fun h => ⟨h.1.2, h.2⟩⟩

theorem Generates.write {u : FileTree} (h : Generates f.outputDir t ms u) (m text : String)
    (hok : (f.write m text u).1 = .ok p) :
    Generates f.outputDir t (m :: ms) (f.write m text u).2.2 :=
  .written h rfl (Prod.ext hok rfl)

def outFiler : Filer :=
  make ⟨"", ["out"]⟩ (Text.Encoding.codecs "utf-8")

/-- The files after a module of a package was written. -/
def shopTree : FileTree :=
  ((FileTree.empty.put ["out"] none).put ["out", "shop"] none).put
    ["out", "shop", "drink_factory.py"] (some [])

/-- Of two modules written in one pass, one belongs to a package that is skipped. -/
theorem generated_drinks_found :
    outFiler.outputDir.Proper ∧ ∃ t',
      NoSources outFiler.outputDir FileTree.empty ∧
      Generates outFiler.outputDir FileTree.empty ["venv.drink_factory", "shop.drink_factory"] t' ∧
      moduleName "out/shop/drink_factory.py" "out" = .ok (some "shop.drink_factory") ∧
      ("shop.drink_factory", ⟨"", ["out", "shop", "drink_factory.py"]⟩) ∈
        (findSources t' [outFiler.outputDir]).modules ∧
      ∀ p, ("venv.drink_factory", p) ∉ (findSources t' [outFiler.outputDir]).modules := by
  have hdir : outFiler.outputDir.Proper := Path.proper_ofText "out"
  have hempty : NoSources outFiler.outputDir FileTree.empty := noSources_empty (by decide)
  have hshop : Generates outFiler.outputDir FileTree.empty ["shop.drink_factory"] shopTree :=
    Generates.start.write (f := outFiler) (p := ⟨"", ["out", "shop", "drink_factory.py"]⟩)
      "shop.drink_factory" "" (by rfl)
  have hboth := hshop.write "venv.drink_factory" "" (p := ⟨"", ["out", "venv", "drink_factory.py"]⟩)
    (by rfl)
  obtain ⟨hname, -, hfound⟩ := generated_modules_found outFiler hdir
  have hiff := hfound _ _ _ hempty hboth (by decide)
  refine ⟨hdir, _, hempty, hboth, ?_, ?_, fun p hp => ?_⟩
  · exact hname "shop.drink_factory" ⟨"", ["out", "shop", "drink_factory.py"]⟩ (by rfl) (by decide)
  · exact (hiff _ _).2 ⟨by simp, by rfl, by decide⟩
  · exact absurd ((hiff _ _).1 hp).2.2 (by decide)

/-- A module of a skipped package is in the tree and is not found. -/
theorem skipped_package_not_found :
    ∃ t', NoSources outFiler.outputDir FileTree.empty ∧
      Generates outFiler.outputDir FileTree.empty ["venv.drink_factory"] t' ∧
      lastSegment "venv.drink_factory" ≠ "__init__" ∧
      t'.isFile ⟨"", ["out", "venv", "drink_factory.py"]⟩ = true ∧
      (findSources t' [outFiler.outputDir]).modules = [] := by
  have hdir : outFiler.outputDir.Proper := Path.proper_ofText "out"
  have hempty : NoSources outFiler.outputDir FileTree.empty := noSources_empty (by decide)
  have hwritten := Generates.start.write (f := outFiler) (t := FileTree.empty)
    (p := ⟨"", ["out", "venv", "drink_factory.py"]⟩) "venv.drink_factory" "" (by rfl)
  have hholds := HoldsOnly.of_generates hdir hempty hwritten
  have hfile := (hholds.files "venv.drink_factory" List.mem_cons_self).2
  refine ⟨_, hempty, hwritten, by decide, hfile, ?_⟩
  refine List.eq_nil_iff_forall_not_mem.2 fun ⟨m, p⟩ hmem => ?_
  obtain ⟨hm, -, hseen⟩ := (hholds.mem_found_iff hdir (by decide)).1 hmem
  obtain rfl := List.mem_singleton.1 hm
  exact absurd hseen (by decide)

end Filer

end Foundry
