import Foundry.Proofs.Source.Candidates
import Foundry.Proofs.Source.ModuleNames

/-!
What a search of the roots finds. Every name is found once, at the first place that offers it: under
the first root that does, and within the root at the place that comes first. Such a place is a file
where the module of that name belongs exactly when it is no directory and its names hold no dot
besides the one of the extension.
-/

namespace Foundry

open Text

namespace Discovery

open FileTree

variable {t : FileTree} {root : Path} {roots : List Path} {place rel : List String} {name : String}

/-- A place below a root that offers a module: something with the extension, in no hidden and in no
skipped directory, that is named for the module. -/
structure Offers (t : FileTree) (root : Path) (rel : List String) (name : String) : Prop where
  dir : t.isDir root = true
  down : ".." ∉ rel
  there : (t.find? (root.append ⟨"", rel⟩)).isSome = true
  source : endsWith (rel.getLastD "") ".py" = true
  eligible : isEligible rel = true
  module : moduleName (root.append ⟨"", rel⟩).text root.text = .ok (some name)
  dotted : Name.isDotted name = true

/-! ### Places below a directory -/

theorem mem_entries_of_at? {q : List String} {n : Node} (hne : q ≠ []) (h : t.at? q = some n) :
    (q, n) ∈ t.entries := by
  have hfalse : q.isEmpty = false := by simpa using hne
  rw [at?, hfalse] at h
  exact (Ordered.get?_eq_some_iff _ _ _).1 h

theorem at?_of_mem_entries {q : List String} {n : Node} (hne : q ≠ []) (h : (q, n) ∈ t.entries) :
    t.at? q = some n := by
  have hfalse : q.isEmpty = false := by simpa using hne
  rw [at?, hfalse]
  exact (Ordered.get?_eq_some_iff _ _ _).2 h

theorem at?_of_mem_placesBelow {depth : Nat} {q : List String} (h : q ∈ placesBelow t depth place) :
    place.length < q.length ∧ ∃ n, t.at? q = some n := by
  induction depth generalizing place with
  | zero => cases h
  | succ depth ih =>
    rw [placesBelow_succ, List.mem_flatMap] at h
    obtain ⟨name, hname, h⟩ := h
    rcases List.mem_append.1 h with hown | hbelow
    · split at hown
      · obtain rfl := List.mem_singleton.1 hown
        obtain ⟨n, he⟩ := mem_children.1 hname
        exact ⟨by simp, n, at?_of_mem_entries (by simp) he⟩
      · cases hown
    · split at hbelow
      · obtain ⟨hlength, hat⟩ := ih hbelow
        rw [List.length_append] at hlength
        exact ⟨by omega, hat⟩
      · cases hbelow

/-- A walk down arrives only at places that the search looks at. -/
theorem mem_placesBelow {depth : Nat} {n : Node} (hdown : ".." ∉ rel)
    (hwalk : t.walk place rel = .ok (place ++ rel)) (hat : t.at? (place ++ rel) = some n)
    (hpy : endsWith (rel.getLastD "") ".py" = true)
    (hdeep : (deeper t place.length).length < depth) : place ++ rel ∈ placesBelow t depth place := by
  induction rel generalizing place depth with
  | nil => cases hpy
  | cons name rest ih =>
    obtain ⟨depth, rfl⟩ := Nat.exists_eq_succ_of_ne_zero (Nat.ne_zero_of_lt hdeep)
    rw [List.mem_cons, not_or] at hdown
    have hstep : t.walk (place ++ [name]) rest = .ok (place ++ [name] ++ rest) := by
      obtain ⟨-, ⟨hup, -⟩ | ⟨-, -, hwalk⟩⟩ := walk_cons_ok.1 hwalk
      · exact absurd hup.symm hdown.1
      · rw [List.append_assoc]
        exact hwalk
    have hchild : ∀ n, t.at? (place ++ [name]) = some n → name ∈ t.children place :=
      fun n hn => mem_children.2 ⟨n, mem_entries_of_at? (by simp) hn⟩
    rw [placesBelow_succ, List.mem_flatMap]
    cases rest with
    | nil =>
      refine ⟨name, hchild n hat, List.mem_append_left _ ?_⟩
      rw [List.getLastD_concat, if_pos (show endsWith name ".py" = true from hpy)]
      exact List.mem_cons_self
    | cons next rest =>
      have hdir : t.at? (place ++ [name]) = some none := (walk_cons_ok.1 hstep).1
      have hlt := deeper_lt hdir (k := place.length) (by simp)
      have hsplit : place ++ name :: next :: rest = place ++ [name] ++ next :: rest := by simp
      rw [hsplit] at hat ⊢
      refine ⟨name, hchild none hdir, List.mem_append_right _ ?_⟩
      rw [if_pos hdir]
      exact ih hdown.2 hstep hat hpy (Nat.lt_of_lt_of_le hlt (Nat.le_of_lt_succ hdeep))

/-! ### Candidates and offers -/

theorem append_parts (root : Path) (rel : List String) :
    root.append ⟨"", rel⟩ = ⟨root.root, root.parts ++ rel⟩ := rfl

theorem append_injective {rel rel' : List String}
    (h : root.append ⟨"", rel⟩ = root.append ⟨"", rel'⟩) : rel = rel' :=
  List.append_cancel_left (congrArg Path.parts h)

theorem offers_of_mem (ht : t.Proper) {e : Candidate} (h : e ∈ candidatesUnder t root) :
    ∃ rel, e.path = root.append ⟨"", rel⟩ ∧ (∀ p ∈ rel, Path.IsDown p) ∧
      Offers t root rel e.name := by
  obtain ⟨hdir, base, rel, hl, hbase, hq, he⟩ := mem_candidatesUnder h
  obtain ⟨hpath, -, heligible, hmodule, hdotted⟩ := eq_of_candidate? he
  obtain ⟨hlength, n, hn⟩ := at?_of_mem_placesBelow hq
  have hne : rel ≠ [] := by
    rintro rfl
    simp at hlength
  obtain ⟨hnames, hparts⟩ := ht _ (mem_entries_of_at? (by simp [hne]) hn)
  have hdown : ∀ p ∈ rel, Path.IsDown p := fun p hp =>
    ⟨hparts p (List.mem_append_right _ hp), (hnames p (List.mem_append_right _ hp)).1⟩
  obtain ⟨rel', hrel', hpy, hwalk⟩ := walk_found (fun e he => (ht e he).1) hbase hq
  obtain rfl := List.append_cancel_left hrel'
  have hlocate : t.locate (root.append ⟨"", rel⟩) = .ok (base ++ rel) :=
    (locate_append hl rel).trans hwalk
  refine ⟨rel, hpath, hdown, hdir, fun hup => (hdown _ hup).2 rfl, ?_, ?_, heligible, hmodule,
    hdotted⟩
  · rw [find?, hlocate]
    simp [hn]
  · rwa [List.getLastD_eq_getLast?, List.getLast?_append_of_ne_nil _ hne,
      ← List.getLastD_eq_getLast?] at hpy

/-- A place that offers a module is among the candidates. -/
theorem mem_of_offers (h : Offers t root rel name) :
    ∃ e ∈ candidatesUnder t root, e.name = name ∧ e.path = root.append ⟨"", rel⟩ := by
  obtain ⟨base, hl, hbase⟩ := isDir_iff.1 h.dir
  obtain ⟨n, hn⟩ := Option.isSome_iff_exists.1 h.there
  obtain ⟨q, hq, hat⟩ := find?_eq_some_iff.1 hn
  rw [locate_append hl] at hq
  have hdown : ∀ p ∈ rel, p ≠ ".." := fun p hp hup => h.down (hup ▸ hp)
  obtain rfl := walk_down hdown hq
  have hdeep : (deeper t base.length).length ≤ t.entries.length := List.length_filter_le _ _
  have hmem := mem_placesBelow h.down hq hat h.source (Nat.lt_succ_of_le hdeep)
  refine ⟨⟨name, root.append ⟨"", rel⟩, base ++ rel⟩, ?_, rfl, rfl⟩
  unfold candidatesUnder
  rw [if_pos h.dir, hl]
  refine List.mem_filterMap.2 ⟨rel, ?_, ?_⟩
  · exact List.mem_mergeSort.2 (List.mem_map.2 ⟨_, hmem, List.drop_left⟩)
  · unfold candidate?
    rw [if_pos h.eligible, h.module]
    simp [h.dotted]

/-- The candidates of one root stand in the order of their paths. -/
theorem pairwise_candidatesUnder (t : FileTree) (root : Path) :
    (candidatesUnder t root).Pairwise fun e e' => ∀ rel rel', e.path = root.append ⟨"", rel⟩ →
      e'.path = root.append ⟨"", rel'⟩ → precedes rel rel' = true := by
  unfold candidatesUnder
  split
  · split
    · exact List.Pairwise.nil
    · rw [List.pairwise_filterMap]
      refine (List.pairwise_mergeSort precedes_trans precedes_total _).imp ?_
      intro rel rel' hrels e he e' he' found found' hfound hfound'
      obtain rfl := append_injective ((eq_of_candidate? he).1.symm.trans hfound)
      obtain rfl := append_injective ((eq_of_candidate? he').1.symm.trans hfound')
      exact hrels
  · exact List.Pairwise.nil

/-- The first candidate of a name stands before every place under its root that offers the name. -/
theorem precedes_of_first {e : Candidate} {pre post : List Candidate} {rel' : List String}
    (hcut : candidatesUnder t root = pre ++ e :: post) (hpath : e.path = root.append ⟨"", rel⟩)
    (hfirst : ∀ e' ∈ pre, e'.name ≠ e.name) (h : Offers t root rel' e.name) :
    precedes rel rel' = true := by
  obtain ⟨e', he', hname, hpath'⟩ := mem_of_offers h
  have hsorted := pairwise_candidatesUnder t root
  rw [hcut] at he' hsorted
  rcases List.mem_append.1 he' with he' | he'
  · exact absurd hname (hfirst e' he')
  · rcases List.mem_cons.1 he' with rfl | he'
    · obtain rfl := append_injective (hpath.symm.trans hpath')
      exact (Bool.or_self _).symm.trans (precedes_total rel rel)
    · have hlater := (List.pairwise_append.1 hsorted).2.1
      exact List.rel_of_pairwise_cons hlater he' rel rel' hpath hpath'

/-! ### The first of each name -/

theorem any_name_iff {found : List Candidate} {e : Candidate} :
    (found.any fun e' => e'.name == e.name) = true ↔ ∃ e' ∈ found, e'.name = e.name := by
  simp [List.any_eq_true]

/-- What a fold keeps is new among all that came before it. -/
theorem fresh_of_mem_foldl {es found : List Candidate} {e : Candidate}
    (h : e ∈ es.foldl firstOf found) :
    e ∈ found ∨ ∃ pre post, es = pre ++ e :: post ∧ ∀ e' ∈ found ++ pre, e'.name ≠ e.name := by
  induction es generalizing found with
  | nil => exact .inl h
  | cons d es ih =>
    by_cases hd : (found.any fun e' => e'.name == d.name) = true
    · rw [List.foldl_cons, firstOf, if_pos hd] at h
      refine (ih h).imp_right ?_
      rintro ⟨pre, post, rfl, hfresh⟩
      refine ⟨d :: pre, post, rfl, fun e' he' => ?_⟩
      rw [List.mem_append, List.mem_cons] at he'
      rcases he' with he' | rfl | he'
      · exact hfresh e' (List.mem_append_left _ he')
      · -- a candidate that was passed over repeats a name that is there already
        obtain ⟨e'', he'', hname⟩ := any_name_iff.1 hd
        rw [← hname]
        exact hfresh e'' (List.mem_append_left _ he'')
      · exact hfresh e' (List.mem_append_right _ he')
    · rw [List.foldl_cons, firstOf, if_neg hd] at h
      rcases ih h with h | ⟨pre, post, rfl, hfresh⟩
      · refine (List.mem_append.1 h).imp_right fun h => ?_
        obtain rfl := List.mem_singleton.1 h
        refine ⟨[], es, rfl, fun e' he' hname => hd ?_⟩
        rw [List.append_nil] at he'
        exact any_name_iff.2 ⟨e', he', hname⟩
      · refine .inr ⟨d :: pre, post, rfl, fun e' he' => hfresh e' ?_⟩
        simpa using he'

theorem nodup_foldl_firstOf {es found : List Candidate} (h : (found.map (·.name)).Nodup) :
    ((es.foldl firstOf found).map (·.name)).Nodup := by
  induction es generalizing found with
  | nil => exact h
  | cons d es ih =>
    refine ih ?_
    unfold firstOf
    split
    · exact h
    · rename_i hd
      rw [List.map_append, List.nodup_append]
      refine ⟨h, by simp, fun name hname name' hname' heq => hd ?_⟩
      obtain ⟨e, he, rfl⟩ := List.mem_map.1 hname
      rw [List.mem_singleton.1 hname'] at heq
      exact any_name_iff.2 ⟨e, he, heq⟩

theorem exists_mem_foldl {es found : List Candidate} {e : Candidate} (h : e ∈ found ++ es) :
    ∃ e' ∈ es.foldl firstOf found, e'.name = e.name := by
  induction es generalizing found e with
  | nil => exact ⟨e, by simpa using h, rfl⟩
  | cons d es ih =>
    rw [List.foldl_cons]
    by_cases hd : (found.any fun e' => e'.name == d.name) = true
    · rw [firstOf, if_pos hd]
      rw [List.mem_append, List.mem_cons] at h
      rcases h with h | rfl | h
      · exact ih (List.mem_append_left _ h)
      · obtain ⟨e', he', hname⟩ := any_name_iff.1 hd
        obtain ⟨e'', he'', hname'⟩ := ih (List.mem_append_left es he')
        exact ⟨e'', he'', hname'.trans hname⟩
      · exact ih (List.mem_append_right _ h)
    · rw [firstOf, if_neg hd]
      exact ih (by simpa using h)

/-- An element of joined lists, in one of the lists. -/
theorem exists_root_of_split {e : Candidate} {pre post : List Candidate}
    (h : candidates t roots = pre ++ e :: post) :
    ∃ before root after pre' post', roots = before ++ root :: after ∧
      candidatesUnder t root = pre' ++ e :: post' ∧ pre = candidates t before ++ pre' := by
  induction roots generalizing pre with
  | nil => simp [candidates] at h
  | cons root roots ih =>
    rw [candidates, List.flatMap_cons, ← candidates] at h
    rcases List.append_eq_append_iff.1 h with ⟨pre', rfl, hrest⟩ | ⟨post', hroot, hpost⟩
    · obtain ⟨before, root', after, pre', post', rfl, hcut, rfl⟩ := ih hrest
      exact ⟨root :: before, root', after, pre', post', rfl, hcut,
        by rw [candidates, candidates, List.flatMap_cons, List.append_assoc]⟩
    · cases post' with
      | nil =>
        obtain ⟨before, root', after, pre', post', rfl, hcut, hpre⟩ := @ih [] hpost.symm
        refine ⟨root :: before, root', after, pre', post', rfl, hcut, ?_⟩
        rw [candidates, List.flatMap_cons, ← candidates, List.append_assoc, ← hpre, hroot,
          List.append_nil, List.append_nil]
      | cons d post' =>
        obtain ⟨rfl, rfl⟩ := List.cons.inj hpost
        exact ⟨[], root, roots, pre, post', rfl, hroot, rfl⟩

/-! ### What is found -/

theorem precedes_append (ps as bs : List String) :
    precedes (ps ++ as) (ps ++ bs) = precedes as bs := by
  induction ps with
  | nil => rfl
  | cons p ps ih => simp [precedes, ih]

theorem lt_append_py (s : String) : s < s ++ ".py" := by
  have hlist : ∀ cs : List Char, cs < cs ++ ".py".toList := by
    intro cs
    induction cs with
    | nil => decide
    | cons c cs ih => exact List.cons_lt_cons_iff.2 (.inr ⟨rfl, ih⟩)
  change s.toList < (s ++ ".py").toList
  rw [String.toList_append]
  exact hlist s.toList

/-- The package file of a directory comes before the file beside it. -/
theorem precedes_partsOf (name : String) :
    precedes (segments name ++ [packageFile]) (Filer.partsOf name) = true := by
  obtain ⟨init, last, hcut⟩ : ∃ init last, segments name = init ++ [last] :=
    ⟨_, _, (List.dropLast_concat_getLast (segments_ne_nil name)).symm⟩
  rw [Filer.partsOf, hcut, List.dropLast_concat, List.getLastD_concat, List.append_assoc,
    precedes_append, List.singleton_append, precedes_cons]
  exact .inl (lt_append_py last)

theorem partsOf_ne_package (name : String) :
    Filer.partsOf name ≠ segments name ++ [packageFile] := by
  intro h
  have hlength := congrArg List.length h
  have hne := List.length_pos_iff.2 (segments_ne_nil name)
  simp only [Filer.partsOf, List.length_append, List.length_dropLast, List.length_singleton]
    at hlength
  omega

theorem isFile_iff_of_there {p : Path} (h : (t.find? p).isSome = true) :
    t.isFile p = true ↔ t.isDir p = false := by
  obtain ⟨n, hn⟩ := Option.isSome_iff_exists.1 h
  rw [isFile, isDir, hn]
  cases n <;> simp

/-- A search of the roots finds every module that is offered, each name once: where the first root
that offers it does so first. The place is a file where the module of that name belongs exactly when
it is no directory and its names hold no dot besides the one of the extension. -/
theorem found_sources_exact (ht : t.Proper) (texts : List String) :
    ((findSources t (texts.map Path.ofText)).modules.map (·.1)).Nodup ∧
    (∀ m ∈ (findSources t (texts.map Path.ofText)).modules,
      ∃ before root after rel, texts.map Path.ofText = before ++ root :: after ∧
        m.2 = root.append ⟨"", rel⟩ ∧ Offers t root rel m.1 ∧
        (t.isFile m.2 = true ∧ IsPlaceOf rel m.1 ↔ t.isDir m.2 = false ∧ Undotted rel) ∧
        (∀ root' ∈ before, ∀ rel', ¬ Offers t root' rel' m.1) ∧
        (∀ rel', Offers t root rel' m.1 → precedes rel rel' = true) ∧
        (Offers t root (segments m.1 ++ [packageFile]) m.1 → rel ≠ Filer.partsOf m.1)) ∧
    (∀ root ∈ texts.map Path.ofText, ∀ rel name, Offers t root rel name →
      ∃ m ∈ (findSources t (texts.map Path.ofText)).modules, m.1 = name) := by
  rw [findSources_modules]
  refine ⟨?_, ?_, ?_⟩
  · rw [List.map_map]
    exact nodup_foldl_firstOf List.nodup_nil
  · intro m hm
    obtain ⟨e, he, rfl⟩ := List.mem_map.1 hm
    obtain ⟨pre, post, hsplit, hfresh⟩ :=
      (fresh_of_mem_foldl he).resolve_left List.not_mem_nil
    rw [List.nil_append] at hfresh
    obtain ⟨before, root, after, pre', post', hroots, hcut, rfl⟩ := exists_root_of_split hsplit
    have hmem : e ∈ candidatesUnder t root := by
      rw [hcut]
      exact List.mem_append_right _ List.mem_cons_self
    have hroot : root.Proper := by
      have hin : root ∈ texts.map Path.ofText := by
        rw [hroots]
        exact List.mem_append_right _ List.mem_cons_self
      obtain ⟨text, -, rfl⟩ := List.mem_map.1 hin
      exact Path.proper_ofText text
    obtain ⟨rel, hpath, hdown, hoffers⟩ := offers_of_mem ht hmem
    have hfirst : ∀ rel', Offers t root rel' e.name → precedes rel rel' = true := fun _ =>
      precedes_of_first hcut hpath fun e' he' => hfresh e' (List.mem_append_right _ he')
    refine ⟨before, root, after, rel, hroots, hpath, hoffers, ?_, ?_, hfirst, ?_⟩
    · change t.isFile e.path = true ∧ _ ↔ t.isDir e.path = false ∧ _
      rw [hpath, isFile_iff_of_there hoffers.there]
      refine and_congr_right fun _ => ⟨undotted_of_isPlaceOf hoffers.dotted, ?_⟩
      exact isPlaceOf_of_undotted hroot hdown hoffers.module
    · intro root' hroot' rel' hoffers'
      obtain ⟨e', he', hname, -⟩ := mem_of_offers hoffers'
      exact hfresh e' (List.mem_append_left _ (List.mem_flatMap.2 ⟨root', hroot', he'⟩)) hname
    · rintro hpackage rfl
      exact partsOf_ne_package e.name
        (precedes_antisymm _ _ (hfirst _ hpackage) (precedes_partsOf e.name))
  · intro root hroot rel name hoffers
    obtain ⟨e, he, hname, -⟩ := mem_of_offers hoffers
    have hmem : e ∈ [] ++ candidates t (texts.map Path.ofText) :=
      List.mem_flatMap.2 ⟨root, hroot, he⟩
    obtain ⟨e', he', hname'⟩ := exists_mem_foldl hmem
    exact ⟨e'.entry, List.mem_map_of_mem he', hname'.trans hname⟩

theorem candidatesUnder_of_sorted {base : List String} {rels : List (List String)}
    (hroot : t.isDir root = true ∧ t.locate root = .ok base)
    (hrels : (placesBelow t (t.entries.length + 1) base).map (·.drop base.length) = rels)
    (hsorted : rels.Pairwise fun rel rel' => precedes rel rel' = true) :
    candidatesUnder t root = rels.filterMap (candidate? root base) := by
  unfold candidatesUnder
  rw [if_pos hroot.1, hroot.2]
  simp only [hrels, List.mergeSort_of_pairwise hsorted]

/-- A package and a plain module of one name under one root, and one of its modules again under a
second root. -/
def menuTree : FileTree :=
  FileTree.ofFiles [("src/menu/__init__.py", []), ("src/menu/tea.py", []), ("src/menu.py", []),
    ("lib/menu/cake.py", []), ("lib/menu/tea.py", [])]

theorem found_sources_of_menu :
    menuTree.Proper ∧
    (findSources menuTree (["src", "lib"].map Path.ofText)).modules =
      [("menu", Path.ofText "src/menu/__init__.py"), ("menu.tea", Path.ofText "src/menu/tea.py"),
        ("menu.cake", Path.ofText "lib/menu/cake.py")] ∧
    ((findSources menuTree (["src", "lib"].map Path.ofText)).modules.map (·.1)).Nodup := by
  have hproper : menuTree.Proper := proper_ofFiles _
  have hsrc : candidatesUnder menuTree (Path.ofText "src") =
      [["menu", "__init__.py"], ["menu", "tea.py"], ["menu.py"]].filterMap
        (candidate? (Path.ofText "src") ["src"]) :=
    candidatesUnder_of_sorted (by decide) (by decide) (by decide)
  have hlib : candidatesUnder menuTree (Path.ofText "lib") =
      [["menu", "cake.py"], ["menu", "tea.py"]].filterMap
        (candidate? (Path.ofText "lib") ["lib"]) :=
    candidatesUnder_of_sorted (by decide) (by decide) (by decide)
  refine ⟨hproper, ?_, (found_sources_exact hproper ["src", "lib"]).1⟩
  rw [findSources_modules, sources, candidates]
  simp only [List.map_cons, List.map_nil, List.flatMap_cons, List.flatMap_nil, hsrc, hlib]
  decide +kernel

/-- A directory with the extension, and a file with a dot in its name. -/
def dottedTree : FileTree :=
  FileTree.ofFiles [("src/menu.py/", []), ("lib/tea.hot.py", [])]

/-- Both are found, and neither is a file where the module of its name belongs. -/
theorem found_sources_misplaced :
    (findSources dottedTree [Path.ofText "src", Path.ofText "lib"]).modules =
      [("menu", Path.ofText "src/menu.py"), ("tea.hot", Path.ofText "lib/tea.hot.py")] ∧
    dottedTree.isFile (Path.ofText "src/menu.py") = false ∧
    Path.ofText "lib/tea.hot.py" = (Path.ofText "lib").append ⟨"", ["tea.hot.py"]⟩ ∧
    ¬ IsPlaceOf ["tea.hot.py"] "tea.hot" := by
  decide +kernel

end Discovery

end Foundry
