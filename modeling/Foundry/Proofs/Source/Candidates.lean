import Foundry.Discovery.Sources
import Foundry.Proofs.Files.Absence

/-!
Source files found in a tree that lacks some files of another one: those found in the other one that
are still there, in the same order.
-/

namespace Foundry

open Text

namespace FileTree

variable {t : FileTree} {gone : List (List String)} {place q : List String}

theorem entries_without (t : FileTree) (gone : List (List String)) :
    (t.without gone).entries = t.entries.filter fun e => e.1 ∉ gone := by
  simp only [entries, without, Ordered.filterMap]
  rw [← List.filterMap_eq_filter]
  refine List.filterMap_congr fun e _ => ?_
  by_cases he : e.1 ∈ gone <;> simp [Option.guard, he]

theorem WellNamed.without (h : t.WellNamed) (gone : List (List String)) :
    (t.without gone).WellNamed := by
  intro e he
  rw [entries_without] at he
  exact h e (List.mem_filter.1 he).1

theorem mem_children {name : String} :
    name ∈ t.children place ↔ ∃ n, (place ++ [name], n) ∈ t.entries := by
  unfold children
  rw [List.mem_filterMap]
  constructor
  · rintro ⟨⟨key, n⟩, he, hname⟩
    split at hname
    · rename_i hkey
      rw [Bool.and_eq_true, decide_eq_true_eq, decide_eq_true_eq] at hkey
      obtain ⟨init, rfl⟩ := List.getLast?_eq_some_iff.1 hname
      rw [List.dropLast_concat] at hkey
      exact ⟨n, hkey.2 ▸ he⟩
    · cases hname
  · rintro ⟨n, he⟩
    exact ⟨_, he, by simp⟩

theorem children_without (t : FileTree) (gone : List (List String)) (place : List String) :
    (t.without gone).children place =
      (t.children place).filter fun name => place ++ [name] ∉ gone := by
  unfold children
  rw [entries_without, List.filterMap_filter, List.filter_filterMap]
  refine List.filterMap_congr fun e _ => ?_
  by_cases hkey : e.1.length = place.length + 1 ∧ e.1.dropLast = place
  · have hne : e.1 ≠ [] := List.ne_nil_of_length_eq_add_one hkey.1
    have hcut : place ++ [e.1.getLast hne] = e.1 := by
      rw [← hkey.2]
      exact List.dropLast_append_getLast hne
    by_cases hgone : e.1 ∈ gone <;>
      simp [hkey.1, hkey.2, List.getLast?_eq_some_getLast hne, Option.filter, hgone, hcut]
  · have hfalse : (decide (e.1.length = place.length + 1) && decide (e.1.dropLast = place)) = false := by
      simpa using hkey
    simp [hfalse]

end FileTree

namespace Discovery

open FileTree

variable {t : FileTree} {gone : List (List String)} {place q : List String}

/-! ### Places below a directory -/

/-- What is found at a child of a directory and below it. -/
def branch (t : FileTree) (depth : Nat) (here : List String) : List (List String) :=
  (if endsWith (here.getLastD "") ".py" then [here] else []) ++
    if t.at? here = some none then placesBelow t depth here else []

theorem placesBelow_succ (t : FileTree) (depth : Nat) (place : List String) :
    placesBelow t (depth + 1) place =
      (t.children place).flatMap fun name => branch t depth (place ++ [name]) := by
  rw [placesBelow]
  refine List.flatMap_congr fun name _ => ?_
  dsimp only
  rw [branch, List.getLastD_concat]
  rcases ht : t.at? (place ++ [name]) with _ | _ | _ <;> simp

theorem flatMap_filter {α β : Type} (l : List α) (p : α → Bool) (f : α → List β) :
    (l.filter p).flatMap f = l.flatMap fun a => if p a then f a else [] := by
  induction l with
  | nil => rfl
  | cons a l ih => cases hp : p a <;> simp [hp, ih]

theorem placesBelow_without (hfiles : t.AllFiles gone) (depth : Nat) (place : List String) :
    placesBelow (t.without gone) depth place =
      (placesBelow t depth place).filter fun q => q ∉ gone := by
  induction depth generalizing place with
  | zero => rfl
  | succ depth ih =>
    have hlacks := lacks_without t hfiles
    rw [placesBelow_succ, placesBelow_succ, children_without, flatMap_filter, List.filter_flatMap]
    refine List.flatMap_congr fun name _ => ?_
    by_cases hgone : place ++ [name] ∈ gone
    · obtain ⟨bytes, hbytes⟩ := hfiles _ hgone
      by_cases hpy : endsWith name ".py" = true <;> simp [branch, hbytes, hgone, hpy]
    · simp only [branch, hlacks.at?_eq hgone, ih]
      simp [hgone, List.filter_append, apply_ite (List.filter _)]

/-- Entries that lie deeper than a level. -/
def deeper (t : FileTree) (level : Nat) : List (List String × Node) :=
  t.entries.filter fun e => level < e.1.length

theorem deeper_lt {n : Node} (h : t.at? q = some n) {k : Nat} (hlevel : k < q.length) :
    (deeper t q.length).length < (deeper t k).length := by
  have hne : q ≠ [] := List.length_pos_iff.1 (Nat.zero_lt_of_lt hlevel)
  have hfalse : q.isEmpty = false := by simpa using hne
  have hmem : (q, n) ∈ t.entries := by
    rw [at?, hfalse] at h
    exact (Ordered.get?_eq_some_iff _ _ _).1 h
  have hsub : deeper t q.length = (deeper t k).filter fun e => q.length < e.1.length := by
    rw [deeper, deeper, List.filter_filter]
    refine List.filter_congr fun e _ => ?_
    by_cases he : q.length < e.1.length
    · simp [he, Nat.lt_trans hlevel he]
    · simp [he]
  rw [hsub, List.length_filter_lt_length_iff_exists]
  exact ⟨(q, n), List.mem_filter.2 ⟨hmem, by simpa using hlevel⟩, by simp⟩

/-- A search that goes as deep as there are entries finds everything. -/
theorem placesBelow_deep {depth depth' : Nat} (h : (deeper t place.length).length < depth)
    (h' : (deeper t place.length).length < depth') :
    placesBelow t depth place = placesBelow t depth' place := by
  induction depth generalizing place depth' with
  | zero => exact absurd h (Nat.not_lt_zero _)
  | succ depth ih =>
    cases depth' with
    | zero => exact absurd h' (Nat.not_lt_zero _)
    | succ depth' =>
      rw [placesBelow_succ, placesBelow_succ]
      refine List.flatMap_congr fun name _ => ?_
      rw [branch, branch]
      by_cases hdir : t.at? (place ++ [name]) = some none
      · have hlt := deeper_lt hdir (k := place.length) (by simp)
        have hbelow : placesBelow t depth (place ++ [name]) =
            placesBelow t depth' (place ++ [name]) := ih (by omega) (by omega)
        rw [if_pos hdir, if_pos hdir, hbelow]
      · rw [if_neg hdir, if_neg hdir]

theorem prefix_of_mem_placesBelow {depth : Nat} (h : q ∈ placesBelow t depth place) :
    place <+: q := by
  induction depth generalizing place with
  | zero => cases h
  | succ depth ih =>
    rw [placesBelow_succ, List.mem_flatMap] at h
    obtain ⟨name, -, h⟩ := h
    have hchild : place <+: place ++ [name] := List.prefix_append place [name]
    rcases List.mem_append.1 h with hown | hbelow
    · split at hown
      · rwa [List.mem_singleton.1 hown]
      · cases hown
    · split at hbelow
      · exact hchild.trans (ih hbelow)
      · cases hbelow

/-- A place that was found lies straight below the directory. -/
theorem walk_found {depth : Nat} (hnames : t.WellNamed) (hdir : t.at? place = some none)
    (hq : q ∈ placesBelow t depth place) :
    ∃ rel, q = place ++ rel ∧ endsWith (q.getLastD "") ".py" = true ∧
      t.walk place rel = .ok q := by
  induction depth generalizing place with
  | zero => cases hq
  | succ depth ih =>
    rw [placesBelow_succ, List.mem_flatMap] at hq
    obtain ⟨name, hname, hq⟩ := hq
    have hstep : ∀ rest, t.walk place (name :: rest) = t.walk (place ++ [name]) rest := by
      obtain ⟨n, he⟩ := mem_children.1 hname
      obtain ⟨hup, hshort⟩ := hnames _ he name (by simp)
      intro rest
      simp [walk_cons, hdir, hup, advance, Nat.not_lt.2 hshort]
    rcases List.mem_append.1 hq with hown | hbelow
    · split at hown
      · rename_i hpy
        obtain rfl := List.mem_singleton.1 hown
        exact ⟨[name], rfl, by rwa [List.getLastD_concat] at hpy ⊢, by rw [hstep]; rfl⟩
      · cases hown
    · split at hbelow
      · rename_i hhere
        obtain ⟨rel, rfl, hpy, hwalk⟩ := ih hhere hbelow
        exact ⟨name :: rel, by simp, hpy, by rw [hstep, hwalk]⟩
      · cases hbelow

/-! ### The order of places -/

theorem precedes_cons {a b : String} {as bs : List String} :
    precedes (a :: as) (b :: bs) = true ↔ a < b ∨ a = b ∧ precedes as bs = true := by
  simp [precedes]

theorem precedes_total (as bs : List String) : (precedes as bs || precedes bs as) = true := by
  rw [Bool.or_eq_true]
  induction as generalizing bs with
  | nil => exact .inl rfl
  | cons a as ih =>
    cases bs with
    | nil => exact .inr rfl
    | cons b bs =>
      rw [precedes_cons, precedes_cons]
      by_cases hlt : a < b
      · exact .inl (.inl hlt)
      · by_cases hgt : b < a
        · exact .inr (.inl hgt)
        · obtain rfl : a = b := String.le_antisymm (String.not_lt.1 hgt) (String.not_lt.1 hlt)
          exact (ih bs).imp (fun h => .inr ⟨rfl, h⟩) fun h => .inr ⟨rfl, h⟩

theorem precedes_trans (as bs cs : List String) (h : precedes as bs = true)
    (h' : precedes bs cs = true) : precedes as cs = true := by
  induction as generalizing bs cs with
  | nil => rfl
  | cons a as ih =>
    cases bs with
    | nil => cases h
    | cons b bs =>
      cases cs with
      | nil => cases h'
      | cons c cs =>
        rw [precedes_cons] at h h' ⊢
        rcases h with h | ⟨rfl, h⟩
        · rcases h' with h' | ⟨rfl, -⟩
          · exact .inl (String.lt_trans h h')
          · exact .inl h
        · rcases h' with h' | ⟨rfl, h'⟩
          · exact .inl h'
          · exact .inr ⟨rfl, ih bs cs h h'⟩

theorem precedes_antisymm (as bs : List String) (h : precedes as bs = true)
    (h' : precedes bs as = true) : as = bs := by
  induction as generalizing bs with
  | nil =>
    cases bs with
    | nil => rfl
    | cons b bs => cases h'
  | cons a as ih =>
    cases bs with
    | nil => cases h
    | cons b bs =>
      rw [precedes_cons] at h h'
      rcases h with h | ⟨rfl, h⟩
      · rcases h' with h' | ⟨rfl, -⟩
        · exact absurd h' (String.lt_asymm h)
        · exact absurd h (String.lt_irrefl _)
      · rcases h' with h' | ⟨-, h'⟩
        · exact absurd h' (String.lt_irrefl _)
        · rw [ih bs h h']

theorem mergeSort_filter (l : List (List String)) (p : List String → Bool) :
    (l.filter p).mergeSort precedes = (l.mergeSort precedes).filter p := by
  have hsorted := fun l => List.pairwise_mergeSort precedes_trans precedes_total l
  refine List.Perm.eq_of_pairwise (fun a b _ _ => precedes_antisymm a b) (hsorted _)
    ((hsorted l).filter p) ?_
  exact (List.mergeSort_perm _ _).trans ((List.mergeSort_perm l precedes).filter p).symm

/-! ### Source files -/

/-- A file that holds a module. -/
structure Candidate where
  name : String
  path : Path
  place : List String
deriving DecidableEq, Repr

/-- The module of a file below a root. -/
def candidate? (root : Path) (base rel : List String) : Option Candidate :=
  if isEligible rel then
    match moduleName (root.append ⟨"", rel⟩).text root.text with
    | .ok (some name) =>
      if Name.isDotted name then some ⟨name, root.append ⟨"", rel⟩, base ++ rel⟩ else none
    | _ => none
  else none

def candidatesUnder (t : FileTree) (root : Path) : List Candidate :=
  if t.isDir root then
    match t.locate root with
    | .error _ => []
    | .ok base =>
      (((placesBelow t (t.entries.length + 1) base).map (·.drop base.length)).mergeSort
        precedes).filterMap (candidate? root base)
  else []

/-- Files with modules under a list of roots, one for each name that a root gives them. -/
def candidates (t : FileTree) (roots : List Path) : List Candidate :=
  roots.flatMap (candidatesUnder t)

/-- No two files found under the roots hold the same module. -/
def OneFileEach (t : FileTree) (roots : List Path) : Prop :=
  ∀ e ∈ candidates t roots, ∀ e' ∈ candidates t roots, e.name = e'.name → e.place = e'.place

instance (t : FileTree) (roots : List Path) : Decidable (OneFileEach t roots) :=
  inferInstanceAs (Decidable (∀ e ∈ candidates t roots, ∀ e' ∈ candidates t roots,
    e.name = e'.name → e.place = e'.place))

/-- The first file of a module counts. -/
def firstOf (found : List Candidate) (e : Candidate) : List Candidate :=
  if found.any fun e' => e'.name == e.name then found else found ++ [e]

/-- The files that modules are read from. -/
def sources (t : FileTree) (roots : List Path) : List Candidate :=
  (candidates t roots).foldl firstOf []

def Candidate.entry (e : Candidate) : String × Path :=
  (e.name, e.path)

/-- What a file found under a root adds to the modules. -/
theorem addFound_modules {f : Found} {found : List Candidate} (root : Path)
    (base rel : List String) (hf : f.modules = found.map Candidate.entry) :
    (if isEligible rel then
      match moduleName (root.append ⟨"", rel⟩).text root.text with
      | .ok (some name) =>
        if f.has name || !Name.isDotted name then f
        else { f with modules := f.modules ++ [(name, root.append ⟨"", rel⟩)] }
      | _ => f
    else f).modules =
      ((candidate? root base rel).toList.foldl firstOf found).map Candidate.entry := by
  have hhas : ∀ name, f.has name = found.any fun e => e.name == name := by
    intro name
    rw [Found.has, hf, List.any_map]
    rfl
  unfold candidate?
  by_cases hel : isEligible rel = true
  · rw [if_pos hel, if_pos hel]
    rcases moduleName (root.append ⟨"", rel⟩).text root.text with _ | _ | name
    · exact hf
    · exact hf
    · cases hdotted : Name.isDotted name with
      | false => simpa [hdotted] using hf
      | true =>
        cases hold : found.any fun e => e.name == name with
        | true => simpa [hdotted, hhas, hold, firstOf] using hf
        | false => simp [hdotted, hhas, hold, firstOf, hf, Candidate.entry]
  · rw [if_neg hel, if_neg hel]
    exact hf

theorem findUnder_modules (t : FileTree) (f : Found) (root : Path) {found : List Candidate}
    (hf : f.modules = found.map Candidate.entry) :
    (findUnder t f root).modules =
      ((candidatesUnder t root).foldl firstOf found).map Candidate.entry := by
  unfold findUnder candidatesUnder
  split
  · cases t.locate root with
    | error problem => exact hf
    | ok base =>
      dsimp only
      generalize ((placesBelow t (t.entries.length + 1) base).map (·.drop base.length)).mergeSort
        precedes = rels
      induction rels generalizing f found with
      | nil => exact hf
      | cons rel rels ih =>
        have hadd := addFound_modules root base rel hf
        have hcut : (rel :: rels).filterMap (candidate? root base) =
            (candidate? root base rel).toList ++ rels.filterMap (candidate? root base) := by
          cases hc : candidate? root base rel <;> simp [hc]
        rw [hcut, List.foldl_append, List.foldl_cons]
        exact ih _ hadd
  · exact hf

theorem findSources_modules (t : FileTree) (roots : List Path) :
    (findSources t roots).modules = (sources t roots).map Candidate.entry := by
  have hall : ∀ (roots : List Path) (f : Found) (found : List Candidate),
      f.modules = found.map Candidate.entry →
      (roots.foldl (findUnder t) f).modules =
        ((candidates t roots).foldl firstOf found).map Candidate.entry := by
    intro roots
    induction roots with
    | nil => exact fun _ _ hf => hf
    | cons root roots ih =>
      intro f found hf
      rw [candidates, List.flatMap_cons, List.foldl_append, List.foldl_cons]
      exact ih _ _ (findUnder_modules t f root hf)
  exact hall roots ⟨[], []⟩ [] rfl

theorem eq_of_candidate? {root : Path} {base rel : List String} {e : Candidate}
    (h : candidate? root base rel = some e) :
    e.path = root.append ⟨"", rel⟩ ∧ e.place = base ++ rel ∧ isEligible rel = true ∧
      moduleName (root.append ⟨"", rel⟩).text root.text = .ok (some e.name) ∧
      Name.isDotted e.name = true := by
  unfold candidate? at h
  split at h
  · rename_i heligible
    split at h
    · rename_i name hname
      split at h
      · rename_i hdotted
        cases h
        exact ⟨rfl, rfl, heligible, hname, hdotted⟩
      · cases h
    · cases h
  · cases h

theorem mem_candidatesUnder {root : Path} {e : Candidate} (h : e ∈ candidatesUnder t root) :
    t.isDir root = true ∧ ∃ base rel, t.locate root = .ok base ∧ t.at? base = some none ∧
      base ++ rel ∈ placesBelow t (t.entries.length + 1) base ∧
      candidate? root base rel = some e := by
  unfold candidatesUnder at h
  split at h
  · rename_i hdir
    obtain ⟨base, hl, hbase⟩ := isDir_iff.1 hdir
    rw [hl] at h
    obtain ⟨rel, hrel, he⟩ := List.mem_filterMap.1 h
    obtain ⟨q, hq, rfl⟩ := List.mem_map.1 (List.mem_mergeSort.1 hrel)
    obtain ⟨rel, rfl⟩ := prefix_of_mem_placesBelow hq
    rw [List.drop_left] at he
    exact ⟨hdir, base, rel, hl, hbase, hq, he⟩
  · cases h

theorem locate_candidate (hnames : t.WellNamed) {roots : List Path} {e : Candidate}
    (h : e ∈ candidates t roots) :
    t.locate e.path = .ok e.place ∧ endsWith (e.place.getLastD "") ".py" = true := by
  obtain ⟨root, -, h⟩ := List.mem_flatMap.1 h
  obtain ⟨-, base, rel, hl, hbase, hq, he⟩ := mem_candidatesUnder h
  obtain ⟨rel', hrel, hpy, hwalk⟩ := walk_found hnames hbase hq
  obtain rfl := List.append_cancel_left hrel
  obtain ⟨hpath, hplace, -⟩ := eq_of_candidate? he
  rw [hplace, hpath, locate_append hl]
  exact ⟨hwalk, hpy⟩

theorem found_without (hfiles : t.AllFiles gone) (base : List String) :
    placesBelow (t.without gone) ((t.without gone).entries.length + 1) base =
      (placesBelow t (t.entries.length + 1) base).filter fun q => q ∉ gone := by
  have hdeep : (deeper (t.without gone) base.length).length ≤ (t.without gone).entries.length :=
    List.length_filter_le _ _
  have hfewer : (t.without gone).entries.length ≤ t.entries.length := by
    rw [entries_without]
    exact List.length_filter_le _ _
  have hdepth : placesBelow (t.without gone) ((t.without gone).entries.length + 1) base =
      placesBelow (t.without gone) (t.entries.length + 1) base :=
    placesBelow_deep (by omega) (by omega)
  rw [hdepth, placesBelow_without hfiles]

theorem candidatesUnder_without (hfiles : t.AllFiles gone) (root : Path) :
    candidatesUnder (t.without gone) root =
      (candidatesUnder t root).filter fun e => e.place ∉ gone := by
  have hlacks := lacks_without t hfiles
  unfold candidatesUnder
  by_cases hdir : t.isDir root = true
  · obtain ⟨base, hl, hbase⟩ := isDir_iff.1 hdir
    obtain ⟨hl', hbase'⟩ := (hlacks.dir_iff hfiles).2 ⟨hl, hbase⟩
    rw [if_pos hdir, if_pos (isDir_iff.2 ⟨base, hl', hbase'⟩), hl, hl']
    dsimp only
    rw [found_without hfiles]
    have hdrop : ((placesBelow t (t.entries.length + 1) base).filter fun q => q ∉ gone).map
        (·.drop base.length) =
        ((placesBelow t (t.entries.length + 1) base).map (·.drop base.length)).filter
          fun rel => base ++ rel ∉ gone := by
      rw [List.filter_map]
      refine congrArg _ (List.filter_congr fun q hq => ?_)
      obtain ⟨rel, rfl⟩ := prefix_of_mem_placesBelow hq
      simp
    rw [hdrop, mergeSort_filter, List.filterMap_filter, List.filter_filterMap]
    refine List.filterMap_congr fun rel _ => ?_
    cases he : candidate? root base rel with
    | none => simp
    | some e => simp [Option.filter, (eq_of_candidate? he).2.1]
  · have hdir' : ¬(t.without gone).isDir root = true := by
      intro hd
      obtain ⟨base, hb⟩ := isDir_iff.1 hd
      exact hdir (isDir_iff.2 ⟨base, (hlacks.dir_iff hfiles).1 hb⟩)
    rw [if_neg hdir, if_neg hdir']
    rfl

theorem candidates_without (hfiles : t.AllFiles gone) (roots : List Path) :
    candidates (t.without gone) roots =
      (candidates t roots).filter fun e => e.place ∉ gone := by
  rw [candidates, candidates, List.filter_flatMap]
  exact List.flatMap_congr fun root _ => candidatesUnder_without hfiles root

theorem mem_firstOf {found : List Candidate} {e e' : Candidate} (h : e' ∈ firstOf found e) :
    e' ∈ found ∨ e' = e := by
  unfold firstOf at h
  split at h
  · exact .inl h
  · exact (List.mem_append.1 h).imp_right List.mem_singleton.1

theorem mem_of_mem_sources {roots : List Path} {e : Candidate} (h : e ∈ sources t roots) :
    e ∈ candidates t roots := by
  have hall : ∀ es found : List Candidate, e ∈ es.foldl firstOf found → e ∈ found ∨ e ∈ es := by
    intro es
    induction es with
    | nil => exact fun _ h => .inl h
    | cons e' es ih =>
      intro found h
      rcases ih (firstOf found e') h with h | h
      · rcases mem_firstOf h with h | rfl
        · exact .inl h
        · exact .inr List.mem_cons_self
      · exact .inr (List.mem_cons_of_mem e' h)
  exact (hall _ [] h).resolve_left List.not_mem_nil

theorem firstOf_filter (keep : List String → Bool) (found : List Candidate) (e : Candidate)
    (hsame : ∀ e' ∈ found, e'.name = e.name → e'.place = e.place) :
    (firstOf found e).filter (fun e => keep e.place) =
      if keep e.place then firstOf (found.filter fun e => keep e.place) e
      else found.filter fun e => keep e.place := by
  cases hkeep : keep e.place with
  | false =>
    unfold firstOf
    split
    · rfl
    · simp [hkeep]
  | true =>
    have hany : (found.filter fun e => keep e.place).any (fun e' => e'.name == e.name) =
        found.any fun e' => e'.name == e.name := by
      rw [List.any_filter, Bool.eq_iff_iff, List.any_eq_true, List.any_eq_true]
      refine exists_congr fun e' => and_congr_right fun he' => ?_
      rw [Bool.and_eq_true, beq_iff_eq]
      refine and_iff_right_of_imp fun hname => ?_
      rw [hsame e' he' hname, hkeep]
    unfold firstOf
    rw [hany]
    split
    · rfl
    · simp [hkeep]

/-- Where names tell the files apart, the first files of modules are the first ones that are left. -/
theorem foldl_firstOf_filter (keep : List String → Bool) (es found : List Candidate)
    (hsame : ∀ e ∈ es, ∀ e' ∈ found ++ es, e'.name = e.name → e'.place = e.place) :
    (es.filter fun e => keep e.place).foldl firstOf (found.filter fun e => keep e.place) =
      (es.foldl firstOf found).filter fun e => keep e.place := by
  induction es generalizing found with
  | nil => rfl
  | cons e es ih =>
    have hfirst := firstOf_filter keep found e fun e' he' =>
      hsame e List.mem_cons_self e' (List.mem_append_left _ he')
    have hrest := ih (firstOf found e) fun x hx e' he' => by
      refine hsame x (List.mem_cons_of_mem e hx) e' ?_
      rcases List.mem_append.1 he' with he' | he'
      · rcases mem_firstOf he' with he' | rfl
        · exact List.mem_append_left _ he'
        · exact List.mem_append_right _ List.mem_cons_self
      · exact List.mem_append_right _ (List.mem_cons_of_mem e he')
    rw [hfirst] at hrest
    rw [List.foldl_cons, ← hrest]
    cases hkeep : keep e.place with
    | true => simp [hkeep]
    | false => simp [hkeep]

theorem sources_without (hfiles : t.AllFiles gone) {roots : List Path}
    (hsame : OneFileEach t roots) :
    sources (t.without gone) roots = (sources t roots).filter fun e => e.place ∉ gone := by
  rw [sources, sources, candidates_without hfiles]
  refine foldl_firstOf_filter (fun q => q ∉ gone) (candidates t roots) [] ?_
  exact fun e he e' he' hname => hsame e' he' e he hname

end Discovery

end Foundry
