import Foundry.Discovery.Sources
import Foundry.Proofs.Files.Growth
import Foundry.Proofs.Text.Splitting

/-!
Paths as texts. A path that was read from a text is written back part by part, and a path below a
base has, as seen from the base, the parts it was put together with.
-/

namespace Foundry

open Text

/-- A part that a path can have: what stands between two slashes, but no single dot. -/
structure Path.IsPart (s : String) : Prop where
  ne_empty : s ≠ ""
  ne_dot : s ≠ "."
  slash : '/' ∉ s.toList

/-- A part of a path that does not lead upwards. -/
def Path.IsDown (s : String) : Prop :=
  Path.IsPart s ∧ s ≠ ".."

/-- A path as texts are read. -/
structure Path.Proper (p : Path) : Prop where
  root : p.root = "" ∨ p.root = "/" ∨ p.root = "//"
  parts : ∀ s ∈ p.parts, Path.IsPart s

/-! ### Pieces between slashes -/

namespace Text

theorem notMem_of_mem_split {sep : Char} {s p : String} (h : p ∈ split sep s) :
    sep ∉ p.toList := by
  obtain ⟨cs, hcs, rfl⟩ := List.mem_map.1 h
  rw [String.toList_ofList]
  exact notMem_of_mem_splitList hcs

theorem split_join {ps : List String} (hne : ps ≠ []) (h : ∀ p ∈ ps, '/' ∉ p.toList) :
    split '/' (join "/" ps) = ps := by
  rw [split, splitList_join (show "/".toList = ['/'] from rfl) hne h]
  simp

theorem split_slash (s : String) : split '/' ("/" ++ s) = "" :: split '/' s := by
  rw [split, String.toList_append]
  exact congrArg (List.map String.ofList) (splitList_append_cons List.not_mem_nil s.toList)

/-- Slashes turned into dots. -/
def dotForSlash (c : Char) : Char :=
  if c = '/' then '.' else c

theorem replaceList_slash {n : Nat} {cs : List Char} (h : cs.length < n) :
    replaceList ['/'] ['.'] n cs = cs.map dotForSlash := by
  induction cs generalizing n with
  | nil => cases n <;> simp [replaceList] at h ⊢
  | cons c cs ih =>
    obtain ⟨m, rfl⟩ := Nat.exists_eq_succ_of_ne_zero (Nat.ne_zero_of_lt h)
    have hrest := ih (n := m) (Nat.lt_of_succ_lt_succ h)
    by_cases hc : c = '/'
    · subst hc
      simpa [replaceList, startsWithList, dotForSlash] using hrest
    · have hc' : ('/' == c) = false := beq_eq_false_iff_ne.2 (Ne.symm hc)
      simpa [replaceList, startsWithList, dotForSlash, hc, hc'] using hrest

theorem replace_slash (s : String) : (replace s "/" ".").toList = s.toList.map dotForSlash := by
  rw [replace, String.toList_ofList]
  exact replaceList_slash (Nat.lt_succ_self _)

/-- A joined text begins as its first piece does. -/
theorem exists_first_char (sep : String) {p : String} (ps : List String) (hp : p ≠ "") :
    ∃ c rest, p.toList.head? = some c ∧ (join sep (p :: ps)).toList = c :: rest := by
  obtain ⟨c, cs, hc⟩ := List.exists_cons_of_ne_nil (l := p.toList)
    fun h => hp (String.toList_inj.1 h)
  refine ⟨c, ?_⟩
  cases ps with
  | nil => exact ⟨cs, by rw [hc]; rfl, hc⟩
  | cons q qs =>
    refine ⟨cs ++ sep.toList ++ (join sep (q :: qs)).toList, by rw [hc]; rfl, ?_⟩
    simp [join_cons_cons, hc]

theorem replace_join {ps : List String} (h : ∀ p ∈ ps, '/' ∉ p.toList) :
    replace (join "/" ps) "/" "." = dotted ps := by
  have hpart : ∀ p ∈ ps, p.toList.map dotForSlash = p.toList := by
    intro p hp
    refine (List.map_congr_left fun c hc => ?_).trans (List.map_id _)
    exact if_neg fun hslash => h p hp (by rwa [hslash] at hc)
  rw [← String.toList_inj, replace_slash]
  clear h
  induction ps with
  | nil => rfl
  | cons p ps ih =>
    obtain ⟨hp, hps⟩ := List.forall_mem_cons.1 hpart
    cases ps with
    | nil => exact hp
    | cons q qs =>
      rw [join_cons_cons, dotted_cons (List.cons_ne_nil q qs)]
      simp only [String.toList_append, List.map_append, hp, ih hps]
      rfl

end Text

/-! ### Parts of texts -/

namespace Discovery

variable {root : Path} {ps rel : List String}

theorem normalParts_append (acc ps qs : List String) :
    normalParts acc (ps ++ qs) = normalParts (normalParts acc ps) qs := by
  induction ps generalizing acc with
  | nil => rfl
  | cons p ps ih =>
    rw [List.cons_append, normalParts, normalParts]
    split
    · exact ih acc
    · split
      · exact ih acc.dropLast
      · exact ih (acc ++ [p])

theorem normalParts_down (acc : List String) (h : ∀ p ∈ rel, Path.IsDown p) :
    normalParts acc rel = acc ++ rel := by
  induction rel generalizing acc with
  | nil => simp [normalParts]
  | cons p rel ih =>
    obtain ⟨hp, hrel⟩ := List.forall_mem_cons.1 h
    simp [normalParts, hp.1.ne_empty, hp.1.ne_dot, hp.2, ih _ hrel]

theorem normalParts_split_join (acc : List String) (h : ∀ p ∈ ps, Path.IsPart p) :
    normalParts acc (split '/' (join "/" ps)) = normalParts acc ps := by
  cases ps with
  | nil => rfl
  | cons p ps => rw [split_join (List.cons_ne_nil p ps) fun q hq => (h q hq).slash]

/-- Where the parts of a path begin. -/
def origin (root : String) : List String :=
  if root = "" then workingDir else []

theorem absoluteParts_text {p : Path} (hp : p.Proper) :
    absoluteParts p.text = normalParts (origin p.root) p.parts := by
  obtain ⟨root, parts⟩ := p
  obtain ⟨hroot, hparts⟩ := hp
  dsimp only at hroot hparts
  have hslash : ∀ s, absoluteParts ("/" ++ s) = normalParts [] (split '/' s) := by
    intro s
    have hstart : startsWith ("/" ++ s) "/" = true := by
      simp [startsWith, startsWithList]
    rw [absoluteParts, if_pos hstart, split_slash]
    rfl
  rcases hroot with rfl | rfl | rfl
  · cases parts with
    | nil => rfl
    | cons p ps =>
      have hp := hparts p List.mem_cons_self
      obtain ⟨c, rest, hc, hfirst⟩ := exists_first_char "/" ps hp.ne_empty
      have hne : join "/" (p :: ps) ≠ "" := by
        intro hempty
        rw [hempty] at hfirst
        cases hfirst
      have htext : Path.text ⟨"", p :: ps⟩ = join "/" (p :: ps) := by
        simp [Path.text, hne]
      have hstart : startsWith (join "/" (p :: ps)) "/" = false := by
        have hc' : ('/' == c) = false := by
          rw [beq_eq_false_iff_ne]
          rintro rfl
          exact hp.slash (List.mem_of_head? hc)
        simp [startsWith, startsWithList, hfirst, hc']
      rw [htext, absoluteParts, hstart, if_neg (by decide), normalParts_split_join _ hparts]
      rfl
  · have htext : Path.text ⟨"/", parts⟩ = "/" ++ join "/" parts := by
      simp [Path.text]
    rw [htext, hslash, normalParts_split_join _ hparts]
    rfl
  · have htext : Path.text ⟨"//", parts⟩ = "/" ++ ("/" ++ join "/" parts) := by
      rw [← String.append_assoc]
      simp [Path.text]
    rw [htext, hslash, split_slash]
    exact normalParts_split_join _ hparts

theorem commonLength_append (ps qs : List String) : commonLength ps (ps ++ qs) = ps.length := by
  induction ps with
  | nil => cases qs <;> rfl
  | cons p ps ih => simp [commonLength, ih]

/-- As seen from its base, a path below it has the parts that were put behind the base. -/
theorem relative_append (hroot : root.Proper) (hrel : ∀ p ∈ rel, Path.IsDown p) (hne : rel ≠ []) :
    relative (root.append ⟨"", rel⟩).text root.text = join "/" rel := by
  have happend : (root.append ⟨"", rel⟩).Proper := by
    refine ⟨hroot.root, fun p hp => ?_⟩
    rcases List.mem_append.1 hp with hp | hp
    · exact hroot.parts p hp
    · exact (hrel p hp).1
  have hpath : absoluteParts (root.append ⟨"", rel⟩).text = absoluteParts root.text ++ rel := by
    rw [absoluteParts_text happend, absoluteParts_text hroot]
    exact (normalParts_append _ _ _).trans (normalParts_down _ hrel)
  obtain ⟨p, ps, rfl⟩ := List.exists_cons_of_ne_nil hne
  simp only [relative, hpath, commonLength_append, Nat.sub_self, List.replicate_zero,
    List.nil_append, List.drop_left]

end Discovery

theorem Path.proper_ofText (s : String) : (Path.ofText s).Proper := by
  constructor
  · unfold Path.ofText
    dsimp only
    split
    · exact .inl rfl
    · split
      · exact .inr (.inr rfl)
      · exact .inr (.inl rfl)
  · intro p hp
    obtain ⟨hp, hkept⟩ := List.mem_filter.1 hp
    rw [Bool.and_eq_true, bne_iff_ne, bne_iff_ne] at hkept
    exact ⟨hkept.1, hkept.2, notMem_of_mem_split hp⟩

/-! ### Parts in a tree -/

namespace FileTree

variable {t t' : FileTree} {p : Path}

/-- Every part of every place is a name that a file or a directory can have. -/
def Proper (t : FileTree) : Prop :=
  ∀ e ∈ t.entries, Names e.1 ∧ ∀ s ∈ e.1, Path.IsPart s

theorem walk_parts (parts : List String) {place found : List String}
    (hw : t.walk place parts = .ok found) : ∀ s ∈ found, s ∈ place ∨ s ∈ parts := by
  induction parts generalizing place with
  | nil =>
    obtain rfl := Except.ok.inj hw
    exact fun s hs => .inl hs
  | cons part rest ih =>
    intro s hs
    obtain ⟨-, ⟨-, hw⟩ | ⟨-, -, hw⟩⟩ := walk_cons_ok.1 hw
    · exact (ih hw s hs).imp (fun hs => List.dropLast_subset _ hs) (List.mem_cons_of_mem part)
    · rcases ih hw s hs with hs | hs
      · rcases List.mem_append.1 hs with hs | hs
        · exact .inl hs
        · rw [List.mem_singleton.1 hs]
          exact .inr List.mem_cons_self
      · exact .inr (List.mem_cons_of_mem part hs)

theorem Proper.put (h : t.Proper) (hp : ∀ s ∈ p.parts, Path.IsPart s) {place : List String}
    (hl : t.locate p = .ok place) (n : Node) : (t.put place n).Proper := by
  have hnamed : (t.put place n).WellNamed :=
    WellNamed.put (fun e he => (h e he).1) (locate_names hl) n
  intro e he
  refine ⟨hnamed e he, ?_⟩
  have hget : (t.nodes.insert place n).get? e.1 = some e.2 :=
    (Ordered.get?_eq_some_iff _ _ _).2 he
  by_cases hsame : e.1 = place
  · rw [hsame]
    exact fun s hs => hp s ((walk_parts p.parts hl s hs).resolve_left List.not_mem_nil)
  · rw [Ordered.get?_insert_of_ne t.nodes n hsame] at hget
    exact (h e ((Ordered.get?_eq_some_iff _ _ _).1 hget)).2

theorem Proper.makeDir (h : t.Proper) (hp : ∀ s ∈ p.parts, Path.IsPart s)
    (hmade : t.makeDir p = .ok t') : t'.Proper := by
  obtain ⟨place, hl, -, rfl⟩ := makeDir_ok hmade
  exact h.put hp hl none

theorem Proper.writeFile {bytes : Bytes} (h : t.Proper) (hp : ∀ s ∈ p.parts, Path.IsPart s)
    (hwrote : t.writeFile p bytes = .ok t') : t'.Proper := by
  obtain ⟨place, hl, -, rfl⟩ := writeFile_ok hwrote
  exact h.put hp hl (some bytes)

/-- Trees of files that are given by their paths are proper. -/
theorem proper_ofFiles (files : List (String × Bytes)) : (ofFiles files).Proper :=
  ofFiles_keeps (Q := fun p => ∀ s ∈ p.parts, Path.IsPart s)
    (fun s => (Path.proper_ofText s).parts) (fun _ hp s hs => hp s (List.dropLast_subset _ hs))
    (fun _ _ _ ht hp hmade => ht.makeDir hp hmade)
    (fun _ _ _ _ ht hp hwrote => ht.writeFile hp hwrote)
    (fun _ he => (List.not_mem_nil he).elim) files

end FileTree

end Foundry
