import Mathlib.Data.List.Infix
import Foundry.Proofs.Files.Writing
import Foundry.Proofs.Ordered

/-!
Trees that lack some files of another one. As long as none of the missing files lies where modules
are written or above it, modules are written alike to both.
-/

namespace Foundry

namespace FileTree

open Text

variable {old t t' : FileTree} {gone : List (List String)} {p : Path} {q : List String}

/-- A tree without what lies at some places. -/
def without (t : FileTree) (gone : List (List String)) : FileTree :=
  ⟨t.nodes.filterMap fun q n => if q ∈ gone then none else some n⟩

/-- Only missing files tell the trees apart, and they are as they were in an older tree. -/
def Lacks (old : FileTree) (gone : List (List String)) (t t' : FileTree) : Prop :=
  ∀ q, t'.at? q = t.at? q ∨ q ∈ gone ∧ t'.at? q = none ∧ t.at? q = old.at? q

/-- Every place is one of a file. -/
def AllFiles (t : FileTree) (gone : List (List String)) : Prop :=
  ∀ q ∈ gone, ∃ bytes, t.at? q = some (some bytes)

theorem lacks_without (t : FileTree) (h : t.AllFiles gone) : Lacks t gone t (t.without gone) := by
  intro q
  by_cases hq : q ∈ gone
  · obtain ⟨bytes, hbytes⟩ := h q hq
    have hne : q ≠ [] := ne_nil_of_at? (t := t) (by simp [hbytes])
    have hfalse : q.isEmpty = false := by simpa using hne
    refine .inr ⟨hq, ?_, rfl⟩
    simp only [at?, without, hfalse, Ordered.get?_filterMap, if_pos hq, Option.bind_fun_none]
    rfl
  · refine .inl ?_
    simp only [at?, without, Ordered.get?_filterMap, if_neg hq, Option.bind_fun_some]

theorem Lacks.at?_eq (h : Lacks old gone t t') (hq : q ∉ gone) : t'.at? q = t.at? q :=
  (h q).resolve_right fun hgone => hq hgone.1

theorem Lacks.isDir_iff (hold : old.AllFiles gone) (h : Lacks old gone t t') :
    t'.at? q = some none ↔ t.at? q = some none := by
  rcases h q with hsame | ⟨hq, hnone, hfile⟩
  · rw [hsame]
  · obtain ⟨bytes, hbytes⟩ := hold q hq
    rw [hnone, hfile, hbytes]
    simp

theorem Lacks.put (h : Lacks old gone t t') (q : List String) (n : Node) :
    Lacks old gone (t.put q n) (t'.put q n) := by
  intro other
  by_cases hother : other = q
  · subst hother
    by_cases hne : other = []
    · subst hne
      exact .inl rfl
    · rw [at?_put_self t hne, at?_put_self t' hne]
      exact .inl rfl
  · rw [at?_put_of_ne t hother, at?_put_of_ne t' hother]
    exact h other

/-! ### Paths -/

/-- One part further. -/
def advance (place : List String) (part : String) : List String :=
  if part = ".." then place.dropLast else place ++ [part]

/-- Where the parts of a path lead, if there are directories all the way. -/
def reach (parts : List String) : List String :=
  parts.foldl advance []

/-- No place of a list lies on the way along a path or at its end. -/
def Clear (gone : List (List String)) (parts : List String) : Prop :=
  ∀ taken, taken <+: parts → reach taken ∉ gone

instance (gone : List (List String)) (parts : List String) : Decidable (Clear gone parts) :=
  decidable_of_iff (∀ taken ∈ parts.inits, reach taken ∉ gone)
    (forall_congr' fun _ => by rw [List.mem_inits])

theorem walk_cons (t : FileTree) (place : List String) (part : String) (rest : List String) :
    t.walk place (part :: rest) =
      match t.at? place with
      | none => .error .missing
      | some (some _) => .error .notDirectory
      | some none =>
        if part ≠ ".." ∧ part.utf8ByteSize > maxNameBytes then .error .nameTooLong
        else t.walk (advance place part) rest := by
  rw [walk, advance]
  cases t.at? place with
  | none => rfl
  | some n =>
    cases n with
    | some bytes => rfl
    | none => by_cases hup : part = ".." <;> simp [hup]

theorem walk_congr (parts : List String) {place : List String}
    (h : ∀ taken, taken <+: parts → t'.at? (taken.foldl advance place) =
      t.at? (taken.foldl advance place)) : t'.walk place parts = t.walk place parts := by
  induction parts generalizing place with
  | nil => rfl
  | cons part rest ih =>
    have hhere : t'.at? place = t.at? place := h [] (List.nil_prefix)
    have hrest : t'.walk (advance place part) rest = t.walk (advance place part) rest :=
      ih fun taken htaken => h (part :: taken) (List.cons_prefix_cons.2 ⟨rfl, htaken⟩)
    rw [walk_cons, walk_cons, hhere, hrest]

theorem walk_eq_foldl {parts place found : List String} (h : t.walk place parts = .ok found) :
    found = parts.foldl advance place := by
  induction parts generalizing place with
  | nil => exact (Except.ok.inj h).symm
  | cons part rest ih =>
    rw [List.foldl_cons, advance]
    obtain ⟨-, ⟨hup, h⟩ | ⟨hup, -, h⟩⟩ := walk_cons_ok.1 h
    · rw [if_pos hup]
      exact ih h
    · rw [if_neg hup]
      exact ih h

theorem locate_eq_reach (h : t.locate p = .ok q) : q = reach p.parts :=
  walk_eq_foldl h

theorem Clear.of_prefix {parts parts' : List String} (h : Clear gone parts)
    (hstart : parts' <+: parts) : Clear gone parts' :=
  fun taken htaken => h taken (htaken.trans hstart)

theorem Clear.parent (h : Clear gone p.parts) : Clear gone p.parent.parts :=
  h.of_prefix (List.dropLast_prefix _)

theorem reach_append_down {xs ys : List String} (hdown : ∀ y ∈ ys, y ≠ "..") :
    reach (xs ++ ys) = reach xs ++ ys := by
  induction ys generalizing xs with
  | nil => simp
  | cons y ys ih =>
    obtain ⟨hy, hys⟩ := List.forall_mem_cons.1 hdown
    have hstep : reach (xs ++ [y]) = reach xs ++ [y] := by
      simp [reach, List.foldl_append, advance, hy]
    rw [List.append_cons, ih hys, hstep, List.append_assoc, List.singleton_append]

/-- On the way along a path with more parts, what is not passed on the way along the path itself
lies below its end. -/
theorem reach_of_prefix {xs ys taken : List String} (hdown : ∀ y ∈ ys, y ≠ "..")
    (h : taken <+: xs ++ ys) :
    taken <+: xs ∨ ∃ init, ∃ y ∈ ys, reach taken = reach xs ++ (init ++ [y]) := by
  rcases List.prefix_or_prefix_of_prefix h (List.prefix_append xs ys) with hbefore | ⟨zs, rfl⟩
  · exact .inl hbefore
  · have hzs : zs <+: ys := (List.prefix_append_right_inj xs).1 h
    rcases List.eq_nil_or_concat' zs with rfl | ⟨init, y, rfl⟩
    · exact .inl (by rw [List.append_nil])
    · exact .inr ⟨init, y, hzs.subset (by simp),
        reach_append_down fun z hz => hdown z (hzs.subset hz)⟩

/-- The places are those of files with the extension of sources. -/
def SourceNamed (gone : List (List String)) : Prop :=
  ∀ q ∈ gone, endsWith (q.getLastD "") ".py" = true

theorem Clear.append_down {xs ys : List String} (h : Clear gone xs) (hnamed : SourceNamed gone)
    (hys : ∀ y ∈ ys, y ≠ ".." ∧ endsWith y ".py" = false) : Clear gone (xs ++ ys) := by
  intro taken htaken hgone
  rcases reach_of_prefix (fun y hy => (hys y hy).1) htaken with hbefore | ⟨init, y, hy, hreach⟩
  · exact h taken hbefore hgone
  · have hpy := hnamed _ hgone
    rw [hreach, ← List.append_assoc, List.getLastD_concat, (hys y hy).2] at hpy
    cases hpy

theorem Lacks.locate_eq (h : Lacks old gone t t') (hclear : Clear gone p.parts) :
    t'.locate p = t.locate p :=
  walk_congr p.parts fun taken htaken => h.at?_eq (hclear taken htaken)

theorem Lacks.at?_locate (h : Lacks old gone t t') (hclear : Clear gone p.parts)
    (hl : t.locate p = .ok q) : t'.at? q = t.at? q :=
  h.at?_eq (locate_eq_reach hl ▸ hclear p.parts List.prefix_rfl)

theorem Lacks.isDir_eq (h : Lacks old gone t t') (hclear : Clear gone p.parts) :
    t'.isDir p = t.isDir p := by
  unfold isDir find?
  rw [h.locate_eq hclear]
  cases hl : t.locate p with
  | error problem => rfl
  | ok place => simp only [h.at?_locate hclear hl]

/-- Both trees have the same directories, and the same paths lead there. -/
theorem Lacks.dir_iff (hold : old.AllFiles gone) (h : Lacks old gone t t') :
    (t'.locate p = .ok q ∧ t'.at? q = some none) ↔ t.locate p = .ok q ∧ t.at? q = some none := by
  have hto : t.KeepsDirs t' := fun _ hdir => (h.isDir_iff hold).2 hdir
  have hback : t'.KeepsDirs t := fun _ hdir => (h.isDir_iff hold).1 hdir
  exact ⟨fun hd => ⟨walk_of_keepsDirs hback p.parts hd.1, hback q hd.2⟩,
    fun hd => ⟨walk_of_keepsDirs hto p.parts hd.1, hto q hd.2⟩⟩

theorem Lacks.locate_file (h : Lacks old gone t t')
    (hparts : p.parts ≠ []) (hclear : Clear gone p.parent.parts) : t'.locate p = t.locate p := by
  have hcut : p.parts = p.parent.parts ++ [p.name] := by
    simp only [Path.parent, Path.name, List.getLastD_eq_getLast?,
      List.getLast?_eq_some_getLast hparts, Option.getD_some, List.dropLast_append_getLast]
  have habove : t'.walk [] p.parent.parts = t.walk [] p.parent.parts := h.locate_eq hclear
  rw [locate, locate, hcut, walk_append, walk_append, habove]
  cases hl : t.walk [] p.parent.parts with
  | error problem => rfl
  | ok dir =>
    have hdir : t'.at? dir = t.at? dir := h.at?_locate hclear hl
    simp only [Except.bind, walk, hdir]

/-! ### Making directories, writing files -/

/-- Outcomes on trees that only missing files tell apart. -/
inductive Beside (old : FileTree) (gone : List (List String)) :
    Except FileProblem FileTree → Except FileProblem FileTree → Prop
  | error (problem : FileProblem) : Beside old gone (.error problem) (.error problem)
  | ok {t t' : FileTree} : Lacks old gone t t' → Beside old gone (.ok t) (.ok t')

theorem Lacks.makeDir (h : Lacks old gone t t') (hclear : Clear gone p.parts) :
    Beside old gone (t.makeDir p) (t'.makeDir p) := by
  unfold FileTree.makeDir
  rw [h.locate_eq hclear]
  cases hl : t.locate p with
  | error problem => exact .error problem
  | ok place =>
    simp only [h.at?_locate hclear hl]
    cases t.at? place with
    | some n => exact .error _
    | none => exact .ok (h.put place none)

/-- Outcomes that come with the files as they are then. -/
inductive BesideAll (old : FileTree) (gone : List (List String)) :
    Except (FileFault × FileTree) FileTree → Except (FileFault × FileTree) FileTree → Prop
  | error {t t' : FileTree} (f : FileFault) : Lacks old gone t t' →
    BesideAll old gone (.error (f, t)) (.error (f, t'))
  | ok {t t' : FileTree} : Lacks old gone t t' → BesideAll old gone (.ok t) (.ok t')

theorem Lacks.settleDir (h : Lacks old gone t t') (hclear : Clear gone p.parts) :
    BesideAll old gone (t.settleDir p) (t'.settleDir p) := by
  have hmade := h.makeDir hclear
  unfold FileTree.settleDir
  rw [h.isDir_eq hclear]
  generalize t.makeDir p = made at hmade
  generalize t'.makeDir p = made' at hmade
  cases hmade with
  | ok hu => exact .ok hu
  | error problem =>
    dsimp only
    split
    · exact .ok h
    · exact .error _ h

theorem Lacks.missing_iff (h : Lacks old gone t t') (hclear : Clear gone p.parts) :
    t'.makeDir p = .error .missing ↔ t.makeDir p = .error .missing := by
  have hmade := h.makeDir hclear
  generalize t.makeDir p = made at hmade
  generalize t'.makeDir p = made' at hmade
  cases hmade with
  | ok _ => simp
  | error problem => rfl

theorem Lacks.makeDirs (h : Lacks old gone t t') (fuel : Nat) (hclear : Clear gone p.parts) :
    BesideAll old gone (t.makeDirs fuel p) (t'.makeDirs fuel p) := by
  induction fuel generalizing p with
  | zero => exact .error _ h
  | succ fuel ih =>
    by_cases hmissing : t.makeDir p = .error .missing
    · rw [makeDirs_of_missing fuel hmissing,
        makeDirs_of_missing fuel ((h.missing_iff hclear).2 hmissing)]
      split
      · exact .error _ h
      · have habove := ih hclear.parent
        generalize t.makeDirs fuel p.parent = above at habove
        generalize t'.makeDirs fuel p.parent = above' at habove
        cases habove with
        | error f hu => exact .error f hu
        | ok hu => exact hu.settleDir hclear
    · rw [makeDirs_of_ne_missing fuel hmissing,
        makeDirs_of_ne_missing fuel fun hm => hmissing ((h.missing_iff hclear).1 hm)]
      exact h.settleDir hclear

/-- A path that leads to no directory takes a file. -/
theorem writeFile_of_notDir {bytes : Bytes} (hl : t.locate p = .ok q)
    (hdir : t.at? q ≠ some none) : t.writeFile p bytes = .ok (t.put q (some bytes)) := by
  unfold FileTree.writeFile
  rw [hl]
  dsimp only
  split
  · rename_i hd
    exact absurd hd hdir
  · rfl

theorem Lacks.writeFile (hold : old.AllFiles gone) (h : Lacks old gone t t')
    (hparts : p.parts ≠ []) (hclear : Clear gone p.parent.parts) (bytes : Bytes) :
    Beside old gone (t.writeFile p bytes) (t'.writeFile p bytes) := by
  have hsame := h.locate_file hparts hclear
  cases hl : t.locate p with
  | error problem =>
    simp only [FileTree.writeFile, hsame, hl]
    exact .error problem
  | ok place =>
    by_cases hdir : t.at? place = some none
    · simp only [FileTree.writeFile, hsame, hl, hdir, (h.isDir_iff hold).2 hdir]
      exact .error _
    · rw [writeFile_of_notDir hl hdir, writeFile_of_notDir (hsame.trans hl)
        fun hd => hdir ((h.isDir_iff hold).1 hd)]
      exact .ok (h.put place (some bytes))

end FileTree

namespace Filer

open Text FileTree

variable {old t t' : FileTree} {gone : List (List String)} {f : Filer} {p : Path}

/-- Names of modules have no dots within their segments. -/
theorem segment_not_source {m y : String} (hy : y ∈ segments m) : endsWith y ".py" = false := by
  obtain ⟨cs, hcs, rfl⟩ := List.mem_map.1 hy
  have hdot := notMem_of_mem_splitList hcs
  refine Bool.eq_false_iff.2 fun hends => hdot ?_
  have hdotted : '.' ∈ (".py" : String).toList.reverse := by decide
  have hmem := mem_of_startsWithList hends hdotted
  rwa [String.toList_ofList, List.mem_reverse] at hmem

/-- Putting a text at a path, on trees that only missing files tell apart. -/
theorem place_beside (hold : old.AllFiles gone) (h : Lacks old gone t t')
    (hparts : p.parts ≠ []) (hclear : Clear gone p.parent.parts)
    (codec : Except Text.NoCodec Text.Codec) (text : String) :
    (place codec p text t').1 = (place codec p text t).1 ∧
      Lacks old gone (place codec p text t).2 (place codec p text t').2 := by
  have hdirs := h.makeDirs (p.parts.length + 1) hclear
  unfold place
  generalize t.makeDirs (p.parts.length + 1) p.parent = made at hdirs
  generalize t'.makeDirs (p.parts.length + 1) p.parent = made' at hdirs
  cases hdirs with
  | error e hu => exact ⟨rfl, hu⟩
  | @ok u u' hu =>
    dsimp only
    split
    · exact ⟨rfl, hu⟩
    · cases encodeAs codec text with
      | error e => exact ⟨rfl, hu⟩
      | ok bytes =>
        have hwrite := hu.writeFile hold hparts hclear bytes
        dsimp only
        generalize u.writeFile p bytes = wrote at hwrite
        generalize u'.writeFile p bytes = wrote' at hwrite
        cases hwrite with
        | error problem => exact ⟨rfl, hu⟩
        | ok hv => exact ⟨rfl, hv⟩

theorem outputDir_write (f : Filer) (module text : String) (t : FileTree) :
    (f.write module text t).2.1.outputDir = f.outputDir := by
  have hreset := congrArg outputDir (write_writes f module text t).reset
  exact hreset

theorem write_beside (hold : old.AllFiles gone) (hnamed : SourceNamed gone)
    (hclear : Clear gone f.outputDir.parts) (h : Lacks old gone t t') (module text : String) :
    (f.write module text t').1 = (f.write module text t).1 ∧
      (f.write module text t').2.1 = (f.write module text t).2.1 ∧
      Lacks old gone (f.write module text t).2.2 (f.write module text t').2.2 := by
  unfold write
  cases hp : f.pathFor module with
  | error r => exact ⟨rfl, rfl, h⟩
  | ok p =>
    dsimp only
    split
    · exact ⟨rfl, rfl, h⟩
    · obtain ⟨hdotted, rfl⟩ := pathFor_ok hp
      have hparent : Clear gone (f.outputDir.parts ++ (segments module).dropLast) := by
        refine hclear.append_down hnamed fun y hy => ⟨?_, ?_⟩
        · exact partsOf_ne_up hdotted y (List.mem_append_left _ hy)
        · exact segment_not_source (List.dropLast_subset _ hy)
      have hplace := place_beside hold h (p := ⟨f.outputDir.root, f.outputDir.parts ++ partsOf module⟩)
        (by simp [partsOf]) (by simpa [Path.parent, partsOf, ← List.append_assoc] using hparent)
        f.codec text
      revert hplace
      generalize place f.codec _ text t = out
      generalize place f.codec _ text t' = out'
      obtain ⟨r, u⟩ := out
      obtain ⟨r', u'⟩ := out'
      rintro ⟨hr, hu⟩
      dsimp only at hr hu
      subst hr
      cases r' with
      | error e => exact ⟨rfl, rfl, hu⟩
      | ok _ => exact ⟨rfl, rfl, hu⟩

end Filer

end Foundry
