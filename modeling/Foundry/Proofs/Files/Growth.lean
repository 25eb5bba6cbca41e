import Foundry.FileTree

/-!
Trees of files that grow: what lies somewhere stays there, and directories stay directories, so a
path that led somewhere still leads there.
-/

namespace Foundry.FileTree

/-- Directories are kept. -/
def KeepsDirs (t t' : FileTree) : Prop :=
  ∀ place, t.at? place = some none → t'.at? place = some none

/-- Files and directories are kept. -/
def Extends (t t' : FileTree) : Prop :=
  ∀ place n, t.at? place = some n → t'.at? place = some n

theorem Extends.refl (t : FileTree) : t.Extends t :=
  fun _ _ h => h

theorem Extends.trans {t t' t'' : FileTree} (h : t.Extends t') (h' : t'.Extends t'') :
    t.Extends t'' :=
  fun place n hn => h' place n (h place n hn)

theorem Extends.keepsDirs {t t' : FileTree} (h : t.Extends t') : t.KeepsDirs t' :=
  fun place hn => h place none hn

/-! ### One new node -/

theorem at?_put_self (t : FileTree) {place : List String} (hne : place ≠ []) (n : Node) :
    (t.put place n).at? place = some n := by
  have hfalse : place.isEmpty = false := by simpa using hne
  simp [at?, put, hfalse]

theorem at?_put_of_ne (t : FileTree) {place other : List String} (hne : other ≠ place) (n : Node) :
    (t.put place n).at? other = t.at? other := by
  unfold at? put
  split
  · rfl
  · exact Ordered.get?_insert_of_ne t.nodes n hne

theorem ne_nil_of_at? {t : FileTree} {place : List String} (h : t.at? place ≠ some none) :
    place ≠ [] := by
  rintro rfl
  exact h rfl

theorem extends_put {t : FileTree} {place : List String} (h : t.at? place = none) (n : Node) :
    t.Extends (t.put place n) := by
  intro other m hm
  have hne : other ≠ place := by
    rintro rfl
    rw [h] at hm
    cases hm
  rwa [at?_put_of_ne t hne]

theorem keepsDirs_put {t : FileTree} {place : List String} (h : t.at? place ≠ some none)
    (n : Node) : t.KeepsDirs (t.put place n) := by
  intro other hother
  have hne : other ≠ place := by
    rintro rfl
    exact h hother
  rwa [at?_put_of_ne t hne]

/-! ### Paths -/

/-- A walk goes on from a directory: up, or down to a name that is not too long. -/
theorem walk_cons_ok {t : FileTree} {place found : List String} {part : String}
    {rest : List String} :
    t.walk place (part :: rest) = .ok found ↔ t.at? place = some none ∧
      (part = ".." ∧ t.walk place.dropLast rest = .ok found ∨
        part ≠ ".." ∧ part.utf8ByteSize ≤ maxNameBytes ∧
          t.walk (place ++ [part]) rest = .ok found) := by
  rw [walk]
  cases t.at? place with
  | none => simp
  | some n =>
    cases n with
    | some bytes => simp
    | none =>
      by_cases hup : part = ".."
      · simp [hup]
      · by_cases hlong : part.utf8ByteSize > maxNameBytes
        · simp [hup, hlong, Nat.not_le_of_lt hlong]
        · simp [hup, hlong, Nat.le_of_not_lt hlong]

theorem walk_of_keepsDirs {t t' : FileTree} (h : t.KeepsDirs t') (parts : List String)
    {place found : List String} (hw : t.walk place parts = .ok found) :
    t'.walk place parts = .ok found := by
  induction parts generalizing place with
  | nil => exact hw
  | cons part rest ih =>
    rw [walk_cons_ok] at hw ⊢
    obtain ⟨hdir, hup | hdown⟩ := hw
    · exact ⟨h place hdir, .inl ⟨hup.1, ih hup.2⟩⟩
    · exact ⟨h place hdir, .inr ⟨hdown.1, hdown.2.1, ih hdown.2.2⟩⟩

theorem walk_append (t : FileTree) (place xs ys : List String) :
    t.walk place (xs ++ ys) = (t.walk place xs).bind fun found => t.walk found ys := by
  induction xs generalizing place with
  | nil => rfl
  | cons x xs ih =>
    rw [List.cons_append, walk, walk]
    cases t.at? place with
    | none => rfl
    | some n =>
      cases n with
      | some bytes => rfl
      | none =>
        dsimp only
        split
        · exact ih _
        · split
          · rfl
          · exact ih _

theorem locate_append {t : FileTree} {root : Path} {base : List String}
    (hl : t.locate root = .ok base) (rel : List String) :
    t.locate (root.append ⟨"", rel⟩) = t.walk base rel := by
  have hroot : t.walk [] root.parts = .ok base := hl
  have hparts : (root.append ⟨"", rel⟩).parts = root.parts ++ rel := rfl
  rw [locate, hparts, walk_append, hroot]
  rfl

/-- A walk without steps up ends below where it began. -/
theorem walk_down {t : FileTree} {parts : List String} (hdown : ∀ p ∈ parts, p ≠ "..")
    {place found : List String} (hw : t.walk place parts = .ok found) : found = place ++ parts := by
  induction parts generalizing place with
  | nil => simpa using (Except.ok.inj hw).symm
  | cons part rest ih =>
    obtain ⟨hpart, hrest⟩ := List.forall_mem_cons.1 hdown
    obtain ⟨-, ⟨hup, -⟩ | ⟨-, -, hw⟩⟩ := walk_cons_ok.1 hw
    · exact absurd hup hpart
    · simpa using ih hrest hw

/-! ### Making directories, writing files -/

/-- A directory that was made lies at its place, where there was nothing; nothing else changes. -/
theorem makeDir_ok {t t' : FileTree} {p : Path} (h : t.makeDir p = .ok t') :
    ∃ place, t.locate p = .ok place ∧ t.at? place = none ∧ t' = t.put place none := by
  unfold makeDir at h
  cases hl : t.locate p with
  | error problem => simp [hl] at h
  | ok place =>
    cases hn : t.at? place with
    | some n => simp [hl, hn] at h
    | none =>
      simp only [hl, hn, Except.ok.injEq] at h
      exact ⟨place, rfl, hn, h.symm⟩

theorem makeDir_extends {t t' : FileTree} {p : Path} (h : t.makeDir p = .ok t') : t.Extends t' := by
  obtain ⟨place, -, hn, rfl⟩ := makeDir_ok h
  exact extends_put hn none

/-- The files that are there when directories were made, or when that was given up. -/
def leftBy {ε : Type} : Except (ε × FileTree) FileTree → FileTree
  | .ok t => t
  | .error e => e.2

/-- The last step of making directories. -/
def settleDir (t : FileTree) (p : Path) : Except (FileFault × FileTree) FileTree :=
  match t.makeDir p with
  | .ok t => .ok t
  | .error problem => if t.isDir p then .ok t else .error (⟨problem, p.text, none⟩, t)

theorem makeDirs_of_ne_missing {t : FileTree} {p : Path} (fuel : Nat)
    (h : t.makeDir p ≠ .error .missing) : t.makeDirs (fuel + 1) p = t.settleDir p := by
  rw [makeDirs, settleDir]
  split
  · rename_i hmissing
    exact absurd hmissing h
  · rfl

theorem makeDirs_of_missing {t : FileTree} {p : Path} (fuel : Nat)
    (h : t.makeDir p = .error .missing) :
    t.makeDirs (fuel + 1) p =
      if p.parts.isEmpty then .error (⟨.missing, p.text, none⟩, t)
      else (t.makeDirs fuel p.parent).bind fun t => t.settleDir p := by
  rw [makeDirs]
  simp only [h]
  split
  · rfl
  · cases t.makeDirs fuel p.parent with
    | error e => rfl
    | ok u => rfl

/-- What making one directory keeps is kept by making many. -/
theorem makeDirs_keeps {P : FileTree → Prop} {Q : Path → Prop} (hparent : ∀ p, Q p → Q p.parent)
    (hmade : ∀ t p t', P t → Q p → makeDir t p = .ok t' → P t') (fuel : Nat) {p : Path} (hp : Q p)
    {t : FileTree} (ht : P t) : P (leftBy (t.makeDirs fuel p)) := by
  have hsettle : ∀ u p, Q p → P u → P (leftBy (settleDir u p)) := by
    intro u p hp hu
    unfold settleDir
    cases hlast : u.makeDir p with
    | ok v => exact hmade u p v hu hp hlast
    | error problem =>
      dsimp only
      split
      · exact hu
      · exact hu
  induction fuel generalizing p with
  | zero => exact ht
  | succ fuel ih =>
    by_cases hmissing : t.makeDir p = .error .missing
    · rw [makeDirs_of_missing fuel hmissing]
      split
      · exact ht
      · have habove := ih (hparent p hp)
        cases hm : t.makeDirs fuel p.parent with
        | error e =>
          rw [hm] at habove
          exact habove
        | ok u =>
          rw [hm] at habove
          exact hsettle u p hp habove
    · rw [makeDirs_of_ne_missing fuel hmissing]
      exact hsettle t p hp ht

theorem makeDirs_extends (fuel : Nat) (p : Path) (t : FileTree) :
    t.Extends (leftBy (t.makeDirs fuel p)) :=
  makeDirs_keeps (Q := fun _ => True) (fun _ _ => trivial)
    (fun _ _ _ hu _ hmade => hu.trans (makeDir_extends hmade)) fuel trivial (Extends.refl t)

/-- A file that was written lies at its place, which was no directory; nothing else changes. -/
theorem writeFile_ok {t t' : FileTree} {p : Path} {bytes : Bytes}
    (h : t.writeFile p bytes = .ok t') :
    ∃ place, t.locate p = .ok place ∧ t.at? place ≠ some none ∧ t' = t.put place (some bytes) := by
  unfold writeFile at h
  cases hl : t.locate p with
  | error problem => simp [hl] at h
  | ok place =>
    cases hn : t.at? place with
    | none =>
      simp only [hl, hn, Except.ok.injEq] at h
      exact ⟨place, rfl, by simp [hn], h.symm⟩
    | some n =>
      cases n with
      | none => simp [hl, hn] at h
      | some old =>
        simp only [hl, hn, Except.ok.injEq] at h
        exact ⟨place, rfl, by simp [hn], h.symm⟩

theorem find?_eq_some_iff {t : FileTree} {p : Path} {n : Node} :
    t.find? p = some n ↔ ∃ place, t.locate p = .ok place ∧ t.at? place = some n := by
  unfold find?
  cases t.locate p with
  | error problem => simp
  | ok place => simp

theorem isDir_iff {t : FileTree} {p : Path} :
    t.isDir p = true ↔ ∃ place, t.locate p = .ok place ∧ t.at? place = some none := by
  rw [← find?_eq_some_iff, isDir]
  rcases t.find? p with _ | _ | _ <;> simp

theorem isFile_iff {t : FileTree} {p : Path} :
    t.isFile p = true ↔ ∃ bytes, t.find? p = some (some bytes) := by
  rw [isFile]
  rcases t.find? p with _ | _ | _ <;> simp

theorem Extends.find? {t t' : FileTree} (h : t.Extends t') {p : Path} {n : Node}
    (hfind : t.find? p = some n) : t'.find? p = some n := by
  obtain ⟨place, hl, hn⟩ := find?_eq_some_iff.1 hfind
  exact find?_eq_some_iff.2 ⟨place, walk_of_keepsDirs h.keepsDirs p.parts hl, h place n hn⟩

theorem find?_writeFile {t t' : FileTree} {p : Path} {bytes : Bytes}
    (h : t.writeFile p bytes = .ok t') : t'.find? p = some (some bytes) := by
  obtain ⟨place, hl, hn, rfl⟩ := writeFile_ok h
  exact find?_eq_some_iff.2 ⟨place, walk_of_keepsDirs (keepsDirs_put hn _) p.parts hl,
    at?_put_self t (ne_nil_of_at? hn) _⟩

/-! ### Names -/

/-- Names that a file can have. -/
def Names (place : List String) : Prop :=
  ∀ part ∈ place, part ≠ ".." ∧ part.utf8ByteSize ≤ maxNameBytes

/-- Files and directories have names that they can have. -/
def WellNamed (t : FileTree) : Prop :=
  ∀ e ∈ t.entries, Names e.1

theorem walk_names {t : FileTree} (parts : List String) {place found : List String}
    (hplace : Names place) (hw : t.walk place parts = .ok found) : Names found := by
  induction parts generalizing place with
  | nil => exact Except.ok.inj hw ▸ hplace
  | cons part rest ih =>
    obtain ⟨-, ⟨-, hw⟩ | ⟨hup, hshort, hw⟩⟩ := walk_cons_ok.1 hw
    · exact ih (fun x hx => hplace x (List.dropLast_subset _ hx)) hw
    · refine ih (fun x hx => ?_) hw
      rcases List.mem_append.1 hx with hx | hx
      · exact hplace x hx
      · obtain rfl := List.mem_singleton.1 hx
        exact ⟨hup, hshort⟩

theorem WellNamed.put {t : FileTree} (h : t.WellNamed) {place : List String} (hplace : Names place)
    (n : Node) : (t.put place n).WellNamed := by
  intro e he
  have hget : (t.nodes.insert place n).get? e.1 = some e.2 :=
    (Ordered.get?_eq_some_iff _ _ _).2 he
  by_cases hsame : e.1 = place
  · rwa [hsame]
  · rw [Ordered.get?_insert_of_ne t.nodes n hsame] at hget
    exact h e ((Ordered.get?_eq_some_iff _ _ _).1 hget)

theorem locate_names {t : FileTree} {p : Path} {place : List String}
    (hl : t.locate p = .ok place) : Names place :=
  walk_names p.parts (fun _ hx => (List.not_mem_nil hx).elim) hl

theorem WellNamed.makeDir {t t' : FileTree} {p : Path} (h : t.WellNamed)
    (hmade : t.makeDir p = .ok t') : t'.WellNamed := by
  obtain ⟨place, hl, -, rfl⟩ := makeDir_ok hmade
  exact h.put (locate_names hl) none

theorem WellNamed.writeFile {t t' : FileTree} {p : Path} {bytes : Bytes} (h : t.WellNamed)
    (hwrote : t.writeFile p bytes = .ok t') : t'.WellNamed := by
  obtain ⟨place, hl, -, rfl⟩ := writeFile_ok hwrote
  exact h.put (locate_names hl) (some bytes)

/-- What making directories and writing files keeps holds of every tree of files that are given by
their paths. -/
theorem ofFiles_keeps {P : FileTree → Prop} {Q : Path → Prop} (htext : ∀ s, Q (Path.ofText s))
    (hparent : ∀ p, Q p → Q p.parent)
    (hmade : ∀ t p t', P t → Q p → makeDir t p = .ok t' → P t')
    (hwrote : ∀ t p bytes t', P t → Q p → writeFile t p bytes = .ok t' → P t')
    (hempty : P empty) (files : List (String × Bytes)) : P (ofFiles files) := by
  unfold ofFiles
  generalize empty = t at hempty
  induction files generalizing t with
  | nil => exact hempty
  | cons file files ih =>
    obtain ⟨path, bytes⟩ := file
    rw [List.foldl_cons]
    refine ih _ ?_
    dsimp only
    generalize hdir : (if Text.endsWith path "/" then Path.ofText path
      else (Path.ofText path).parent) = dir
    have hq : Q dir := by
      rw [← hdir]
      split
      · exact htext path
      · exact hparent _ (htext path)
    have hthere := makeDirs_keeps hparent hmade ((Path.ofText path).parts.length + 1) hq hempty
    generalize t.makeDirs ((Path.ofText path).parts.length + 1) dir = made at hthere ⊢
    cases made <;>
    · rw [leftBy] at hthere
      split
      · exact hthere
      · split
        · rename_i hput
          exact hwrote _ _ _ _ hthere (htext path) hput
        · exact hthere

/-- Files that are given by their paths have names. -/
theorem wellNamed_ofFiles (files : List (String × Bytes)) : (ofFiles files).WellNamed :=
  ofFiles_keeps (Q := fun _ => True) (fun _ => trivial) (fun _ _ => trivial)
    (fun _ _ _ ht _ hmade => ht.makeDir hmade) (fun _ _ _ _ ht _ hwrote => ht.writeFile hwrote)
    (fun _ he => (List.not_mem_nil he).elim) files

end Foundry.FileTree
