import Foundry.Filer.Staged
import Foundry.Proofs.Files.Writing
import Foundry.Proofs.Ordered

/-!
What the steps of a write leave when one of them is refused: new directories at most, and the
temporary file until it is removed.
-/

namespace Foundry

namespace FileTree

variable {t t' t'' : FileTree} {place temporary : List String}

/-! ### The same files -/

/-- The same files with the same bytes, whatever directories there are. -/
def SameFiles (t t' : FileTree) : Prop :=
  ∀ place bytes, t'.at? place = some (some bytes) ↔ t.at? place = some (some bytes)

theorem SameFiles.refl (t : FileTree) : t.SameFiles t :=
  fun _ _ => Iff.rfl

theorem SameFiles.trans (h : t.SameFiles t') (h' : t'.SameFiles t'') : t.SameFiles t'' :=
  fun place bytes => (h' place bytes).trans (h place bytes)

theorem sameFiles_makeDir {p : Path} (h : t.makeDir p = .ok t') : t.SameFiles t' := by
  obtain ⟨place, -, hn, rfl⟩ := makeDir_ok h
  intro other bytes
  have hroot : place ≠ [] := ne_nil_of_at? (t := t) (by simp [hn])
  by_cases hother : other = place
  · rw [hother, at?_put_self t hroot, hn]
    simp
  · rw [at?_put_of_ne t hother]

theorem at?_remove_self (t : FileTree) (hne : place ≠ []) : (t.remove place).at? place = none := by
  have hfalse : place.isEmpty = false := by simpa using hne
  simp [at?, remove, hfalse, Ordered.get?_erase]

theorem at?_remove_of_ne (t : FileTree) {other : List String} (hne : other ≠ place) :
    (t.remove place).at? other = t.at? other := by
  simp [at?, remove, Ordered.get?_erase, hne]

/-- Two trees that differ at one place only. -/
def SameBut (place : List String) (t t' : FileTree) : Prop :=
  ∀ other, other ≠ place → t'.at? other = t.at? other

theorem sameBut_put (t : FileTree) (place : List String) (n : Node) :
    SameBut place t (t.put place n) :=
  fun _ hne => at?_put_of_ne t hne n

theorem SameBut.trans (h : SameBut place t t') (h' : SameBut place t' t'') :
    SameBut place t t'' :=
  fun other hne => (h' other hne).trans (h other hne)

theorem SameBut.sameFiles_remove (h : SameBut place t t') (hfree : t.at? place = none) :
    t.SameFiles (t'.remove place) := by
  intro other bytes
  by_cases hother : other = place
  · have hroot : place ≠ [] := ne_nil_of_at? (t := t) (by simp [hfree])
    rw [hother, at?_remove_self t' hroot, hfree]
  · rw [at?_remove_of_ne t' hother, h other hother]

/-- The same files, but for what is at a place where no file was. -/
def SameFilesBut (place : List String) (t t' : FileTree) : Prop :=
  (∀ bytes, t.at? place ≠ some (some bytes)) ∧
    ∀ other ≠ place, ∀ bytes, t'.at? other = some (some bytes) ↔ t.at? other = some (some bytes)

theorem SameBut.sameFilesBut (h : SameBut place t' t'') (hfree : t'.at? place = none)
    (hsame : t.SameFiles t') : t.SameFilesBut place t'' := by
  refine ⟨fun bytes hold => ?_, fun other hother bytes => ?_⟩
  · rw [(hsame place bytes).2 hold] at hfree
    cases hfree
  · rw [h other hother]
    exact hsame other bytes

theorem keepsDirs_remove (h : t.at? place ≠ some none) : t.KeepsDirs (t.remove place) := by
  intro other hother
  have hne : other ≠ place := by
    rintro rfl
    exact h hother
  rwa [at?_remove_of_ne t hne]

theorem replace_ok {p : Path} (h : t.replace place p = .ok t') :
    ∃ target n, t.at? place = some n ∧ t.locate p = .ok target ∧ t.at? target ≠ some none ∧
      t' = (t.remove place).put target n := by
  unfold replace at h
  cases hn : t.at? place with
  | none => simp [hn] at h
  | some n =>
    cases hl : t.locate p with
    | error problem => simp [hn, hl] at h
    | ok target =>
      cases htarget : t.at? target with
      | none =>
        simp only [hn, hl, htarget, Except.ok.injEq] at h
        exact ⟨target, n, rfl, rfl, by simp [htarget], h.symm⟩
      | some old =>
        cases old with
        | none => simp [hn, hl, htarget] at h
        | some bytes =>
          simp only [hn, hl, htarget, Except.ok.injEq] at h
          exact ⟨target, n, rfl, rfl, by simp [htarget], h.symm⟩

/-- A new file that was moved over the one at a path. -/
theorem moved_over {p : Path} {bytes : Bytes} (hbut : SameBut temporary t t')
    (hfree : t.at? temporary = none) (hfilled : t'.at? temporary = some (some bytes))
    (hl : t'.locate p = .ok place) (hdir : t'.at? place ≠ some none) :
    let moved := (t'.remove temporary).put place (some bytes)
    moved.locate p = .ok place ∧ moved.at? place = some (some bytes) ∧
      ∀ other ≠ place, ∀ old,
        moved.at? other = some (some old) ↔ t.at? other = some (some old) := by
  have htemporary : temporary ≠ [] := ne_nil_of_at? (t := t) (by simp [hfree])
  have hdir' : (t'.remove temporary).at? place ≠ some none := by
    by_cases hsame : place = temporary
    · rw [hsame, at?_remove_self t' htemporary]
      simp
    · rwa [at?_remove_of_ne t' hsame]
  have hdirs : t'.KeepsDirs ((t'.remove temporary).put place (some bytes)) :=
    fun other hother =>
      keepsDirs_put hdir' _ other (keepsDirs_remove (by simp [hfilled]) other hother)
  refine ⟨walk_of_keepsDirs hdirs p.parts hl, at?_put_self _ (ne_nil_of_at? hdir) _, ?_⟩
  intro other hother old
  rw [at?_put_of_ne _ hother]
  exact hbut.sameFiles_remove hfree other old

end FileTree

namespace Outside

open FileTree

variable {o : Outside} {t t' : FileTree} {p : Path}

/-! ### Steps of a write -/

theorem makeDir_sameFiles {again : Bool} (h : o.makeDir again t p = .ok t') : t.SameFiles t' := by
  unfold makeDir at h
  cases hm : o.mkdir p again with
  | some r => simp [hm] at h
  | none =>
    cases hd : t.makeDir p with
    | error problem => cases problem <;> simp [hm, hd] at h
    | ok u =>
      simp only [hm, hd, Except.ok.injEq] at h
      exact h ▸ sameFiles_makeDir hd

theorem settle_same {again : Bool} {reason : String} :
    (∀ u, o.settle again t p reason = .ok u → u = t) ∧
      ∀ e, o.settle again t p reason = .error e → e.2 = t := by
  unfold settle
  cases o.stat p again with
  | some r =>
    constructor
    · intro u hu
      cases hu
    · intro e he
      cases he
      rfl
  | none =>
    by_cases hdir : t.isDir p = true
    · simp [hdir]
    · simp [hdir]

theorem leftBy_settle {again : Bool} {reason : String} :
    leftBy (o.settle again t p reason) = t := by
  cases hs : o.settle again t p reason with
  | ok u => exact settle_same.1 u hs
  | error e => exact settle_same.2 e hs

theorem makeDirs_sameFiles (fuel : Nat) (p : Path) (t : FileTree) :
    t.SameFiles (leftBy (o.makeDirs t fuel p)) := by
  induction fuel generalizing p with
  | zero => exact SameFiles.refl t
  | succ fuel ih =>
    rw [makeDirs]
    split
    · rename_i u hu
      exact makeDir_sameFiles hu
    · rw [leftBy_settle]
      exact SameFiles.refl t
    · split
      · exact SameFiles.refl t
      · have habove := ih p.parent
        cases hm : o.makeDirs t fuel p.parent with
        | error e =>
          rw [hm] at habove
          exact habove
        | ok u =>
          rw [hm] at habove
          dsimp only
          split
          · rename_i u' hu'
            exact habove.trans (makeDir_sameFiles hu')
          · rw [leftBy_settle]
            exact habove
          · exact habove

theorem createTemporary_free {draws : List String} {temporary : List String}
    (h : o.createTemporary p t draws = .ok temporary) : t.at? temporary = none := by
  induction draws with
  | nil => cases h
  | cons drawn rest ih =>
    rw [createTemporary] at h
    split at h
    · cases h
    · split at h
      · exact ih h
      · cases h
      · rename_i hfree _
        cases h
        exact hfree

/-- What a refused replacement leaves differs at the temporary file only; one that went well put the
encoded text at the path. -/
theorem fillTemporary_cases (o : Outside) (codec : Except Text.NoCodec Text.Codec) (p : Path)
    (text : String) {temporary : List String} (hne : temporary ≠ []) (t : FileTree) :
    (∃ e t', o.fillTemporary codec p text temporary t = .error (e, t') ∧
      SameBut temporary t t' ∧
      (e.IsWriteFailure ∨ Filer.encodeAs codec text = .error e)) ∨
    ∃ bytes place, o.fillTemporary codec p text temporary t =
        .ok (((t.put temporary (some bytes)).remove temporary).put place (some bytes)) ∧
      Filer.encodeAs codec text = .ok bytes ∧
      (t.put temporary (some bytes)).locate p = .ok place ∧
      (t.put temporary (some bytes)).at? place ≠ some none := by
  have hself : SameBut temporary t t := fun _ _ => rfl
  have hput : ∀ n, SameBut temporary t (t.put temporary n) := sameBut_put t temporary
  unfold fillTemporary Filer.encodeAs
  cases o.opening with
  | some reason => exact .inl ⟨_, t, rfl, hself, .inl ⟨_, rfl, rfl⟩⟩
  | none =>
    cases codec with
    | error missing => exact .inl ⟨_, t, rfl, hself, .inr rfl⟩
    | ok k =>
      cases he : k.encode text with
      | error c =>
        simp only [he]
        cases o.close with
        | some reason => exact .inl ⟨_, t, rfl, hself, .inl ⟨_, rfl, rfl⟩⟩
        | none => exact .inl ⟨_, t, rfl, hself, .inr rfl⟩
      | ok bytes =>
        simp only [he]
        cases o.fill with
        | some filled => exact .inl ⟨_, _, rfl, hput _, .inl ⟨_, rfl, rfl⟩⟩
        | none =>
          cases o.close.or o.replace with
          | some reason => exact .inl ⟨_, _, rfl, hput _, .inl ⟨_, rfl, rfl⟩⟩
          | none =>
            cases hreplace : (t.put temporary (some bytes)).replace temporary p with
            | error problem => exact .inl ⟨_, _, rfl, hput _, .inl ⟨_, rfl, rfl⟩⟩
            | ok u =>
              obtain ⟨place, n, hn, hl, hdir, rfl⟩ := replace_ok hreplace
              rw [at?_put_self t hne] at hn
              cases hn
              exact .inr ⟨bytes, place, rfl, rfl, hl, hdir⟩

/-- What comes of a write: a refusal that leaves all files as they were, one that leaves the
temporary file, whose removal was refused as well, or the whole file at its path. -/
theorem place_cases (o : Outside) (codec : Except Text.NoCodec Text.Codec) (p : Path)
    (text : String) (t : FileTree) :
    (∃ e t', o.place codec p text t = (.error e, t') ∧ t.SameFiles t' ∧
      (e.IsWriteFailure ∨ Filer.encodeAs codec text = .error e)) ∨
    (∃ reason temporary t',
      o.place codec p text t = (.error (.rejected (.notWritten p reason)), t') ∧
      o.removal = some reason ∧ t.SameFilesBut temporary t') ∨
    ∃ t' bytes place, o.place codec p text t = (.ok (), t') ∧
      Filer.encodeAs codec text = .ok bytes ∧ t'.locate p = .ok place ∧
      t'.at? place = some (some bytes) ∧
      ∀ other ≠ place, ∀ bytes, t'.at? other = some (some bytes) ↔ t.at? other = some (some bytes) := by
  have hdirs := makeDirs_sameFiles (o := o) (p.parts.length + 1) p.parent t
  unfold place
  cases hm : o.makeDirs t (p.parts.length + 1) p.parent with
  | error e =>
    rw [hm] at hdirs
    exact .inl ⟨_, e.2, rfl, hdirs, .inl ⟨_, rfl, rfl⟩⟩
  | ok u =>
    rw [hm] at hdirs
    dsimp only [leftBy] at hdirs ⊢
    cases hc : o.createTemporary p u o.draws with
    | error reason => exact .inl ⟨_, u, rfl, hdirs, .inl ⟨_, rfl, rfl⟩⟩
    | ok temporary =>
      have hfree := createTemporary_free hc
      have hne : temporary ≠ [] := ne_nil_of_at? (t := u) (by simp [hfree])
      dsimp only
      rcases fillTemporary_cases o codec p text hne (u.put temporary (some [])) with
        ⟨e, u', hfill, hbut, he⟩ | ⟨bytes, place, hfill, hencode, hl, hdir⟩
      · have hsince : SameBut temporary u u' := (sameBut_put u temporary _).trans hbut
        rw [hfill]
        dsimp only
        cases hr : o.removal with
        | none =>
          have hremoved : t.SameFiles (u'.remove temporary) :=
            hdirs.trans (hsince.sameFiles_remove hfree)
          exact .inl ⟨e, _, rfl, hremoved, he⟩
        | some reason =>
          exact .inr (.inl ⟨reason, temporary, u', rfl, rfl, hsince.sameFilesBut hfree hdirs⟩)
      · have hsince := (sameBut_put u temporary (some [])).trans
          (sameBut_put _ temporary (some bytes))
        obtain ⟨hplace, hself, hothers⟩ :=
          moved_over hsince hfree (at?_put_self _ hne _) hl hdir
        refine .inr (.inr ⟨_, bytes, place, by rw [hfill], hencode, hplace, hself, ?_⟩)
        intro other hother old
        exact (hothers other hother old).trans (hdirs other old)

end Outside

end Foundry
