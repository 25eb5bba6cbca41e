import Foundry.Proofs.Files.Staging

/-!
When nothing is refused and the name drawn for the temporary file is free, writing step by step comes
to the same as writing at once.
-/

namespace Foundry

namespace FileTree

variable {t t' : FileTree} {p : Path} {place temporary : List String} {n : Node}

/-! ### A temporary file -/

theorem remove_put (hfree : t.at? place = none) : (t.put place n).remove place = t := by
  have hne : place ≠ [] := ne_nil_of_at? (t := t) (by simp [hfree])
  have hget : t.nodes.get? place = none := by
    have hfalse : place.isEmpty = false := by simpa using hne
    simpa [at?, hfalse] using hfree
  exact congrArg FileTree.mk (Ordered.erase_insert_of_get?_none hget n)

theorem put_put (t : FileTree) (place : List String) (n n' : Node) :
    (t.put place n).put place n' = t.put place n' :=
  congrArg FileTree.mk (Ordered.insert_insert_self t.nodes place n n')

/-- Below a directory the last part of a path leads where its name says. -/
theorem locate_of_parent {dir : List String} (hparts : p.parts ≠ [])
    (hl : t.locate p.parent = .ok dir) (hdir : t.at? dir = some none) :
    t.locate p =
      if p.name = ".." then .ok dir.dropLast
      else if p.name.utf8ByteSize > maxNameBytes then .error .nameTooLong
      else .ok (dir ++ [p.name]) := by
  have hcut : p.parts = p.parent.parts ++ [p.name] := by
    simp only [Path.parent, Path.name, List.getLastD_eq_getLast?,
      List.getLast?_eq_some_getLast hparts, Option.getD_some, List.dropLast_append_getLast]
  rw [locate, hcut, walk_append]
  have hl' : t.walk [] p.parent.parts = .ok dir := hl
  rw [hl', Except.bind, walk, hdir]
  rfl

theorem makeDir_isDir (h : t.makeDir p = .ok t') : t'.isDir p = true := by
  obtain ⟨place, hl, hn, rfl⟩ := makeDir_ok h
  have hkept := walk_of_keepsDirs (extends_put hn none).keepsDirs p.parts hl
  have hroot : place ≠ [] := ne_nil_of_at? (t := t) (by simp [hn])
  exact isDir_iff.2 ⟨place, hkept, at?_put_self t hroot none⟩

theorem settleDir_isDir (h : t.settleDir p = .ok t') : t'.isDir p = true := by
  unfold settleDir at h
  split at h
  · rename_i hmade
    cases h
    exact makeDir_isDir hmade
  · split at h
    · rename_i hdir
      cases h
      exact hdir
    · cases h

theorem makeDirs_isDir {fuel : Nat} (h : t.makeDirs fuel p = .ok t') : t'.isDir p = true := by
  cases fuel with
  | zero => cases h
  | succ fuel =>
    by_cases hmissing : t.makeDir p = .error .missing
    · rw [makeDirs_of_missing fuel hmissing] at h
      split at h
      · cases h
      · cases hm : t.makeDirs fuel p.parent with
        | error e => simp [hm, Except.bind] at h
        | ok u =>
          rw [hm] at h
          exact settleDir_isDir h
    · rw [makeDirs_of_ne_missing fuel hmissing] at h
      exact settleDir_isDir h

end FileTree

namespace Outside

open FileTree

variable {t t' : FileTree} {p : Path} {drawn : String}

/-! ### Steps that nothing refuses -/

theorem missing_notDir (h : t.makeDir p = .error .missing) : t.isDir p = false := by
  unfold FileTree.makeDir at h
  cases hl : t.locate p with
  | ok place => cases hn : t.at? place <;> simp [hl, hn] at h
  | error problem => simp [isDir, find?, hl]

/-- The message of a fault, beside the files as they are then. -/
def told (e : FileFault × FileTree) : String × FileTree :=
  (e.1.message, e.2)

theorem makeDir_calm_missing (drawn : String) (again : Bool) :
    (calm drawn).makeDir again t p = .error .missing ↔ t.makeDir p = .error .missing := by
  unfold Outside.makeDir calm
  rcases t.makeDir p with problem | u
  · cases problem <;> simp
  · simp

theorem settleDir_calm (drawn : String) (again : Bool) (p : Path) (u : FileTree) :
    (match (calm drawn).makeDir again u p with
      | .ok t => .ok t
      | .error (.other reason) => (calm drawn).settle again u p reason
      | .error .missing => .error (missingMessage p, u)) = (u.settleDir p).mapError told := by
  unfold settleDir
  cases hmade : u.makeDir p with
  | ok u' => simp [Outside.makeDir, calm, hmade, Except.mapError]
  | error problem =>
    cases hdir : u.isDir p with
    | true =>
      have hthere : problem ≠ .missing := by
        rintro rfl
        rw [missing_notDir hmade] at hdir
        cases hdir
      cases problem <;> simp_all [Outside.makeDir, calm, settle, Except.mapError]
    | false =>
      cases problem <;>
        simp [Outside.makeDir, calm, settle, hmade, hdir, Except.mapError, told, missingMessage]

theorem makeDirs_calm (drawn : String) (fuel : Nat) (p : Path) (t : FileTree) :
    (calm drawn).makeDirs t fuel p = (t.makeDirs fuel p).mapError told := by
  induction fuel generalizing p with
  | zero => rfl
  | succ fuel ih =>
    rw [makeDirs]
    by_cases hmissing : t.makeDir p = .error .missing
    · rw [makeDirs_of_missing fuel hmissing]
      simp only [(makeDir_calm_missing drawn false).2 hmissing, ih]
      split
      · rfl
      · cases t.makeDirs fuel p.parent with
        | error e => rfl
        | ok u => exact settleDir_calm drawn true p u
    · rw [makeDirs_of_ne_missing fuel hmissing, ← settleDir_calm drawn false p t]
      rcases hcalm : (calm drawn).makeDir false t p with (_ | reason) | u
      · exact absurd ((makeDir_calm_missing drawn false).1 hcalm) hmissing
      · rfl
      · rfl

/-! ### The whole write -/

theorem size_drawnName (p : Path) (hdrawn : drawn.utf8ByteSize = 8) :
    (Filer.drawnName p drawn).utf8ByteSize =
      (Filer.temporaryName p).utf8ByteSize + Filer.temporarySlack := by
  have hstand : (".<tmp>.tmp" : String).utf8ByteSize = 10 := by decide
  have hdot : ("." : String).utf8ByteSize = 1 := by decide
  have htmp : (".tmp" : String).utf8ByteSize = 4 := by decide
  simp only [Filer.drawnName, Filer.temporaryName, Filer.temporarySlack, String.utf8ByteSize_append,
    hstand, hdot, htmp, hdrawn]

theorem name_child (p : Path) (name : String) : (p.child name).name = name := by
  simp [Path.child, Path.name]

/-- Replacing the file at a path by a temporary one comes to writing it. -/
theorem replace_eq_writeFile {dir temporary : List String} {bytes : Bytes} (hparts : p.parts ≠ [])
    (hl : t.locate p.parent = .ok dir) (hdir : t.at? dir = some none)
    (hfree : t.at? temporary = none) :
    (t.put temporary (some bytes)).replace temporary p = t.writeFile p bytes := by
  have hne : temporary ≠ [] := ne_nil_of_at? (t := t) (by simp [hfree])
  have hext : t.Extends (t.put temporary (some bytes)) := extends_put hfree _
  have hlocate : (t.put temporary (some bytes)).locate p = t.locate p := by
    rw [locate_of_parent hparts hl hdir, locate_of_parent hparts
      (walk_of_keepsDirs hext.keepsDirs _ hl) (hext dir none hdir)]
  rw [FileTree.replace, FileTree.writeFile, at?_put_self t hne, hlocate, remove_put hfree]
  cases t.locate p with
  | error problem => rfl
  | ok place =>
    by_cases hplace : place = temporary
    · simp [hplace, at?_put_self t hne, hfree]
    · rcases hn : t.at? place with _ | _ | _ <;> simp [at?_put_of_ne t hplace, hn]

/-- The name that is drawn for the temporary file of a path is as long as such names are, and it is
not taken once the directories are there. -/
structure Usable (drawn : String) (t : FileTree) (p : Path) : Prop where
  size : drawn.utf8ByteSize = 8
  free : ∀ u, t.makeDirs (p.parts.length + 1) p.parent = .ok u →
    u.find? (p.parent.child (Filer.drawnName p drawn)) = none

theorem createTemporary_calm {dir : List String} (hsize : drawn.utf8ByteSize = 8)
    (hl : t.locate p.parent = .ok dir) (hdir : t.at? dir = some none)
    (hfree : t.find? (p.parent.child (Filer.drawnName p drawn)) = none) :
    (Filer.temporaryName p).utf8ByteSize + Filer.temporarySlack > maxNameBytes ∧
      (calm drawn).createTemporary p t [drawn] = .error (FileFault.message
        ⟨.nameTooLong, (p.parent.child (Filer.temporaryName p)).text, none⟩) ∨
    (Filer.temporaryName p).utf8ByteSize + Filer.temporarySlack ≤ maxNameBytes ∧
      ∃ temporary, t.at? temporary = none ∧
        (calm drawn).createTemporary p t [drawn] = .ok temporary := by
  have hname := name_child p.parent (Filer.drawnName p drawn)
  have hbytes := size_drawnName p hsize
  have hup : Filer.drawnName p drawn ≠ ".." := by
    intro h
    have htwo : (".." : String).utf8ByteSize = 2 := by decide
    rw [h, htwo, Filer.temporarySlack] at hbytes
    omega
  have hlocate : t.locate (p.parent.child (Filer.drawnName p drawn)) =
      if (Filer.drawnName p drawn).utf8ByteSize > maxNameBytes then .error .nameTooLong
      else .ok (dir ++ [Filer.drawnName p drawn]) := by
    have hparent : t.locate (p.parent.child (Filer.drawnName p drawn)).parent = .ok dir := by
      simpa [Path.child, Path.parent] using hl
    rw [locate_of_parent (by simp [Path.child]) hparent hdir, hname, if_neg hup]
  rw [hbytes] at hlocate
  by_cases hlong : (Filer.temporaryName p).utf8ByteSize + Filer.temporarySlack > maxNameBytes
  · rw [if_pos hlong] at hlocate
    exact .inl ⟨hlong, by rw [createTemporary, hlocate]⟩
  · rw [if_neg hlong] at hlocate
    have hplace : t.at? (dir ++ [Filer.drawnName p drawn]) = none := by
      simpa only [find?, hlocate] using hfree
    refine .inr ⟨Nat.le_of_not_lt hlong, _, hplace, ?_⟩
    rw [createTemporary, hlocate]
    simp only [hplace]
    rfl

theorem fillTemporary_calm {codec : Except Text.NoCodec Text.Codec} {text : String}
    {dir temporary : List String} (hparts : p.parts ≠ []) (hl : t.locate p.parent = .ok dir)
    (hdir : t.at? dir = some none) (hfree : t.at? temporary = none) :
    (calm drawn).fillTemporary codec p text temporary (t.put temporary (some [])) =
      match Filer.encodeAs codec text with
      | .error e => .error (e, t.put temporary (some []))
      | .ok bytes =>
        match t.writeFile p bytes with
        | .ok t => .ok t
        | .error problem => .error (.rejected (.notWritten p (FileFault.message
            ⟨problem, (p.parent.child (Filer.temporaryName p)).text, some p.text⟩)),
            t.put temporary (some bytes)) := by
  unfold fillTemporary Filer.encodeAs
  cases codec with
  | error missing => rfl
  | ok k =>
    cases he : k.encode text with
    | error c => simp only [calm, he, Except.mapError]
    | ok bytes =>
      have hreplace : (t.put temporary (some bytes)).replace temporary p = t.writeFile p bytes :=
        replace_eq_writeFile hparts hl hdir hfree
      cases hw : t.writeFile p bytes <;>
        simp only [calm, he, Except.mapError, put_put, Option.or, hreplace, hw]

theorem place_calm {codec : Except Text.NoCodec Text.Codec} {text : String}
    (hparts : p.parts ≠ []) (h : Usable drawn t p) :
    (calm drawn).place codec p text t = Filer.place codec p text t := by
  unfold place Filer.place
  rw [makeDirs_calm]
  cases hm : t.makeDirs (p.parts.length + 1) p.parent with
  | error e => rfl
  | ok u =>
    obtain ⟨dir, hl, hdir⟩ := isDir_iff.1 (makeDirs_isDir hm)
    simp only [Except.mapError, name_child]
    rcases createTemporary_calm h.size hl hdir (h.free u hm) with
      ⟨hlong, htemporary⟩ | ⟨hshort, temporary, hfree, htemporary⟩
    · have hdraws : (calm drawn).createTemporary p u (calm drawn).draws = _ := htemporary
      simp only [hdraws, if_pos hlong]
    · have hdraws : (calm drawn).createTemporary p u (calm drawn).draws = _ := htemporary
      simp only [hdraws, if_neg (Nat.not_lt.2 hshort), fillTemporary_calm hparts hl hdir hfree]
      cases Filer.encodeAs codec text with
      | error e => simp only [calm, remove_put hfree]
      | ok bytes =>
        simp only
        cases u.writeFile p bytes with
        | error problem => simp only [calm, remove_put hfree]
        | ok u' => rfl

end Outside

namespace Filer

theorem writeUnder_calm {f : Filer} {module text drawn : String} {t : FileTree}
    (h : ∀ p, f.pathFor module = .ok p → Outside.Usable drawn t p) :
    f.writeUnder (.calm drawn) module text t = f.write module text t := by
  unfold writeUnder write
  cases hp : f.pathFor module with
  | error r => rfl
  | ok p =>
    have hparts : p.parts ≠ [] := by
      obtain ⟨-, rfl⟩ := pathFor_ok hp
      simp [partsOf]
    have hplace : (Outside.calm drawn).place f.codec p text t = place f.codec p text t :=
      Outside.place_calm hparts (h p hp)
    rcases hput : place f.codec p text t with ⟨_ | _, u⟩ <;> simp only [hplace, hput]

end Filer

end Foundry
