import Foundry.Filer
import Foundry.Proofs.Files.Growth
import Foundry.Proofs.Query.Within
import Foundry.Proofs.Text.Bytes
import Foundry.Proofs.Text.Splitting

/-!
Writing modules: different modules lie at different places, and writing one leaves the others as
they are.
-/

namespace Foundry

/-- Refused writes, which a pass reports. -/
def Fault.IsWriteFailure (e : Fault) : Prop :=
  ∃ r : Rejection, e = .rejected r ∧ r.code = "ArtifactWriteFailure"

theorem Fault.IsWriteFailure.isRejection {e : Fault} (h : e.IsWriteFailure) : e.IsRejection :=
  h.imp fun _ hr => hr.1

namespace Filer

open Foundry.Text FileTree

/-! ### Paths of modules -/

/-- Where a module lies below the output directory. -/
def partsOf (module : String) : List String :=
  (segments module).dropLast ++ [(segments module).getLastD "" ++ ".py"]

theorem pathFor_ok {f : Filer} {module : String} {p : Path} (h : f.pathFor module = .ok p) :
    Name.isDotted module = true ∧ p = ⟨f.outputDir.root, f.outputDir.parts ++ partsOf module⟩ := by
  unfold pathFor at h
  by_cases hd : Name.isDotted module = true
  · rw [if_pos hd] at h
    exact ⟨hd, (Except.ok.inj h).symm⟩
  · rw [if_neg hd] at h
    cases h

theorem pathFor_error {f : Filer} {module : String} {r : Rejection}
    (h : f.pathFor module = .error r) : r = .invalidModule module := by
  unfold pathFor at h
  split at h
  · cases h
  · exact (Except.error.inj h).symm

theorem partsOf_injective {m m' : String} (h : partsOf m = partsOf m') : m = m' := by
  obtain ⟨hinit, hlast⟩ := List.append_inj' h rfl
  have hlast' : lastSegment m = lastSegment m' :=
    (String.append_left_inj ".py").1 (List.cons.inj hlast).1
  have hsame : segments m = segments m' := by
    rw [← segments_dropLast_concat m, ← segments_dropLast_concat m', hinit, hlast']
  rw [← dotted_segments m, ← dotted_segments m', hsame]

theorem pathFor_injective {f : Filer} {m m' : String} {p : Path} (h : f.pathFor m = .ok p)
    (h' : f.pathFor m' = .ok p) : m = m' := by
  have hp := (pathFor_ok h).2.symm.trans (pathFor_ok h').2
  exact partsOf_injective (List.append_cancel_left (congrArg Path.parts hp))

theorem segment_ne_up {s : String} (h : Name.isSegment s = true) : s ≠ ".." := by
  rintro rfl
  revert h
  decide

theorem partsOf_ne_up {m : String} (h : Name.isDotted m = true) : ∀ p ∈ partsOf m, p ≠ ".." := by
  intro p hp
  rcases List.mem_append.1 hp with hp | hp
  · exact segment_ne_up (List.all_eq_true.1 h p (List.dropLast_subset _ hp))
  · rintro rfl
    have hpy := congrArg String.toList (List.mem_singleton.1 hp)
    rw [String.toList_append] at hpy
    have hend := congrArg List.getLast? hpy
    simp at hend

theorem locate_pathFor {f : Filer} {module : String} {p : Path} {t : FileTree}
    {place : List String} (h : f.pathFor module = .ok p) (hl : t.locate p = .ok place) :
    ∃ dir, t.walk [] f.outputDir.parts = .ok dir ∧ place = dir ++ partsOf module := by
  obtain ⟨hd, rfl⟩ := pathFor_ok h
  rw [locate, walk_append] at hl
  cases hw : t.walk [] f.outputDir.parts with
  | error problem =>
    rw [hw] at hl
    cases hl
  | ok dir =>
    rw [hw] at hl
    exact ⟨dir, rfl, walk_down (partsOf_ne_up hd) hl⟩

/-- Below one output directory only a module's own path leads to its place. -/
theorem locate_eq_iff {f : Filer} {m m' : String} {p p' : Path} {t : FileTree}
    {place : List String} (hp : f.pathFor m = .ok p) (hp' : f.pathFor m' = .ok p')
    (hl : t.locate p = .ok place) : t.locate p' = t.locate p ↔ m' = m := by
  constructor
  · intro hsame
    obtain ⟨dir, hdir, rfl⟩ := locate_pathFor hp hl
    obtain ⟨dir', hdir', hplace⟩ := locate_pathFor hp' (hsame.trans hl)
    obtain rfl : dir = dir' := Except.ok.inj (hdir.symm.trans hdir')
    exact partsOf_injective (List.append_cancel_left hplace.symm)
  · rintro rfl
    rw [Except.ok.inj (hp.symm.trans hp')]

/-! ### Bytes of texts -/

theorem encodeAs_toCodec {e : Encoding} {text : String} {bytes : Bytes}
    (h : e.encode text = .ok bytes) : encodeAs (.ok e.toCodec) text = .ok bytes := by
  have hcodec : e.toCodec.encode text = .ok bytes := h
  rw [encodeAs, hcodec]
  rfl

theorem encodeAs_utf8 (text : String) :
    ∃ bytes, encodeAs (Encoding.codecs "utf-8") text = .ok bytes := by
  have hutf8 : Encoding.codecs "utf-8" = .ok (Encoding.toCodec .utf8) := by rfl
  rw [hutf8]
  exact ⟨_, encodeAs_toCodec (e := .utf8) (Encoding.encode_ok_iff.2 ⟨rfl, fun _ _ => rfl⟩)⟩

/-! ### Putting a text at a path -/

/-- Whatever comes of it, the directories were made as far as that went, and only a text that could
be put in place changes more. -/
theorem place_steps (codec : Except NoCodec Codec) (p : Path) (text : String) (t : FileTree) :
    (∃ e, place codec p text t =
        (.error e, leftBy (t.makeDirs (p.parts.length + 1) p.parent)) ∧
      (e.IsWriteFailure ∨ encodeAs codec text = .error e)) ∨
    ∃ t' bytes, place codec p text t = (.ok (), t') ∧ encodeAs codec text = .ok bytes ∧
      (leftBy (t.makeDirs (p.parts.length + 1) p.parent)).writeFile p bytes = .ok t' := by
  unfold place
  cases t.makeDirs (p.parts.length + 1) p.parent with
  | error e => exact .inl ⟨_, rfl, .inl ⟨_, rfl, rfl⟩⟩
  | ok t' =>
    dsimp only [leftBy]
    split
    · exact .inl ⟨_, rfl, .inl ⟨_, rfl, rfl⟩⟩
    · cases he : encodeAs codec text with
      | error e => exact .inl ⟨e, rfl, .inr rfl⟩
      | ok bytes =>
        dsimp only
        cases hw : t'.writeFile p bytes with
        | error problem => exact .inl ⟨_, rfl, .inl ⟨_, rfl, rfl⟩⟩
        | ok t'' => exact .inr ⟨t'', bytes, rfl, rfl, hw⟩

theorem place_cases (codec : Except NoCodec Codec) (p : Path) (text : String) (t : FileTree) :
    (∃ e t', place codec p text t = (.error e, t') ∧ t.Extends t' ∧
      (e.IsWriteFailure ∨ encodeAs codec text = .error e)) ∨
    ∃ t' t'' bytes, place codec p text t = (.ok (), t'') ∧ t.Extends t' ∧
      encodeAs codec text = .ok bytes ∧ t'.writeFile p bytes = .ok t'' := by
  have hdirs := makeDirs_extends (p.parts.length + 1) p.parent t
  rcases place_steps codec p text t with ⟨e, hplace, he⟩ | ⟨t'', bytes, hplace, he, hw⟩
  · exact .inl ⟨e, _, hplace, hdirs, he⟩
  · exact .inr ⟨_, t'', bytes, hplace, hdirs, he, hw⟩

/-! ### Writing a module -/

/-- A write to which nothing objects. -/
theorem write_eq {f : Filer} {module text : String} {p : Path} {bytes : Bytes}
    {t t' t'' : FileTree} (hp : f.pathFor module = .ok p)
    (hfree : f.written.contains module = false)
    (hdirs : t.makeDirs (p.parts.length + 1) p.parent = .ok t')
    (hname : (p.parent.child (temporaryName p)).name.utf8ByteSize + temporarySlack ≤
      FileTree.maxNameBytes)
    (hencode : encodeAs f.codec text = .ok bytes) (hwrite : t'.writeFile p bytes = .ok t'') :
    f.write module text t = (.ok p, { f with written := f.written.insert module p }, t'') := by
  simp only [write, hp, hfree, place, hdirs, hencode, hwrite, if_neg (Nat.not_lt.2 hname)]
  rfl

/-- What writing a module can come to. -/
inductive Writes (f : Filer) (module text : String) (t : FileTree) :
    Except Fault Path → Filer → FileTree → Prop
  | refused {e : Fault} {t' : FileTree} :
    e.IsWriteFailure → t.Extends t' → Writes f module text t (.error e) f t'
  | unencodable {e : Fault} {t' : FileTree} :
    f.written.contains module = false → encodeAs f.codec text = .error e → t.Extends t' →
    Writes f module text t (.error e) f t'
  | done {p : Path} {t' t'' : FileTree} {bytes : Bytes} :
    f.pathFor module = .ok p → f.written.contains module = false → t.Extends t' →
    encodeAs f.codec text = .ok bytes → t'.writeFile p bytes = .ok t'' →
    Writes f module text t (.ok p) { f with written := f.written.insert module p } t''

theorem write_writes (f : Filer) (module text : String) (t : FileTree) :
    Writes f module text t (f.write module text t).1 (f.write module text t).2.1
      (f.write module text t).2.2 := by
  unfold write
  cases hp : f.pathFor module with
  | error r =>
    obtain rfl := pathFor_error hp
    exact .refused ⟨_, rfl, rfl⟩ (Extends.refl t)
  | ok p =>
    cases hc : f.written.contains module with
    | true => exact .refused ⟨_, rfl, rfl⟩ (Extends.refl t)
    | false =>
      rcases place_cases f.codec p text t with
        ⟨e, t', hplace, hext, he⟩ | ⟨t', t'', bytes, hplace, hext, he, hw⟩
      · simp only [hplace]
        rcases he with he | he
        · exact .refused he hext
        · exact .unencodable hc he hext
      · simp only [hplace]
        exact .done hp hc hext he hw

section

variable {f f' : Filer} {module text : String} {t t' : FileTree} {result : Except Fault Path}

theorem Writes.reset (h : Writes f module text t result f' t') : f'.reset = f.reset := by
  cases h <;> rfl

theorem Writes.fault {e : Fault} (h : Writes f module text t (.error e) f' t') :
    e.IsWriteFailure ∨ encodeAs f.codec text = .error e := by
  cases h with
  | refused he _ => exact .inl he
  | unencodable _ he _ => exact .inr he

theorem Writes.kept_of_error {e : Fault} (h : Writes f module text t (.error e) f' t') :
    f' = f ∧ t.Extends t' := by
  cases h with
  | refused _ hext => exact ⟨rfl, hext⟩
  | unencodable _ _ hext => exact ⟨rfl, hext⟩

theorem Writes.of_ok {p : Path} (h : Writes f module text t (.ok p) f' t') :
    f.pathFor module = .ok p ∧ f.written.contains module = false ∧
      f' = { f with written := f.written.insert module p } := by
  cases h with
  | done hp hfree _ _ _ => exact ⟨hp, hfree, rfl⟩

theorem Writes.find?_self {p : Path} (h : Writes f module text t (.ok p) f' t') :
    ∃ bytes, encodeAs f.codec text = .ok bytes ∧ t'.find? p = some (some bytes) := by
  cases h with
  | done _ _ _ he hw => exact ⟨_, he, find?_writeFile hw⟩

theorem Writes.keepsDirs (h : Writes f module text t result f' t') : t.KeepsDirs t' := by
  cases h with
  | refused _ hext => exact hext.keepsDirs
  | unencodable _ _ hext => exact hext.keepsDirs
  | done _ _ hext _ hw =>
    obtain ⟨place, -, hn, rfl⟩ := writeFile_ok hw
    intro other hother
    exact keepsDirs_put hn _ other (hext.keepsDirs other hother)

/-- Whatever lies at a place is kept, unless the path of the module leads there. -/
theorem Writes.at?_kept (h : Writes f module text t result f' t') {place : List String} {n : Node}
    (hn : t.at? place = some n) (hne : ∀ p, result = .ok p → t'.locate p ≠ .ok place) :
    t'.at? place = some n := by
  cases h with
  | refused _ hext => exact hext place n hn
  | unencodable _ _ hext => exact hext place n hn
  | @done p u _ _ _ _ hext _ hw =>
    obtain ⟨place', hl, hn', rfl⟩ := writeFile_ok hw
    have hother : place ≠ place' := by
      rintro rfl
      exact hne p rfl (walk_of_keepsDirs (keepsDirs_put hn' _) p.parts hl)
    rw [at?_put_of_ne u hother]
    exact hext place n hn

/-- The file of another module stays as it is. -/
theorem Writes.find?_other (h : Writes f module text t result f' t') {m : String} {q : Path}
    (hq : f.pathFor m = .ok q) (hne : m ≠ module) {bytes : Bytes}
    (hfind : t.find? q = some (some bytes)) : t'.find? q = some (some bytes) := by
  cases h with
  | refused _ hext => exact hext.find? hfind
  | unencodable _ _ hext => exact hext.find? hfind
  | @done p u _ _ hp _ hext _ hw =>
    obtain ⟨place', hl', hn', rfl⟩ := writeFile_ok hw
    obtain ⟨place, hl, hn⟩ := find?_eq_some_iff.1 (hext.find? hfind)
    -- Both places lie below the same directory, at the parts of different modules.
    obtain ⟨dir, hdir, rfl⟩ := locate_pathFor hq hl
    obtain ⟨dir', hdir', rfl⟩ := locate_pathFor hp hl'
    have hsame : dir = dir' := Except.ok.inj (hdir.symm.trans hdir')
    have hplace : dir ++ partsOf m ≠ dir' ++ partsOf module := by
      rw [← hsame]
      exact fun h => hne (partsOf_injective (List.append_cancel_left h))
    refine find?_eq_some_iff.2 ⟨dir ++ partsOf m,
      walk_of_keepsDirs (keepsDirs_put hn' _) q.parts hl, ?_⟩
    rw [at?_put_of_ne u hplace]
    exact hn

end

end Filer

end Foundry
