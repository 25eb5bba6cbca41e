import Foundry.Proofs.Files.Unhindered

/-!
Writes are all or nothing: whichever of its steps is refused, a write leaves either the whole file or
all files as they were, unless removing the temporary file is refused too; and between two resets
each module is written once.
-/

namespace Foundry

namespace Filer

open FileTree Text

/-! ### Writes -/

/-- A write leaves the whole file and nothing else, or all files as they were. When the removal of
the temporary file was refused, that file may be left, and the write fails for that reason. -/
inductive AllOrNothing (f : Filer) (o : Outside) (module text : String) (t : FileTree) :
    Except Fault Path → Filer → FileTree → Prop
  | whole {p : Path} {t' : FileTree} {bytes : Bytes} {place : List String} :
    f.pathFor module = .ok p → f.written.contains module = false →
    encodeAs f.codec text = .ok bytes → t'.locate p = .ok place →
    t'.at? place = some (some bytes) →
    (∀ other ≠ place, ∀ old, t'.at? other = some (some old) ↔ t.at? other = some (some old)) →
    AllOrNothing f o module text t (.ok p) { f with written := f.written.insert module p } t'
  | nothing {e : Fault} {t' : FileTree} :
    t.SameFiles t' →
    (e.IsWriteFailure ∨ Name.isDotted module = true ∧ f.written.contains module = false ∧
      encodeAs f.codec text = .error e) →
    AllOrNothing f o module text t (.error e) f t'
  | leftover {p : Path} {reason : String} {temporary : List String} {t' : FileTree} :
    f.pathFor module = .ok p → f.written.contains module = false → o.removal = some reason →
    t.SameFilesBut temporary t' →
    AllOrNothing f o module text t (.error (.rejected (.notWritten p reason))) f t'

theorem writeUnder_allOrNothing (f : Filer) (o : Outside) (module text : String) (t : FileTree) :
    AllOrNothing f o module text t (f.writeUnder o module text t).1
      (f.writeUnder o module text t).2.1 (f.writeUnder o module text t).2.2 := by
  unfold writeUnder
  cases hp : f.pathFor module with
  | error r =>
    obtain rfl := pathFor_error hp
    exact .nothing (SameFiles.refl t) (.inl ⟨_, rfl, rfl⟩)
  | ok p =>
    cases hc : f.written.contains module with
    | true => exact .nothing (SameFiles.refl t) (.inl ⟨_, rfl, rfl⟩)
    | false =>
      rcases o.place_cases f.codec p text t with
        ⟨e, t', hplace, hsame, he⟩ | ⟨reason, temporary, t', hplace, hremoval, hbut⟩ |
          ⟨t', bytes, place, hplace, he, hl, hself, hothers⟩
      · simp only [hplace]
        exact .nothing hsame (he.imp_right fun he => ⟨(pathFor_ok hp).1, hc, he⟩)
      · simp only [hplace]
        exact .leftover hp hc hremoval hbut
      · simp only [hplace]
        exact .whole hp hc he hl hself hothers

/-! ### Sequences of calls -/

/-- A filer for a directory that recorded some modules, each once. -/
structure Recorded (dir : Path) (codec : Except NoCodec Codec) (f : Filer)
    (modules : List String) : Prop where
  outputDir : f.outputDir = dir
  codec : f.codec = codec
  once : modules.Nodup
  written : ∀ m, f.written.contains m = true ↔ m ∈ modules

variable {dir : Path} {codec : Except NoCodec Codec}

theorem Recorded.perform {s : Filer × List String} (h : Recorded dir codec s.1 s.2)
    (call : Call) : Recorded dir codec (call.perform s).1 (call.perform s).2 := by
  obtain ⟨f, modules⟩ := s
  cases call with
  | reset =>
    exact ⟨h.outputDir, h.codec, List.nodup_nil, fun m => by
      simp [Call.perform, reset, Ordered.contains]⟩
  | write o module text t =>
    have hw := f.writeUnder_allOrNothing o module text t
    rcases hr : f.writeUnder o module text t with ⟨result, f', t'⟩
    rw [hr] at hw
    cases hw with
    | nothing _ _ => simpa only [Call.perform, hr] using h
    | leftover _ _ _ _ => simpa only [Call.perform, hr] using h
    | whole _ hfree _ _ _ _ =>
      have hnew : module ∉ modules := by
        intro hmem
        rw [(h.written module).2 hmem] at hfree
        cases hfree
      simp only [Call.perform, hr]
      refine ⟨h.outputDir, h.codec, List.nodup_append.2 ⟨h.once, by simp, ?_⟩, fun m => ?_⟩
      · intro a ha b hb hab
        rw [List.mem_singleton.1 hb] at hab
        exact hnew (hab ▸ ha)
      · have hm := h.written m
        dsimp only at hm
        rw [Ordered.contains_insert, Bool.or_eq_true, decide_eq_true_eq, hm, List.mem_append,
          List.mem_singleton, or_comm]

theorem Recorded.foldl {s : Filer × List String} (h : Recorded dir codec s.1 s.2)
    (calls : List Call) : Recorded dir codec (calls.foldl Call.perform s).1
      (calls.foldl Call.perform s).2 := by
  induction calls generalizing s with
  | nil => exact h
  | cons call rest ih => exact ih (h.perform call)

theorem pathFor_inj (f : Filer) : Function.Injective f.pathFor := by
  intro m m' h
  cases hp : f.pathFor m with
  | ok p => exact pathFor_injective hp (h ▸ hp)
  | error r =>
    have hp' : f.pathFor m' = .error r := h ▸ hp
    exact Rejection.invalidModule.inj ((pathFor_error hp).symm.trans (pathFor_error hp'))

/-- After any calls, whatever the outside did to each of them: the next write leaves the whole file
or all files as they were, but for a temporary file that could not be removed; each module was
written once since the last reset, and no two modules share a path. The writes that nothing refuses
are those of a pass. -/
theorem writes_all_or_nothing (dir : Path) (codec : Except NoCodec Codec)
    (calls : List Call) :
    let s := performAll (make dir codec) calls
    Recorded dir codec s.1 s.2 ∧
      (∀ o module text t, AllOrNothing s.1 o module text t (s.1.writeUnder o module text t).1
        (s.1.writeUnder o module text t).2.1 (s.1.writeUnder o module text t).2.2) ∧
      (∀ drawn module text t,
        (∀ p, s.1.pathFor module = .ok p → Outside.Usable drawn t p) →
        s.1.writeUnder (.calm drawn) module text t = s.1.write module text t) ∧
      Function.Injective s.1.pathFor := by
  have hmade : Recorded dir codec (make dir codec) [] :=
    ⟨rfl, rfl, List.nodup_nil, fun m => by simp [make, Ordered.contains]⟩
  exact ⟨hmade.foldl calls, fun o module text t => writeUnder_allOrNothing _ o module text t,
    fun _ _ _ _ h => writeUnder_calm h, pathFor_inj _⟩

/-- Neither the replacement of the final file nor the removal of the temporary one is allowed. -/
def lockedOut : Outside :=
  { Outside.calm "x" with
    replace := some "[Errno 13] Permission denied"
    removal := some "[Errno 13] Permission denied" }

def lockedFiler : Filer := make ⟨"", ["out"]⟩ (Encoding.codecs "utf-8")

/-- A write that may not even clean up leaves its temporary file. -/
theorem refused_removal_leaves_file :
    (∃ r, (lockedFiler.writeUnder lockedOut "shop" "" empty).1 = .error (.rejected r)) ∧
    empty.at? ["out", ".shop.x.tmp"] = none ∧
    (lockedFiler.writeUnder lockedOut "shop" "" empty).2.2.at? ["out", ".shop.x.tmp"] =
      some (some []) ∧
    ¬ empty.SameFiles (lockedFiler.writeUnder lockedOut "shop" "" empty).2.2 := by
  have hleft : (lockedFiler.writeUnder lockedOut "shop" "" empty).2.2.at? ["out", ".shop.x.tmp"] =
      some (some []) := by rfl
  refine ⟨⟨_, by rfl⟩, by rfl, hleft, fun hsame => ?_⟩
  cases (hsame _ _).1 hleft

end Filer

end Foundry
