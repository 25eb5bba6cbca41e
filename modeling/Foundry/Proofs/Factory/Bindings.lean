import Foundry.Proofs.Factory.Resolution
import Foundry.Proofs.Source.Candidates
import Foundry.Proofs.Text.Dotted
import Mathlib.Data.List.Nodup

/-!
The table of imports over a whole sequence of targets. Every module and top-level name is given one
name, the first in its numbered row that is neither reserved nor given away; the name stays with it
whatever is bound later, and the imports of the table are exactly those that were asked for.
-/

namespace Foundry.Factory

open Foundry.Text
open Discovery (precedes precedes_cons precedes_total precedes_trans)

variable {reserved : List String} {done qs : List QualifiedName} {q q' : QualifiedName}
  {t : ImportTable}

/-! ### The search for a name -/

/-- The search for a name that is not taken, from a candidate on; `n` is the next number to try. -/
inductive Searches (taken : List String) (name : String) : Nat → String → String → Prop
  | free {n : Nat} {candidate : String} :
    candidate ∉ taken → Searches taken name n candidate candidate
  | next {n : Nat} {candidate found : String} :
    candidate ∈ taken → Searches taken name (n + 1) (numbered name n) found →
    Searches taken name n candidate found

/-- The search depends on which names are taken, and not on their order. -/
theorem Searches.congr {taken taken' : List String} {name candidate found : String} {n : Nat}
    (hsame : ∀ s, s ∈ taken ↔ s ∈ taken') (h : Searches taken name n candidate found) :
    Searches taken' name n candidate found := by
  induction h with
  | free hfree => exact .free fun hmem => hfree ((hsame _).2 hmem)
  | next htaken _ ih => exact .next ((hsame _).1 htaken) ih

theorem searches_freeNumbered {taken : List String} {name : String} {fuel n : Nat}
    (h : freeNumbered taken name fuel n ∉ taken) :
    Searches taken name (n + 1) (numbered name n) (freeNumbered taken name fuel n) := by
  induction fuel generalizing n with
  | zero => exact .free h
  | succ fuel ih =>
    have hstep : freeNumbered taken name (fuel + 1) n =
        if taken.contains (numbered name n) then freeNumbered taken name fuel (n + 1)
        else numbered name n := rfl
    by_cases htaken : numbered name n ∈ taken
    · rw [if_pos (List.contains_iff_mem.2 htaken)] at hstep
      rw [hstep] at h ⊢
      exact .next htaken (ih h)
    · rw [if_neg (by rwa [List.contains_iff_mem])] at hstep
      rw [hstep]
      exact .free htaken

/-- The search ends, however many names are taken. -/
theorem searches_freeName (taken : List String) (name : String) :
    Searches taken name 2 name (freeName taken name) := by
  by_cases htaken : name ∈ taken
  · have hfound : freeName taken name = freeNumbered taken name (taken.length + 1) 2 :=
      if_pos (List.contains_iff_mem.2 htaken)
    rw [hfound]
    exact .next htaken (searches_freeNumbered (freeNumbered_notMem (Nat.lt_succ_self _)))
  · have hfound : freeName taken name = name :=
      if_neg (by rwa [List.contains_iff_mem])
    rw [hfound]
    exact .free htaken

/-! ### Targets, one after the other -/

/-- Targets that are reached through one import. -/
def SameTop (q q' : QualifiedName) : Prop :=
  q.module = q'.module ∧ q.topLevel = q'.topLevel

/-- The import of a target under a name. -/
def importAs (name : String) (q : QualifiedName) : Import :=
  ⟨q.module, q.topLevel, if name = q.topLevel then none else some name⟩

/-- The expression for a target whose import has a name. -/
def expressionAs (name : String) (q : QualifiedName) : String :=
  if q.rest = "" then name else name ++ "." ++ q.rest

/-- The name a table has for a target. -/
def ImportTable.nameOf (t : ImportTable) (q : QualifiedName) : String :=
  ((t.find? q).map Import.bound).getD q.topLevel

/-- The expressions for targets that are bound one after the other. -/
def bindEach : List QualifiedName → ImportTable → List String × ImportTable
  | [], t => ([], t)
  | q :: qs, t =>
    let (text, t) := t.bind q
    let (texts, t) := bindEach qs t
    (text :: texts, t)

theorem expression_eq (i : Import) (q : QualifiedName) :
    ImportTable.expression i q = expressionAs i.bound q := by
  simp [ImportTable.expression, expressionAs]

theorem find?_congr (h : SameTop q q') : t.find? q = t.find? q' := by
  simp only [ImportTable.find?, h.1, h.2]

theorem nameOf_congr (h : SameTop q q') : t.nameOf q = t.nameOf q' := by
  rw [ImportTable.nameOf, ImportTable.nameOf, find?_congr h, h.2]

/-- What a table holds after some targets were bound: an import for each of them under the name it
has, and no name besides these and the reserved ones. -/
structure ImportTable.Follows (reserved : List String) (done : List QualifiedName)
    (t : ImportTable) : Prop where
  sound : t.Sound reserved
  taken : ∀ s, s ∈ t.taken ↔ s ∈ reserved ∨ s ∈ done.map t.nameOf
  imports : ∀ i, i ∈ t.imports ↔ ∃ q ∈ done, i = importAs (t.nameOf q) q
  numbered : ∀ i ∈ t.imports, i.Numbered

theorem nameOf_of_find? {i : Import} (h : t.find? q = some i) : t.nameOf q = i.bound := by
  rw [ImportTable.nameOf, h]
  rfl

theorem importAs_congr (name : String) (h : SameTop q q') : importAs name q = importAs name q' := by
  rw [importAs, importAs, h.1, h.2]

theorem ImportTable.Follows.find?_of_known (h : t.Follows reserved done) (hq' : q' ∈ done)
    (hsame : SameTop q' q) : t.find? q = some (importAs (t.nameOf q) q) := by
  cases hfind : t.find? q with
  | none =>
    have hmem := (h.imports _).2 ⟨q', hq', rfl⟩
    have hnone := List.find?_eq_none.1 hfind _ hmem
    simp [importAs, hsame.1, hsame.2] at hnone
  | some i =>
    obtain ⟨hi, hserves⟩ := serves_of_find? hfind
    obtain ⟨q'', -, rfl⟩ := (h.imports i).1 hi
    have hsame' : SameTop q'' q := hserves
    rw [nameOf_congr hsame', importAs_congr _ hsame']

theorem ImportTable.Follows.find?_of_new (h : t.Follows reserved done)
    (hnew : ∀ q' ∈ done, ¬ SameTop q' q) : t.find? q = none := by
  cases hfind : t.find? q with
  | none => rfl
  | some i =>
    obtain ⟨hi, hserves⟩ := serves_of_find? hfind
    obtain ⟨q', hq', rfl⟩ := (h.imports i).1 hi
    exact absurd hserves (hnew q' hq')

/-- What one target does to a table. -/
structure BindsTarget (reserved : List String) (done : List QualifiedName) (t t' : ImportTable)
    (q : QualifiedName) (text : String) : Prop where
  follows : t'.Follows reserved (done ++ [q])
  kept : ∀ q' ∈ done, t'.nameOf q' = t.nameOf q'
  text : text = expressionAs (t'.nameOf q) q
  new : (∀ q' ∈ done, ¬ SameTop q' q) → t'.nameOf q = freeName t.taken q.topLevel

theorem bind_known (h : t.Follows reserved done) (hq' : q' ∈ done) (hsame : SameTop q' q) :
    BindsTarget reserved done t (t.bind q).2 q (t.bind q).1 := by
  have hfind := h.find?_of_known hq' hsame
  rw [bind_of_find? hfind]
  refine ⟨⟨h.sound, fun s => ?_, fun i => ?_, h.numbered⟩, fun _ _ => rfl, ?_, ?_⟩
  · rw [h.taken, List.map_append, List.mem_append]
    refine or_congr_right ⟨.inl, fun hs => hs.elim id fun hs => ?_⟩
    rw [List.mem_singleton.1 hs, ← nameOf_congr hsame]
    exact List.mem_map_of_mem hq'
  · rw [h.imports]
    constructor
    · rintro ⟨r, hr, rfl⟩
      exact ⟨r, List.mem_append_left _ hr, rfl⟩
    · rintro ⟨r, hr, rfl⟩
      rcases List.mem_append.1 hr with hr | hr
      · exact ⟨r, hr, rfl⟩
      · rw [List.mem_singleton.1 hr]
        exact (h.imports _).1 (serves_of_find? hfind).1
  · rw [expression_eq, ← nameOf_of_find? hfind]
  · exact fun hnew => absurd hsame (hnew q' hq')

theorem bind_new (h : t.Follows reserved done) (hnew : ∀ q' ∈ done, ¬ SameTop q' q) :
    BindsTarget reserved done t (t.bind q).2 q (t.bind q).1 := by
  have hfind := h.find?_of_new hnew
  have hsound := (bind_sound h.sound q).1
  have hbound := bound_newImport t.taken q
  rw [bind_of_none hfind] at hsound ⊢
  let t' : ImportTable :=
    ⟨freeName t.taken q.topLevel :: t.taken, t.imports ++ [newImport t.taken q]⟩
  have hkept : ∀ q' ∈ done, t'.nameOf q' = t.nameOf q' := by
    intro q' hq'
    have hold := h.find?_of_known hq' ⟨rfl, rfl⟩
    have hfound : t'.find? q' = some (importAs (t.nameOf q') q') := by
      rw [ImportTable.find?, List.find?_append]
      rw [ImportTable.find?] at hold
      rw [hold]
      rfl
    exact (nameOf_of_find? hfound).trans (nameOf_of_find? hold).symm
  have hself : t'.find? q = some (newImport t.taken q) := by
    rw [ImportTable.find?] at hfind ⊢
    rw [List.find?_append, hfind]
    simp [newImport]
  have hname : t'.nameOf q = freeName t.taken q.topLevel :=
    (nameOf_of_find? hself).trans hbound
  have hmap : (done ++ [q]).map t'.nameOf = done.map t.nameOf ++ [freeName t.taken q.topLevel] := by
    rw [List.map_append, List.map_congr_left hkept, List.map_singleton, hname]
  refine ⟨⟨hsound, fun s => ?_, fun i => ?_, fun i hi => ?_⟩, hkept, ?_, fun _ => hname⟩
  · change s ∈ freeName t.taken q.topLevel :: t.taken ↔ _
    rw [hmap, List.mem_cons, List.mem_append, List.mem_singleton, h.taken, or_comm, or_assoc]
  · change i ∈ t.imports ++ [newImport t.taken q] ↔ _
    rw [List.mem_append, List.mem_singleton, h.imports]
    constructor
    · rintro (⟨r, hr, rfl⟩ | rfl)
      · exact ⟨r, List.mem_append_left _ hr, by rw [hkept r hr]⟩
      · exact ⟨q, List.mem_append_right _ List.mem_cons_self, by rw [hname]; rfl⟩
    · rintro ⟨r, hr, rfl⟩
      rcases List.mem_append.1 hr with hr | hr
      · exact .inl ⟨r, hr, by rw [hkept r hr]⟩
      · rw [List.mem_singleton.1 hr, hname]
        exact .inr rfl
  · rcases List.mem_append.1 hi with hi | hi
    · exact h.numbered i hi
    · rw [List.mem_singleton.1 hi]
      exact numbered_newImport t.taken q
  · change ImportTable.expression (newImport t.taken q) q = expressionAs (t'.nameOf q) q
    rw [expression_eq, hbound, hname]

theorem bind_bindsTarget (h : t.Follows reserved done) (q : QualifiedName) :
    BindsTarget reserved done t (t.bind q).2 q (t.bind q).1 := by
  by_cases hknown : ∃ q' ∈ done, SameTop q' q
  · obtain ⟨q', hq', hsame⟩ := hknown
    exact bind_known h hq' hsame
  · exact bind_new h fun q' hq' hsame => hknown ⟨q', hq', hsame⟩

/-! ### A whole sequence -/

theorem follows_reserve (reserved : List String) :
    (ImportTable.reserve reserved).Follows reserved [] :=
  ⟨sound_reserve reserved, fun s => by simp [ImportTable.reserve],
    fun i => by simp [ImportTable.reserve], fun _ hi => absurd hi List.not_mem_nil⟩

/-- Names given to targets one after the other, the first ones being done: a module and top-level
name that is new gets the first name that is neither reserved nor given away. -/
inductive Allocates (reserved : List String) (name : QualifiedName → String) :
    List QualifiedName → List QualifiedName → Prop
  | nil {done : List QualifiedName} : Allocates reserved name done []
  | cons {done qs : List QualifiedName} {q : QualifiedName} :
    ((∀ q' ∈ done, ¬ SameTop q' q) →
      Searches (reserved ++ done.map name) q.topLevel 2 q.topLevel (name q)) →
    Allocates reserved name (done ++ [q]) qs → Allocates reserved name done (q :: qs)

theorem bindEach_follows (h : t.Follows reserved done) (qs : List QualifiedName) :
    (bindEach qs t).2.Follows reserved (done ++ qs) ∧
    (∀ q' ∈ done, (bindEach qs t).2.nameOf q' = t.nameOf q') ∧
    (bindEach qs t).1 = qs.map (fun q => expressionAs ((bindEach qs t).2.nameOf q) q) ∧
    Allocates reserved (bindEach qs t).2.nameOf done qs := by
  induction qs generalizing t done with
  | nil => exact ⟨by rwa [List.append_nil], fun _ _ => rfl, rfl, .nil⟩
  | cons r qs ih =>
    have hbind := bind_bindsTarget h r
    obtain ⟨hfollows, hkept, htexts, hallocates⟩ := ih hbind.follows
    have hrest : bindEach (r :: qs) t =
        ((t.bind r).1 :: (bindEach qs (t.bind r).2).1, (bindEach qs (t.bind r).2).2) := rfl
    have hr := hkept r (List.mem_append_right _ List.mem_cons_self)
    have hdone : ∀ q' ∈ done, (bindEach qs (t.bind r).2).2.nameOf q' = t.nameOf q' := fun q' hq' =>
      (hkept q' (List.mem_append_left _ hq')).trans (hbind.kept q' hq')
    rw [List.append_assoc, List.singleton_append] at hfollows
    rw [hrest]
    refine ⟨hfollows, hdone, ?_, .cons (fun hnew => ?_) hallocates⟩
    · rw [List.map_cons, hr, ← hbind.text, ← htexts]
    · rw [List.map_congr_left hdone, hr, hbind.new hnew]
      refine (searches_freeName t.taken r.topLevel).congr fun s => ?_
      rw [h.taken, List.mem_append]

/-! ### What the imports of a table lead to -/

/-- What a text stands for where some imports were made: the path behind its first segment, from
what the import of that name brings in. -/
def resolve (imports : List Import) (text : String) : Option QualifiedName :=
  (imports.find? fun i => i.bound = firstSegment text).map fun i =>
    ⟨i.module, dotted (i.name :: (segments text).tail)⟩

namespace ImportTable.Follows

theorem mem_imports (h : t.Follows reserved done) (hq : q ∈ done) :
    importAs (t.nameOf q) q ∈ t.imports :=
  (h.imports _).2 ⟨q, hq, rfl⟩

theorem bound_importAs (h : t.Follows reserved done) (hq : q ∈ done) :
    (importAs (t.nameOf q) q).bound = t.nameOf q :=
  (nameOf_of_find? (h.find?_of_known hq ⟨rfl, rfl⟩)).symm

theorem eq_of_bound (h : t.Follows reserved done) {i j : Import} (hi : i ∈ t.imports)
    (hj : j ∈ t.imports) (hbound : i.bound = j.bound) : i = j :=
  List.inj_on_of_nodup_map h.sound.distinct hi hj hbound

theorem nameOf_eq_iff (h : t.Follows reserved done) (hq : q ∈ done) (hq' : q' ∈ done) :
    t.nameOf q = t.nameOf q' ↔ SameTop q q' := by
  refine ⟨fun hname => ?_, nameOf_congr⟩
  have himport : importAs (t.nameOf q) q = importAs (t.nameOf q') q' := by
    refine h.eq_of_bound (h.mem_imports hq) (h.mem_imports hq') ?_
    rw [h.bound_importAs hq, h.bound_importAs hq', hname]
  injection himport with hmodule htop
  exact ⟨hmodule, htop⟩

theorem nameOf_fresh (h : t.Follows reserved done) (hq : q ∈ done) : t.nameOf q ∉ reserved := by
  rw [← h.bound_importAs hq]
  exact h.sound.fresh _ (h.mem_imports hq)

theorem sorted_pairwise (h : t.Follows reserved done) :
    t.sorted.Pairwise fun i j => i.module < j.module ∨ i.module = j.module ∧ i.name < j.name := by
  let key : Import → List String := fun i => [i.module, i.name]
  have hsorted : t.sorted.Pairwise fun i j => precedes (key i) (key j) = true := by
    have hcompare : t.sorted = t.imports.mergeSort fun i j => precedes (key i) (key j) := by
      simp only [ImportTable.sorted, key, precedes, Bool.and_true]
    rw [hcompare]
    exact List.pairwise_mergeSort (fun i j k => precedes_trans (key i) (key j) (key k))
      (fun i j => precedes_total (key i) (key j)) _
  have hdistinct : (t.sorted.map Import.bound).Nodup :=
    ((List.mergeSort_perm _ _).map Import.bound).nodup_iff.2 h.sound.distinct
  refine ((List.pairwise_map.1 hdistinct).and hsorted).imp_of_mem ?_
  rintro i j hi hj ⟨hne, hprecedes⟩
  obtain ⟨q, hq, rfl⟩ := (h.imports i).1 ((mem_sorted t i).1 hi)
  obtain ⟨q', hq', rfl⟩ := (h.imports j).1 ((mem_sorted t j).1 hj)
  rw [h.bound_importAs hq, h.bound_importAs hq', Ne, h.nameOf_eq_iff hq hq'] at hne
  rw [precedes_cons, precedes_cons] at hprecedes
  refine hprecedes.imp_right fun hsecond => ⟨hsecond.1, hsecond.2.resolve_right fun hthird => ?_⟩
  exact hne ⟨hsecond.1, hthird.1⟩

theorem notMem_nameOf (h : t.Follows reserved done) (hq : q ∈ done) :
    '.' ∉ (t.nameOf q).toList := by
  have htop : '.' ∉ q.topLevel.toList :=
    notMem_of_mem_segments (by rw [exists_segments q]; exact List.mem_cons_self)
  have hdigits : ∀ k, '.' ∉ Nat.toDigits 10 k := fun k hdot =>
    absurd (Nat.isDigit_of_mem_toDigits (by decide) (by decide) hdot) (by decide)
  have hnumbered := h.numbered _ (h.mem_imports hq)
  rw [Import.Numbered, h.bound_importAs hq] at hnumbered
  rcases hnumbered with hname | ⟨k, hname⟩
  · rw [hname]
    exact htop
  · rw [hname]
    simp [Factory.numbered, importAs, htop, hdigits k]

theorem resolve_expression (h : t.Follows reserved done) (hq : q ∈ done)
    (hrest : q.rest = "" → (segments q.qualname).tail = []) :
    resolve t.sorted (expressionAs (t.nameOf q) q) = some q := by
  have hbound := h.bound_importAs hq
  have hsegments : segments (expressionAs (t.nameOf q) q) =
      t.nameOf q :: (segments q.qualname).tail := by
    have hdot := h.notMem_nameOf hq
    rw [← hbound] at hdot ⊢
    rw [← expression_eq]
    exact segments_expression_of_notMem hdot hrest
  have hfirst : firstSegment (expressionAs (t.nameOf q) q) = t.nameOf q := by
    rw [firstSegment, hsegments]
    rfl
  have hmem := h.mem_imports hq
  have hfind : (t.sorted.find? fun i => i.bound = t.nameOf q) =
      some (importAs (t.nameOf q) q) := by
    cases hfound : t.sorted.find? fun i => i.bound = t.nameOf q with
    | none =>
      have hnone := List.find?_eq_none.1 hfound _ ((mem_sorted t _).2 hmem)
      simp [hbound] at hnone
    | some i =>
      have hi := (mem_sorted t i).1 (List.mem_of_find?_eq_some hfound)
      have hname : i.bound = t.nameOf q := by simpa using List.find?_some hfound
      rw [h.eq_of_bound hi hmem (hname.trans hbound.symm)]
  rw [resolve, hfirst, hfind, hsegments]
  change some (QualifiedName.mk q.module (dotted (q.topLevel :: (segments q.qualname).tail))) = _
  rw [← exists_segments q, dotted_segments]

end ImportTable.Follows

/-! ### Names that were made -/

theorem strip_append_dot (cs : List Char) :
    stripList (cs ++ ['.']) = cs.dropWhile isBlank ++ ['.'] := by
  have hdot : isBlank '.' = false := by decide
  have hfront : (cs ++ ['.']).dropWhile isBlank = cs.dropWhile isBlank ++ ['.'] := by
    rw [List.dropWhile_append]
    split
    · rename_i hempty
      rw [List.isEmpty_iff.1 hempty, List.nil_append, List.dropWhile_cons, hdot]
      rfl
    · rfl
  rw [stripList, hfront, List.reverse_append, List.reverse_singleton, List.singleton_append,
    List.dropWhile_cons, hdot, if_neg (by decide), List.reverse_cons, List.reverse_reverse]

/-- A qualified name that ends in a dot is refused. -/
theorem tail_eq_nil_of_rest (h : Name.isDotted (strip q.qualname) = true) (hrest : q.rest = "") :
    (segments q.qualname).tail = [] := by
  refine Decidable.of_not_not fun hne => ?_
  have hname : q.qualname = q.topLevel ++ "." ++ "" := by
    rw [← hrest, QualifiedName.rest, afterFirstSegment, ← dotted_cons hne, ← exists_segments q,
      dotted_segments]
  have hstrip : strip q.qualname =
      String.ofList (q.topLevel.toList.dropWhile isBlank) ++ "." ++ "" := by
    rw [hname, strip, ← String.toList_inj]
    simp [strip_append_dot]
  have hlast : Name.isSegment "" = true :=
    List.all_eq_true.1 h "" (by rw [hstrip, segments_append]; simp [segments, split, splitList])
  exact absurd hlast (by decide)

/-- Over any sequence of targets every module and top-level name keeps one name: names of different
ones differ, none is reserved, and each is the first free one when it is given. The imports of the
table are those of the targets under these names, each once and in order, and lead from the
expressions back to the targets. -/
theorem imports_stable (reserved : List String) (targets : List QualifiedName) :
    ∃ (name : QualifiedName → String) (texts : List String) (t : ImportTable),
      bindEach targets (.reserve reserved) = (texts, t) ∧
      Allocates reserved name [] targets ∧
      (∀ q ∈ targets, ∀ q' ∈ targets, name q = name q' ↔ SameTop q q') ∧
      (∀ q ∈ targets, name q ∉ reserved) ∧
      texts = targets.map (fun q => expressionAs (name q) q) ∧
      (∀ i, i ∈ t.sorted ↔ ∃ q ∈ targets, i = importAs (name q) q) ∧
      (∀ q ∈ targets, (importAs (name q) q).bound = name q) ∧
      (t.sorted.Pairwise fun i j =>
        i.module < j.module ∨ i.module = j.module ∧ i.name < j.name) ∧
      ∀ q ∈ targets, QualifiedName.ofTexts? q.module q.qualname = .ok q →
        resolve t.sorted (expressionAs (name q) q) = some q := by
  obtain ⟨hfollows, -, htexts, hallocates⟩ := bindEach_follows (follows_reserve reserved) targets
  rw [List.nil_append] at hfollows
  refine ⟨_, _, _, rfl, hallocates, fun q hq q' hq' => hfollows.nameOf_eq_iff hq hq',
    fun q hq => hfollows.nameOf_fresh hq, htexts, fun i => ?_,
    fun q hq => hfollows.bound_importAs hq, hfollows.sorted_pairwise, fun q hq hmade => ?_⟩
  · rw [mem_sorted]
    exact hfollows.imports i
  · have hdotted := (QualifiedName.isDotted_of_ofTexts? hmade).2
    exact hfollows.resolve_expression hq (tail_eq_nil_of_rest hdotted)

/-- A class is really called like the alias of another one, and the alias after that is reserved. -/
theorem wodka_imports_stable :
    ∃ t : ImportTable,
      bindEach [⟨"shop.bar", "Wodka_2"⟩, ⟨"shop.tea", "Wodka"⟩, ⟨"shop.bar", "Wodka.Neat"⟩]
          (.reserve ["Wodka_3"]) = (["Wodka_2", "Wodka", "Wodka_4.Neat"], t) ∧
      resolve t.sorted "Wodka_2" = some ⟨"shop.bar", "Wodka_2"⟩ ∧
      resolve t.sorted "Wodka" = some ⟨"shop.tea", "Wodka"⟩ ∧
      resolve t.sorted "Wodka_4.Neat" = some ⟨"shop.bar", "Wodka.Neat"⟩ := by
  obtain ⟨name, texts, t, heq, -, -, -, htexts, -, -, -, hresolve⟩ := imports_stable ["Wodka_3"]
    [⟨"shop.bar", "Wodka_2"⟩, ⟨"shop.tea", "Wodka"⟩, ⟨"shop.bar", "Wodka.Neat"⟩]
  have hbound : ["Wodka_2", "Wodka", "Wodka_4.Neat"] = texts := by
    have hfirst := congrArg Prod.fst heq
    exact Eq.trans (by decide) hfirst
  have hnames := hbound.trans htexts
  obtain ⟨hreal, h⟩ := List.cons.inj hnames
  obtain ⟨hfirst, h⟩ := List.cons.inj h
  obtain ⟨hsecond, -⟩ := List.cons.inj h
  refine ⟨t, by rw [heq, hbound], ?_, ?_, ?_⟩
  · exact (congrArg _ hreal).trans (hresolve ⟨"shop.bar", "Wodka_2"⟩ (by simp) (by rfl))
  · exact (congrArg _ hfirst).trans (hresolve ⟨"shop.tea", "Wodka"⟩ (by simp) (by rfl))
  · exact (congrArg _ hsecond).trans (hresolve ⟨"shop.bar", "Wodka.Neat"⟩ (by simp) (by rfl))

end Foundry.Factory
