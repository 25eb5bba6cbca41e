import Foundry.Name.Qualified
import Foundry.Proofs.Text.Splitting

/-!
Dotted names: the characters they are made of, and the qualified names that are made of them.
-/

namespace Foundry

open Text

namespace Text

theorem mem_splitList {sep c : Char} {cs : List Char} (hc : c ∈ cs) (hne : c ≠ sep) :
    ∃ p ∈ splitList sep cs, c ∈ p := by
  induction cs with
  | nil => cases hc
  | cons a cs ih =>
    rw [splitList]
    by_cases ha : a = sep
    · rw [if_pos ha]
      rcases List.mem_cons.1 hc with rfl | hc
      · exact absurd ha hne
      · obtain ⟨p, hp, hmem⟩ := ih hc
        exact ⟨p, List.mem_cons_of_mem _ hp, hmem⟩
    · rw [if_neg ha]
      obtain ⟨q, qs, hq⟩ := List.exists_cons_of_ne_nil (splitList_ne_nil sep cs)
      rw [hq] at ih ⊢
      rcases List.mem_cons.1 hc with rfl | hc
      · exact ⟨c :: q, List.mem_cons_self, List.mem_cons_self⟩
      · obtain ⟨p, hp, hmem⟩ := ih hc
        rcases List.mem_cons.1 hp with rfl | hp
        · exact ⟨a :: p, List.mem_cons_self, List.mem_cons_of_mem a hmem⟩
        · exact ⟨p, List.mem_cons_of_mem _ hp, hmem⟩

theorem mem_dropWhile {p : Char → Bool} {c : Char} {cs : List Char} (hc : c ∈ cs)
    (hp : p c = false) : c ∈ cs.dropWhile p := by
  induction cs with
  | nil => cases hc
  | cons a cs ih =>
    rw [List.dropWhile_cons]
    split
    · rename_i ha
      rcases List.mem_cons.1 hc with rfl | hc
      · rw [hp] at ha
        cases ha
      · exact ih hc
    · exact hc

theorem mem_strip {s : String} {c : Char} (hc : c ∈ s.toList) (hblank : isBlank c = false) :
    c ∈ (strip s).toList := by
  rw [strip, String.toList_ofList, stripList, List.mem_reverse]
  refine mem_dropWhile ?_ hblank
  rw [List.mem_reverse]
  exact mem_dropWhile hc hblank

theorem occursIn_of_notMem {a : Char} {needle cs : List Char} (h : a ∉ cs) :
    occursIn (a :: needle) cs = false := by
  induction cs with
  | nil => rfl
  | cons c cs ih =>
    rw [List.mem_cons, not_or] at h
    have hc : (a == c) = false := beq_eq_false_iff_ne.2 h.1
    rw [occursIn, startsWithList, hc, ih h.2]
    rfl

end Text

theorem Name.mem_isSegmentList {c : Char} {cs : List Char} (h : Name.isSegmentList cs = true)
    (hc : c ∈ cs) : c = '\n' ∨ isWordStart c = true ∨ isWordPart c = true := by
  have hword : ∀ ds : List Char, Name.isWord ds = true → c ∈ ds →
      isWordStart c = true ∨ isWordPart c = true := by
    intro ds hds hmem
    cases ds with
    | nil => cases hmem
    | cons d ds =>
      rw [Name.isWord, Bool.and_eq_true, List.all_eq_true] at hds
      rcases List.mem_cons.1 hmem with rfl | hmem
      · exact .inl hds.1
      · exact .inr (hds.2 c hmem)
  rw [Name.isSegmentList, Bool.or_eq_true, Bool.and_eq_true] at h
  rcases h with h | ⟨hlast, h⟩
  · exact .inr (hword cs h hc)
  · obtain ⟨ds, rfl⟩ := List.getLast?_eq_some_iff.1 (beq_iff_eq.1 hlast)
    rw [List.dropLast_concat] at h
    rcases List.mem_append.1 hc with hc | hc
    · exact .inr (hword ds h hc)
    · exact .inl (List.mem_singleton.1 hc)

/-- A dotted name holds no other characters than those of words. -/
theorem Name.notMem_of_isDotted {s : String} {c : Char} (h : Name.isDotted (strip s) = true)
    (hblank : isBlank c = false) (hdot : c ≠ '.') (hstart : isWordStart c = false)
    (hpart : isWordPart c = false) : c ∉ s.toList := by
  intro hc
  obtain ⟨p, hp, hmem⟩ := mem_splitList (mem_strip hc hblank) hdot
  have hsegment := List.all_eq_true.1 h (String.ofList p) (List.mem_map_of_mem hp)
  rw [Name.isSegment, Bool.and_eq_true, String.toList_ofList] at hsegment
  rcases Name.mem_isSegmentList hsegment.1 hmem with rfl | hc | hc
  · cases hblank
  · rw [hstart] at hc
    cases hc
  · rw [hpart] at hc
    cases hc

namespace QualifiedName

theorem part?_of_isDotted {s : String} (field : String) (h : Name.isDotted (strip s) = true) :
    part? field (.text s) = .ok s := by
  have hne : (strip s == "") = false := by
    rw [beq_eq_false_iff_ne]
    intro hempty
    rw [hempty] at h
    cases h
  simp only [part?, hne, h, Bool.false_eq_true, if_false, if_true]

theorem ofTexts?_of_isDotted {module qualname : String}
    (hm : Name.isDotted (strip module) = true) (hq : Name.isDotted (strip qualname) = true) :
    ofTexts? module qualname = .ok ⟨module, qualname⟩ := by
  unfold ofTexts? ofValues?
  rw [part?_of_isDotted _ hm, part?_of_isDotted _ hq]

theorem eq_of_part? {field s t : String} (h : part? field (.text s) = .ok t) : t = s := by
  simp only [part?] at h
  split at h
  · cases h
  · split at h
    · exact (Except.ok.inj h).symm
    · cases h

theorem parts_of_ofValues? {module qualname : Value} {n : QualifiedName}
    (h : ofValues? module qualname = .ok n) :
    part? "module" module = .ok n.module ∧ part? "qualname" qualname = .ok n.qualname := by
  unfold ofValues? at h
  cases hm : part? "module" module with
  | error e =>
    rw [hm] at h
    cases h
  | ok m =>
    cases hq : part? "qualname" qualname with
    | error e =>
      rw [hm, hq] at h
      cases h
    | ok q =>
      rw [hm, hq] at h
      cases h
      exact ⟨rfl, rfl⟩

theorem eq_of_ofTexts? {module qualname : String} {n : QualifiedName}
    (h : ofTexts? module qualname = .ok n) : n = ⟨module, qualname⟩ := by
  obtain ⟨hm, hq⟩ := parts_of_ofValues? h
  rw [← eq_of_part? hm, ← eq_of_part? hq]

theorem isDotted_of_part? {field s t : String}
    (h : part? field (.text s) = .ok t) : Name.isDotted (strip s) = true := by
  simp only [part?] at h
  split at h
  · cases h
  · split at h
    · rename_i hdotted
      exact hdotted
    · cases h

theorem isDotted_of_ofTexts? {module qualname : String} {n : QualifiedName}
    (h : ofTexts? module qualname = .ok n) :
    Name.isDotted (strip module) = true ∧ Name.isDotted (strip qualname) = true := by
  obtain ⟨hm, hq⟩ := parts_of_ofValues? h
  exact ⟨isDotted_of_part? hm, isDotted_of_part? hq⟩

theorem ofAttributes?_of_isDotted {module qualname : String}
    (hm : Name.isDotted (strip module) = true) (hq : Name.isDotted (strip qualname) = true) :
    ofAttributes? (.text module) (.text qualname) = some ⟨module, qualname⟩ := by
  have hlocal : contains qualname "<locals>" = false :=
    occursIn_of_notMem (Name.notMem_of_isDotted hq (by decide) (by decide) (by decide) (by decide))
  simp only [ofAttributes?, hlocal, Bool.false_eq_true, if_false, ofTexts?_of_isDotted hm hq]

end QualifiedName

end Foundry
