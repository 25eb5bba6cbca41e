import Mathlib.Data.List.Basic
import Foundry.Live.Construction

/-!
Orders of ancestors: a merged list keeps the order of every list it was merged from, so what is
found first in an order is found first in the order of each base it stands in.
-/

namespace Foundry.Live

variable {α : Type} {a : α} {lists : List (List α)} {l l' out : List α}

/-! ### Merging -/

/-- A list without repetitions of what stands in some lists that keeps the order of each. -/
structure Merges (lists : List (List α)) (out : List α) : Prop where
  keeps : ∀ l ∈ lists, l.Sublist out
  only : ∀ a ∈ out, ∃ l ∈ lists, a ∈ l
  nodup : out.Nodup

theorem merges_nil (h : ∀ l ∈ lists, l = []) : Merges lists [] := by
  refine ⟨fun l hl => ?_, fun a ha => absurd ha List.not_mem_nil, List.nodup_nil⟩
  rw [h l hl]

variable [DecidableEq α]

theorem nextHead_eq_some (h : nextHead lists = some a) :
    (∃ l ∈ lists, l.head? = some a) ∧ ∀ m ∈ lists, a ∉ m.tail := by
  obtain ⟨l, hl, hfound⟩ := List.exists_of_findSome?_eq_some h
  cases l with
  | nil => cases hfound
  | cons b rest =>
    simp only [Option.ite_none_left_eq_some, Option.some.injEq, List.any_eq_true,
      List.contains_iff_mem, not_exists, not_and] at hfound
    obtain ⟨hfree, rfl⟩ := hfound
    exact ⟨⟨b :: rest, hl, rfl⟩, hfree⟩

/-- What is left of a list when an element is taken off its front. -/
theorem mem_dropHead : l' ∈ dropHead a lists ↔
    ∃ l ∈ lists, l = a :: l' ∨ l.head? ≠ some a ∧ l = l' := by
  simp only [dropHead, List.mem_map]
  refine exists_congr fun l => and_congr_right fun _ => ?_
  cases l with
  | nil => simp
  | cons b rest =>
    by_cases hb : b = a
    · simp [hb]
    · simp [hb]

theorem length_dropHead_lt (h : ∃ l ∈ lists, l.head? = some a) :
    (dropHead a lists).flatten.length < lists.flatten.length := by
  have hle : ∀ ls : List (List α), (dropHead a ls).flatten.length ≤ ls.flatten.length := by
    intro ls
    induction ls with
    | nil => exact Nat.le_refl 0
    | cons l ls ih =>
      simp only [dropHead, List.map_cons, List.flatten_cons, List.length_append] at ih ⊢
      split
      · rw [List.length_tail]
        omega
      · omega
  induction lists with
  | nil =>
    obtain ⟨l, hl, -⟩ := h
    cases hl
  | cons l ls ih =>
    have hrest := hle ls
    simp only [dropHead, List.map_cons, List.flatten_cons, List.length_append] at ih hrest ⊢
    by_cases hl : l.head? = some a
    · have hpos : 0 < l.length := by
        cases l with
        | nil => cases hl
        | cons b rest => exact Nat.succ_pos _
      rw [if_pos hl, List.length_tail]
      omega
    · rw [if_neg hl]
      obtain ⟨m, hm, hhead⟩ := h
      rcases List.mem_cons.1 hm with rfl | hm
      · exact absurd hhead hl
      · have hlt := ih ⟨m, hm, hhead⟩
        omega

theorem Merges.cons (hfree : ∀ m ∈ lists, a ∉ m.tail) (hhead : ∃ l ∈ lists, l.head? = some a)
    (h : Merges (dropHead a lists) out) : Merges lists (a :: out) := by
  refine ⟨fun l hl => ?_, fun b hb => ?_, List.nodup_cons.2 ⟨fun ha => ?_, h.nodup⟩⟩
  · by_cases hfirst : l.head? = some a
    · obtain ⟨rest, rfl⟩ := List.head?_eq_some_iff.1 hfirst
      exact (h.keeps rest (mem_dropHead.2 ⟨_, hl, .inl rfl⟩)).cons_cons a
    · exact (h.keeps l (mem_dropHead.2 ⟨_, hl, .inr ⟨hfirst, rfl⟩⟩)).cons a
  · rcases List.mem_cons.1 hb with rfl | hb
    · obtain ⟨l, hl, hfirst⟩ := hhead
      exact ⟨l, hl, List.mem_of_mem_head? hfirst⟩
    · obtain ⟨l', hl', hb⟩ := h.only b hb
      obtain ⟨l, hl, rfl | ⟨-, rfl⟩⟩ := mem_dropHead.1 hl'
      · exact ⟨_, hl, List.mem_cons_of_mem a hb⟩
      · exact ⟨_, hl, hb⟩
  · obtain ⟨l', hl', ha⟩ := h.only a ha
    obtain ⟨l, hl, rfl | ⟨hne, rfl⟩⟩ := mem_dropHead.1 hl'
    · exact hfree _ hl ha
    · cases l with
      | nil => cases ha
      | cons b rest =>
        rcases List.mem_cons.1 ha with rfl | ha
        · exact hne rfl
        · exact hfree _ hl ha

theorem merges_of_merge {fuel : Nat} (h : merge fuel lists = .ok out)
    (hroom : lists.flatten.length < fuel) : Merges lists out := by
  induction fuel generalizing lists out with
  | zero => omega
  | succ fuel ih =>
    rw [merge] at h
    have hlen : (lists.filter fun l => !l.isEmpty).flatten.length = lists.flatten.length := by
      rw [List.flatten_filter_not_isEmpty]
    -- Empty lists are kept by any list.
    have hall : ∀ merged, Merges (lists.filter fun l => !l.isEmpty) merged →
        Merges lists merged := by
      intro merged hm
      refine ⟨fun l hl => ?_, fun a ha => ?_, hm.nodup⟩
      · cases l with
        | nil => exact List.nil_sublist merged
        | cons b rest => exact hm.keeps _ (List.mem_filter.2 ⟨hl, rfl⟩)
      · obtain ⟨l, hl, ha⟩ := hm.only a ha
        exact ⟨l, List.mem_of_mem_filter hl, ha⟩
    split at h
    · rename_i hempty
      cases h
      refine hall [] (merges_nil fun l hl => ?_)
      rw [List.isEmpty_iff.1 hempty] at hl
      cases hl
    · split at h
      · cases h
      · rename_i b hnext
        obtain ⟨hhead, hfree⟩ := nextHead_eq_some hnext
        have hlt := length_dropHead_lt hhead
        cases hmerge : merge fuel (dropHead b (lists.filter fun l => !l.isEmpty)) with
        | error blocked =>
          rw [hmerge] at h
          cases h
        | ok merged =>
          rw [hmerge] at h
          cases h
          exact hall _ (.cons hfree hhead (ih hmerge (by omega)))

theorem linearize_eq_ok {bases : List α} {order : α → List α}
    (h : linearize a bases order = .ok out) :
    ∃ rest, out = a :: rest ∧ Merges (bases.map order ++ [bases]) rest := by
  unfold linearize at h
  dsimp only at h
  cases hmerge : merge ((bases.map order ++ [bases]).flatten.length + 1)
      (bases.map order ++ [bases]) with
  | error blocked =>
    rw [hmerge] at h
    cases h
  | ok rest =>
    rw [hmerge] at h
    cases h
    exact ⟨rest, rfl, merges_of_merge hmerge (Nat.lt_succ_self _)⟩

/-! ### What is found first -/

omit [DecidableEq α] in
theorem find?_of_sublist {found : α → Bool} (hsub : l'.Sublist l) (hnodup : l.Nodup)
    (hfind : l.find? found = some a) (ha : a ∈ l') : l'.find? found = some a := by
  induction hsub with
  | slnil => cases ha
  | @cons m m' b _ ih =>
    rw [List.nodup_cons] at hnodup
    rw [List.find?_cons] at hfind
    cases hb : found b with
    | true =>
      rw [hb] at hfind
      obtain rfl := Option.some.inj hfind
      exact absurd (‹m.Sublist m'›.subset ha) hnodup.1
    | false =>
      rw [hb] at hfind
      exact ih hnodup.2 hfind ha
  | @cons_cons m m' b _ ih =>
    rw [List.nodup_cons] at hnodup
    rw [List.find?_cons] at hfind ⊢
    cases hb : found b with
    | true =>
      rw [hb] at hfind
      exact hfind
    | false =>
      rw [hb] at hfind
      rcases List.mem_cons.1 ha with rfl | ha
      · rw [List.find?_some hfind] at hb
        cases hb
      · exact ih hnodup.2 hfind ha

omit [DecidableEq α] in
theorem find?_of_imp {found narrower : α → Bool}
    (himp : ∀ b ∈ l, narrower b = true → found b = true) (hfind : l.find? found = some a)
    (ha : narrower a = true) : l.find? narrower = some a := by
  obtain ⟨-, before, after, rfl, hbefore⟩ := List.find?_eq_some_iff_append.1 hfind
  refine List.find?_eq_some_iff_append.2 ⟨ha, before, after, rfl, fun b hb => ?_⟩
  rw [Bool.not_eq_true', ← Bool.not_eq_true]
  intro hnarrower
  have hfound := himp b (List.mem_append_left _ hb) hnarrower
  have hnot := hbefore b hb
  rw [hfound] at hnot
  cases hnot

end Foundry.Live
