import Foundry.Name.Dotted
import Foundry.Proofs.Text.Splitting

/-!
Names: identifiers that are no reserved words, and paths of names joined by dots.
-/

namespace Foundry.Text

structure IsName (s : String) : Prop where
  identifier : isIdentifier s = true
  free : isKeyword s = false

def IsPath (s : String) : Prop :=
  ∀ p ∈ segments s, IsName p

/-! ### Start characters continue as well -/

theorem mem_foldl_dropWhile (rs cs : List (Nat × Nat)) {r : Nat × Nat} (h : r ∈ rs) :
    (∃ c ∈ cs, c.1 ≤ r.1 ∧ r.2 ≤ c.2) ∨
      r ∈ cs.foldl (fun rs c => rs.dropWhile fun r => c.1 ≤ r.1 && r.2 ≤ c.2) rs := by
  induction cs generalizing rs with
  | nil => exact .inr h
  | cons c cs ih =>
    rw [← List.takeWhile_append_dropWhile (p := fun r => c.1 ≤ r.1 && r.2 ≤ c.2) (l := rs),
      List.mem_append] at h
    rcases h with h | h
    · have hc := List.all_eq_true.1 List.all_takeWhile r h
      rw [Bool.and_eq_true, decide_eq_true_eq, decide_eq_true_eq] at hc
      exact .inl ⟨c, List.mem_cons_self, hc⟩
    · rcases ih _ h with ⟨c', hc', hr⟩ | h
      · exact .inl ⟨c', List.mem_cons_of_mem c hc', hr⟩
      · exact .inr h

/-- Both tables are sorted, so that one pass over them shows that the first lies in the second. -/
theorem identifierStartRanges_covered :
    (identifierContinueRanges.foldl (fun rs c => rs.dropWhile fun r => c.1 ≤ r.1 && r.2 ≤ c.2)
      identifierStartRanges).isEmpty = true := by
  decide +kernel

theorem isIdentifierContinue_of_start {c : Char} (h : isIdentifierStart c = true) :
    isIdentifierContinue c = true := by
  unfold isIdentifierStart at h
  unfold isIdentifierContinue
  split
  · rename_i hascii
    rw [if_pos hascii, isWordStart, Bool.or_eq_true] at h
    rw [isWordPart, Char.isAlphanum, Bool.or_eq_true, Bool.or_eq_true]
    exact h.imp_left .inl
  · rename_i hascii
    rw [if_neg hascii, inRanges, List.any_eq_true] at h
    obtain ⟨r, hr, hin⟩ := h
    rw [Bool.and_eq_true, decide_eq_true_eq, decide_eq_true_eq] at hin
    rw [inRanges, List.any_eq_true]
    rcases mem_foldl_dropWhile _ identifierContinueRanges hr with ⟨c', hc', hle⟩ | hleft
    · refine ⟨c', hc', ?_⟩
      rw [Bool.and_eq_true, decide_eq_true_eq, decide_eq_true_eq]
      exact ⟨Nat.le_trans hle.1 hin.1, Nat.le_trans hin.2 hle.2⟩
    · rw [List.isEmpty_iff.1 identifierStartRanges_covered] at hleft
      cases hleft

/-! ### Characters of names -/

theorem IsName.exists_cons {s : String} (h : IsName s) :
    ∃ c cs, s.toList = c :: cs ∧ isIdentifierStart c = true := by
  have hid := h.identifier
  unfold isIdentifier at hid
  split at hid
  · cases hid
  · rename_i c cs hs
    rw [Bool.and_eq_true] at hid
    exact ⟨c, cs, hs, hid.1⟩

theorem IsName.continues {s : String} (h : IsName s) :
    ∀ c ∈ s.toList, isIdentifierContinue c = true := by
  have hid := h.identifier
  unfold isIdentifier at hid
  split at hid
  · cases hid
  · rename_i c cs hs
    rw [Bool.and_eq_true, List.all_eq_true] at hid
    rw [hs]
    intro x hx
    rcases List.mem_cons.1 hx with rfl | hx
    · exact isIdentifierContinue_of_start hid.1
    · exact hid.2 x hx

theorem IsName.notMem {s : String} (h : IsName s) {c : Char}
    (hc : isIdentifierContinue c = false) : c ∉ s.toList := by
  intro hmem
  exact absurd ((h.continues c hmem).symm.trans hc) (by decide)

theorem IsPath.notMem {s : String} (h : IsPath s) {c : Char}
    (hc : isIdentifierContinue c = false) (hdot : c ≠ '.') : c ∉ s.toList := by
  have hps : ∀ ps : List String, (∀ p ∈ ps, IsName p) → c ∉ (dotted ps).toList := by
    intro ps hps
    induction ps with
    | nil => exact List.not_mem_nil
    | cons p ps ih =>
      have hp := (hps p List.mem_cons_self).notMem hc
      have hrest := ih fun q hq => hps q (List.mem_cons_of_mem p hq)
      cases ps with
      | nil => exact hp
      | cons q ps =>
        rw [dotted_cons (List.cons_ne_nil q ps)]
        simp only [String.toList_append, List.mem_append, not_or]
        refine ⟨⟨hp, ?_⟩, hrest⟩
        simpa using hdot
  rw [← dotted_segments s]
  exact hps (segments s) h

/-! ### Plain words -/

theorem isWordStart_lt {c : Char} (h : isWordStart c = true) : c.toNat < 128 := by
  delta isWordStart Char.isAlpha Char.isUpper Char.isLower at h
  simp only [Bool.or_eq_true, Bool.and_eq_true, decide_eq_true_eq, beq_iff_eq,
    UInt32.le_iff_toNat_le] at h
  rcases h with (h | h) | rfl
  · exact Nat.lt_of_le_of_lt h.2 (by decide)
  · exact Nat.lt_of_le_of_lt h.2 (by decide)
  · decide

theorem isWordPart_lt {c : Char} (h : isWordPart c = true) : c.toNat < 128 := by
  rw [isWordPart, Char.isAlphanum, Bool.or_eq_true, Bool.or_eq_true] at h
  rcases h with (h | h) | h
  · exact isWordStart_lt (by rw [isWordStart, h, Bool.true_or])
  · simp only [Char.isDigit, Bool.and_eq_true, decide_eq_true_eq, UInt32.le_iff_toNat_le] at h
    exact Nat.lt_of_le_of_lt h.2 (by decide)
  · exact isWordStart_lt (by rw [isWordStart, h, Bool.or_true])

/-- What holds of every plain character, checked one after the other. -/
theorem forall_ascii {P : Char → Prop} (h : ∀ n < 128, P (Char.ofNat n)) {c : Char}
    (hc : c.toNat < 128) : P c := by
  have hp := h c.toNat hc
  rwa [Char.ofNat_toNat] at hp

theorem isIdentifier_of_isWord {s : String} (h : Name.isWord s.toList = true) :
    isIdentifier s = true := by
  unfold isIdentifier
  unfold Name.isWord at h
  cases hs : s.toList with
  | nil => simp [hs] at h
  | cons c cs =>
    simp only [hs, Bool.and_eq_true, List.all_eq_true] at h
    simp only [Bool.and_eq_true, List.all_eq_true]
    refine ⟨?_, fun x hx => ?_⟩
    · rw [isIdentifierStart, if_pos (isWordStart_lt h.1)]
      exact h.1
    · rw [isIdentifierContinue, if_pos (isWordPart_lt (h.2 x hx))]
      exact h.2 x hx

end Foundry.Text
