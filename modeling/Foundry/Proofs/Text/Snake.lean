import Foundry.Name.Snake
import Foundry.Proofs.Text.Words

/-!
The snake case of a plain word is a plain word without capitals, and such a word is its own snake
case.
-/

namespace Foundry

open Text

namespace Name

/-! ### Words -/

theorem isWord_iff {cs : List Char} :
    isWord cs = true ↔
      (∃ c, cs.head? = some c ∧ isWordStart c = true) ∧ ∀ c ∈ cs, isWordPart c = true := by
  cases cs with
  | nil => simp [isWord]
  | cons c cs =>
    have hpart : isWordStart c = true → isWordPart c = true := by
      intro h
      rw [isWordStart, Bool.or_eq_true] at h
      rw [isWordPart, Char.isAlphanum, Bool.or_eq_true, Bool.or_eq_true]
      exact h.imp_left .inl
    simp only [isWord, Bool.and_eq_true, List.all_eq_true, List.head?_cons, Option.some.injEq,
      exists_eq_left', List.forall_mem_cons]
    exact ⟨fun h => ⟨h.1, hpart h.1, h.2⟩, fun h => ⟨h.1, h.2.2⟩⟩

theorem isWord_append {cs ds : List Char} (h : isWord cs = true) :
    isWord (cs ++ ds) = true ↔ ∀ c ∈ ds, isWordPart c = true := by
  obtain ⟨⟨c, hc, hstart⟩, hall⟩ := isWord_iff.1 h
  rw [isWord_iff]
  constructor
  · exact fun hword c hc => hword.2 c (List.mem_append_right _ hc)
  · intro hds
    refine ⟨⟨c, ?_, hstart⟩, fun x hx => (List.mem_append.1 hx).elim (hall x) (hds x)⟩
    rw [List.head?_append, hc]
    rfl

/-! ### The cuts -/

theorem head?_splitWords (n : Nat) (cs : List Char) : (splitWords n cs).head? = cs.head? := by
  fun_cases splitWords n cs <;> rfl

theorem mem_splitWords {n : Nat} {cs : List Char} {x : Char} (h : x ∈ splitWords n cs) :
    x ∈ cs ∨ x = '_' := by
  fun_induction splitWords n cs with
  | case1 cs => exact .inl h
  | case2 n => exact .inl h
  | case3 n c u v rest hwords word ih =>
    simp only [List.cons_append, List.mem_cons, List.mem_append] at h
    have hword : x ∈ word → x ∈ v :: rest := fun hx => List.takeWhile_subset _ hx
    rcases h with rfl | rfl | rfl | hx | hx
    · exact .inl List.mem_cons_self
    · exact .inr rfl
    · exact .inl (List.mem_cons_of_mem _ List.mem_cons_self)
    · exact .inl (List.mem_cons_of_mem _ (List.mem_cons_of_mem _ (hword hx)))
    · refine (ih hx).imp_left fun hx => ?_
      exact List.mem_cons_of_mem _ (List.mem_cons_of_mem _ (List.drop_subset _ _ hx))
  | case4 n c u v rest hwords ih =>
    rcases List.mem_cons.1 h with rfl | hx
    · exact .inl List.mem_cons_self
    · exact (ih hx).imp_left (List.mem_cons_of_mem c)
  | case5 n c cs hshort ih =>
    rcases List.mem_cons.1 h with rfl | hx
    · exact .inl List.mem_cons_self
    · exact (ih hx).imp_left (List.mem_cons_of_mem c)

theorem head?_splitCapitals (cs : List Char) : (splitCapitals cs).head? = cs.head? := by
  fun_cases splitCapitals cs <;> rfl

theorem mem_splitCapitals {cs : List Char} {x : Char} (h : x ∈ splitCapitals cs) :
    x ∈ cs ∨ x = '_' := by
  fun_induction splitCapitals cs with
  | case1 => exact .inl h
  | case2 c => exact .inl h
  | case3 c u rest hcapital ih =>
    simp only [List.mem_cons] at h
    rcases h with rfl | rfl | rfl | hx
    · exact .inl List.mem_cons_self
    · exact .inr rfl
    · exact .inl (List.mem_cons_of_mem _ List.mem_cons_self)
    · refine (ih hx).imp_left fun hx => ?_
      exact List.mem_cons_of_mem _ (List.mem_cons_of_mem _ hx)
  | case4 c u rest hcapital ih =>
    rcases List.mem_cons.1 h with rfl | hx
    · exact .inl List.mem_cons_self
    · exact (ih hx).imp_left (List.mem_cons_of_mem c)

/-! ### The case -/

theorem lowerFrom_ascii {cs : List Char} (h : ∀ c ∈ cs, c.toNat < 128) (before : List Char) :
    lowerFrom before cs = cs.map Char.toLower := by
  induction cs generalizing before with
  | nil => rfl
  | cons c cs ih =>
    obtain ⟨hc, hcs⟩ := List.forall_mem_cons.1 h
    rw [lowerFrom, ih hcs, if_neg (by omega), if_neg (by omega), lowerChar, if_pos hc]
    rfl

/-- A word without capitals. -/
def IsSmall (s : String) : Prop :=
  isWord s.toList = true ∧ ∀ c ∈ s.toList, c.isUpper = false

instance (s : String) : Decidable (IsSmall s) :=
  decidable_of_iff (isWord s.toList = true ∧ s.toList.all (fun c => !c.isUpper) = true) <| by
    simp [IsSmall]

theorem small_toLower {c : Char} (h : isWordPart c = true) :
    isWordPart c.toLower = true ∧ c.toLower.isUpper = false ∧
      (isWordStart c = true → isWordStart c.toLower = true) := by
  refine forall_ascii (P := fun c => isWordPart c = true → isWordPart c.toLower = true ∧
    c.toLower.isUpper = false ∧ (isWordStart c = true → isWordStart c.toLower = true)) ?_
    (isWordPart_lt h) h
  decide

/-- The cuts put in nothing but underscores. -/
theorem isWordPart_of_mem_cuts {n : Nat} {cs : List Char} (h : ∀ c ∈ cs, isWordPart c = true) :
    ∀ x ∈ splitCapitals (splitWords n cs), isWordPart x = true := by
  intro x hx
  rcases mem_splitCapitals hx with hx | rfl
  · rcases mem_splitWords hx with hx | rfl
    · exact h x hx
    · decide
  · decide

theorem snake_toList {s : String} (h : isWord s.toList = true) :
    (snake s).toList =
      (splitCapitals (splitWords (s.toList.length + 1) s.toList)).map Char.toLower := by
  rw [snake, lower, String.toList_ofList, String.toList_ofList]
  have hparts := isWordPart_of_mem_cuts (n := s.toList.length + 1) (isWord_iff.1 h).2
  exact lowerFrom_ascii (fun x hx => isWordPart_lt (hparts x hx)) []

theorem isSmall_snake {s : String} (h : isWord s.toList = true) : IsSmall (snake s) := by
  obtain ⟨⟨c, hc, hstart⟩, hall⟩ := isWord_iff.1 h
  have hhead : (splitCapitals (splitWords (s.toList.length + 1) s.toList)).head? = some c := by
    rw [head?_splitCapitals, head?_splitWords, hc]
  have hparts := isWordPart_of_mem_cuts (n := s.toList.length + 1) hall
  constructor
  · rw [isWord_iff, snake_toList h]
    have hfirst := (small_toLower (hall c (List.mem_of_head? hc))).2.2 hstart
    refine ⟨⟨c.toLower, by rw [List.head?_map, hhead]; rfl, hfirst⟩, ?_⟩
    exact List.forall_mem_map.2 fun x hx => (small_toLower (hparts x hx)).1
  · rw [snake_toList h]
    exact List.forall_mem_map.2 fun x hx => (small_toLower (hparts x hx)).2.1

/-! ### Words that stay as they are -/

theorem splitWords_of_small {n : Nat} {cs : List Char} (h : ∀ c ∈ cs, c.isUpper = false) :
    splitWords n cs = cs := by
  fun_induction splitWords n cs with
  | case1 cs => rfl
  | case2 n => rfl
  | case3 n c u v rest hwords word ih =>
    rw [h u (List.mem_cons_of_mem _ List.mem_cons_self)] at hwords
    cases hwords.2.1
  | case4 n c u v rest hwords ih => rw [ih fun x hx => h x (List.mem_cons_of_mem _ hx)]
  | case5 n c cs hshort ih => rw [ih fun x hx => h x (List.mem_cons_of_mem _ hx)]

theorem splitCapitals_of_small {cs : List Char} (h : ∀ c ∈ cs, c.isUpper = false) :
    splitCapitals cs = cs := by
  fun_induction splitCapitals cs with
  | case1 => rfl
  | case2 c => rfl
  | case3 c u rest hcapital ih =>
    rw [h u (List.mem_cons_of_mem _ List.mem_cons_self), Bool.and_false] at hcapital
    cases hcapital
  | case4 c u rest hcapital ih => rw [ih fun x hx => h x (List.mem_cons_of_mem _ hx)]

theorem snake_of_isSmall {s : String} (h : IsSmall s) : snake s = s := by
  have hascii : ∀ c ∈ s.toList, c.toNat < 128 := fun c hc =>
    isWordPart_lt ((isWord_iff.1 h.1).2 c hc)
  have hlower : ∀ c ∈ s.toList, c.toLower = c := by
    intro c hc
    refine forall_ascii (P := fun c => c.isUpper = false → c.toLower = c) ?_ (hascii c hc)
      (h.2 c hc)
    decide
  rw [snake, splitWords_of_small h.2, splitCapitals_of_small h.2, lower, String.toList_ofList,
    lowerFrom_ascii hascii, List.map_congr_left hlower, List.map_id', String.ofList_toList]

end Name

end Foundry
