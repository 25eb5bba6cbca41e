import Foundry.Text.Segments

/-!
Joining pieces and cutting texts undo one another.
-/

namespace Foundry.Text

variable {sep : Char}

/-- A check of all characters that evaluates character by character. -/
theorem forall_mem_of_all {P : Char → Prop} [DecidablePred P] {cs : List Char}
    (h : cs.all (fun c => decide (P c)) = true) : ∀ c ∈ cs, P c :=
  fun c hc => of_decide_eq_true (List.all_eq_true.1 h c hc)

theorem splitList_ne_nil (sep : Char) (cs : List Char) : splitList sep cs ≠ [] := by
  cases cs with
  | nil => simp [splitList]
  | cons c cs =>
    rw [splitList]
    split
    · simp
    · split <;> simp

theorem notMem_of_mem_splitList {p cs : List Char} (hp : p ∈ splitList sep cs) : sep ∉ p := by
  induction cs generalizing p with
  | nil =>
    obtain rfl := List.mem_singleton.1 hp
    exact List.not_mem_nil
  | cons c cs ih =>
    rw [splitList] at hp
    by_cases hc : c = sep
    · rw [if_pos hc] at hp
      rcases List.mem_cons.1 hp with rfl | hp
      · exact List.not_mem_nil
      · exact ih hp
    · rw [if_neg hc] at hp
      obtain ⟨q, qs, hq⟩ := List.exists_cons_of_ne_nil (splitList_ne_nil sep cs)
      rw [hq] at hp ih
      rcases List.mem_cons.1 hp with rfl | hp
      · rw [List.mem_cons, not_or]
        exact ⟨Ne.symm hc, ih List.mem_cons_self⟩
      · exact ih (List.mem_cons_of_mem q hp)

theorem mem_of_startsWithList {c : Char} {ps cs : List Char} (h : startsWithList ps cs = true)
    (hc : c ∈ ps) : c ∈ cs := by
  induction ps generalizing cs with
  | nil => cases hc
  | cons p ps ih =>
    cases cs with
    | nil => cases h
    | cons d cs =>
      rw [startsWithList, Bool.and_eq_true, beq_iff_eq] at h
      rcases List.mem_cons.1 hc with rfl | hc
      · exact h.1 ▸ List.mem_cons_self
      · exact List.mem_cons_of_mem d (ih h.2 hc)

theorem splitList_append_cons {p : List Char} (h : sep ∉ p) (cs : List Char) :
    splitList sep (p ++ sep :: cs) = p :: splitList sep cs := by
  induction p with
  | nil => simp [splitList]
  | cons c p ih =>
    rw [List.mem_cons, not_or] at h
    rw [List.cons_append, splitList, if_neg (Ne.symm h.1), ih h.2]

theorem splitList_of_notMem {p : List Char} (h : sep ∉ p) : splitList sep p = [p] := by
  induction p with
  | nil => rfl
  | cons c p ih =>
    rw [List.mem_cons, not_or] at h
    rw [splitList, if_neg (Ne.symm h.1), ih h.2]

theorem splitList_append (p cs : List Char) :
    splitList sep (p ++ sep :: cs) = splitList sep p ++ splitList sep cs := by
  induction p with
  | nil => simp [splitList]
  | cons c p ih =>
    rw [List.cons_append, splitList, splitList, ih]
    split
    · rfl
    · obtain ⟨q, qs, hq⟩ := List.exists_cons_of_ne_nil (splitList_ne_nil sep p)
      rw [hq]
      rfl

theorem join_cons_cons (text p q : String) (ps : List String) :
    join text (p :: q :: ps) = p ++ text ++ join text (q :: ps) := rfl

theorem forall_mem_join {P : Char → Prop} {text : String} (htext : ∀ c ∈ text.toList, P c)
    {ps : List String} (h : ∀ p ∈ ps, ∀ c ∈ p.toList, P c) :
    ∀ c ∈ (join text ps).toList, P c := by
  induction ps with
  | nil => exact fun c hc => absurd hc List.not_mem_nil
  | cons p ps ih =>
    obtain ⟨hp, hps⟩ := List.forall_mem_cons.1 h
    cases ps with
    | nil => exact hp
    | cons q ps =>
      rw [join_cons_cons, String.toList_append, String.toList_append]
      exact List.forall_mem_append.2 ⟨List.forall_mem_append.2 ⟨hp, htext⟩, ih hps⟩

theorem mem_join (text : String) {p : String} {ps : List String} (hp : p ∈ ps) {c : Char}
    (hc : c ∈ p.toList) : c ∈ (join text ps).toList := by
  induction ps with
  | nil => exact absurd hp List.not_mem_nil
  | cons q ps ih =>
    cases ps with
    | nil =>
      rw [List.mem_singleton.1 hp] at hc
      exact hc
    | cons r ps =>
      rw [join_cons_cons, String.toList_append, String.toList_append]
      rcases List.mem_cons.1 hp with rfl | hp
      · exact List.mem_append_left _ (List.mem_append_left _ hc)
      · exact List.mem_append_right _ (ih hp)

theorem splitList_join {text : String} (htext : text.toList = [sep]) {ps : List String}
    (hne : ps ≠ []) (h : ∀ p ∈ ps, sep ∉ p.toList) :
    splitList sep (join text ps).toList = ps.map String.toList := by
  induction ps with
  | nil => exact absurd rfl hne
  | cons p ps ih =>
    have hp : sep ∉ p.toList := h p List.mem_cons_self
    cases ps with
    | nil => exact splitList_of_notMem hp
    | cons q ps =>
      have hrest := ih (List.cons_ne_nil q ps) fun x hx => h x (List.mem_cons_of_mem p hx)
      rw [join_cons_cons, String.toList_append, String.toList_append, htext, List.append_assoc,
        List.singleton_append, splitList_append_cons hp, hrest]
      rfl

theorem join_map_splitList {text : String} (htext : text.toList = [sep]) (cs : List Char) :
    join text ((splitList sep cs).map String.ofList) = String.ofList cs := by
  induction cs with
  | nil => rfl
  | cons c cs ih =>
    obtain ⟨p, ps, hps⟩ := List.exists_cons_of_ne_nil (splitList_ne_nil sep cs)
    rw [hps] at ih
    rw [splitList, hps]
    by_cases h : c = sep
    · rw [if_pos h, List.map_cons, List.map_cons, join_cons_cons, ← List.map_cons, ih]
      rw [← String.toList_inj]
      simp [htext, h]
    · rw [if_neg h]
      cases ps with
      | nil =>
        rw [← String.toList_inj] at ih ⊢
        simpa [join] using ih
      | cons q ps =>
        rw [← String.toList_inj] at ih ⊢
        simpa [join] using ih

theorem dotted_segments (s : String) : dotted (segments s) = s := by
  have h := join_map_splitList (show ".".toList = ['.'] from rfl) s.toList
  rwa [String.ofList_toList] at h

theorem segments_append (s t : String) : segments (s ++ "." ++ t) = segments s ++ segments t := by
  have h : (s ++ "." ++ t).toList = s.toList ++ '.' :: t.toList := by simp
  rw [segments, split, h, splitList_append, List.map_append]
  rfl

theorem segments_of_notMem {s : String} (h : '.' ∉ s.toList) : segments s = [s] := by
  rw [segments, split, splitList_of_notMem h]
  simp

theorem notMem_of_mem_segments {s p : String} (h : p ∈ segments s) : '.' ∉ p.toList := by
  obtain ⟨cs, hcs, rfl⟩ := List.mem_map.1 h
  rw [String.toList_ofList]
  exact notMem_of_mem_splitList hcs

theorem segments_dotted_of_notMem {ps : List String} (hne : ps ≠ [])
    (h : ∀ p ∈ ps, '.' ∉ p.toList) : segments (dotted ps) = ps := by
  rw [segments, split, dotted, splitList_join (show ".".toList = ['.'] from rfl) hne h]
  simp

theorem segments_ne_nil (s : String) : segments s ≠ [] := by
  simp [segments, split, splitList_ne_nil]

theorem segments_dropLast_concat (s : String) :
    (segments s).dropLast ++ [lastSegment s] = segments s := by
  rw [lastSegment, List.getLastD_eq_getLast?, List.getLast?_eq_some_getLast (segments_ne_nil s)]
  exact List.dropLast_concat_getLast (segments_ne_nil s)

theorem lastSegment_mem (s : String) : lastSegment s ∈ segments s := by
  rw [← segments_dropLast_concat s]
  exact List.mem_append_right _ List.mem_cons_self

theorem dotted_cons {p : String} {ps : List String} (h : ps ≠ []) :
    dotted (p :: ps) = p ++ "." ++ dotted ps := by
  obtain ⟨q, qs, rfl⟩ := List.exists_cons_of_ne_nil h
  rfl

theorem dotted_append {ps qs : List String} (hp : ps ≠ []) (hq : qs ≠ []) :
    dotted (ps ++ qs) = dotted ps ++ "." ++ dotted qs := by
  induction ps with
  | nil => exact absurd rfl hp
  | cons p ps ih =>
    cases ps with
    | nil => exact dotted_cons hq
    | cons r rs =>
      have hrest := ih (List.cons_ne_nil r rs)
      rw [List.cons_append, dotted_cons (by simp), hrest, dotted_cons (List.cons_ne_nil r rs)]
      simp only [String.append_assoc]

theorem dotted_ne_empty {ps : List String} (hne : ps ≠ []) (hhead : ps.head? ≠ some "") :
    dotted ps ≠ "" := by
  cases ps with
  | nil => exact absurd rfl hne
  | cons p ps =>
    have hp : p ≠ "" := fun h => hhead (by rw [h]; rfl)
    cases ps with
    | nil => exact hp
    | cons q qs =>
      rw [dotted_cons (List.cons_ne_nil q qs)]
      simp [hp]

/-! ### Beginnings and ends -/

theorem startsWithList_iff {ps cs : List Char} : startsWithList ps cs = true ↔ ps <+: cs := by
  induction ps generalizing cs with
  | nil => simp [startsWithList]
  | cons p ps ih =>
    cases cs with
    | nil => simp [startsWithList]
    | cons c cs => simp [startsWithList, List.cons_prefix_cons, ih]

theorem endsWith_iff {s t : String} : endsWith s t = true ↔ ∃ x, s = x ++ t := by
  rw [endsWith, startsWithList_iff, List.reverse_prefix]
  constructor
  · rintro ⟨cs, hcs⟩
    exact ⟨String.ofList cs, String.toList_inj.1 (by simp [hcs])⟩
  · rintro ⟨x, rfl⟩
    exact ⟨x.toList, by simp⟩

theorem endsWith_append (s t : String) : endsWith (s ++ t) t = true :=
  endsWith_iff.2 ⟨s, rfl⟩

theorem takeText_append (s t : String) : takeText (s ++ t) ((s ++ t).length - t.length) = s := by
  simp [takeText, ← String.length_toList]

theorem startsWith_iff {s t : String} : startsWith s t = true ↔ ∃ x, s = t ++ x := by
  rw [startsWith, startsWithList_iff]
  constructor
  · rintro ⟨cs, hcs⟩
    exact ⟨String.ofList cs, String.toList_inj.1 (by simp [hcs])⟩
  · rintro ⟨x, rfl⟩
    exact ⟨x.toList, by simp⟩

theorem dropText_append (s t : String) : dropText (s ++ t) s.length = t := by
  simp [dropText, ← String.length_toList]

end Foundry.Text
