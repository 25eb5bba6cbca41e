import Mathlib.Data.List.Nodup
import Mathlib.Data.List.Perm.Basic
import Foundry.Ordered

/-!
Tables laid over each other: many entries given one after the other, the last value of a key, and
the first of several tables that has one.
-/

namespace Foundry.Ordered

variable {κ α : Type} [DecidableEq κ] {m : Ordered κ α} {entries : List (κ × α)} {k : κ} {v : α}

omit [DecidableEq κ] in
theorem eq_of_entries {m m' : Ordered κ α} (h : m.entries = m'.entries) : m = m' := by
  cases m
  cases m'
  exact mk.injEq .. ▸ h

theorem get?_insert (m : Ordered κ α) (k k' : κ) (v : α) :
    (m.insert k v).get? k' = if k = k' then some v else m.get? k' := by
  split
  · rename_i h
    rw [h, get?_insert_self]
  · rename_i h
    exact get?_insert_of_ne m v (Ne.symm h)

theorem contains_insertAll (m : Ordered κ α) (entries : List (κ × α)) (k : κ) :
    (m.insertAll entries).contains k = true ↔ k ∈ entries.map Prod.fst ∨ m.contains k = true := by
  induction entries generalizing m with
  | nil => simp [insertAll]
  | cons e rest ih =>
    rw [insertAll, List.foldl_cons, ← insertAll, ih, contains_insert]
    simp only [Bool.or_eq_true, decide_eq_true_eq, List.map_cons, List.mem_cons]
    rw [← or_assoc, or_comm (a := k ∈ rest.map Prod.fst)]

theorem get?_ofList_eq_none_iff :
    (ofList entries).get? k = none ↔ k ∉ entries.map Prod.fst := by
  rw [← Option.not_isSome_iff_eq_none, ← contains, ofList, contains_insertAll]
  simp [contains]

/-- A key that is given one value only has that value. -/
theorem get?_ofList_of_mem (h : (k, v) ∈ entries) (hv : ∀ w, (k, w) ∈ entries → w = v) :
    (ofList entries).get? k = some v := by
  cases hget : (ofList entries).get? k with
  | none => exact absurd (List.mem_map_of_mem h) (get?_ofList_eq_none_iff.1 hget)
  | some w => rw [hv w (mem_of_get?_ofList hget)]

theorem ofList_entries (m : Ordered κ α) : ofList m.entries = m := by
  have hall : ∀ (rest : List (κ × α)) (acc : Ordered κ α),
      ((acc.entries ++ rest).map Prod.fst).Nodup →
      (acc.insertAll rest).entries = acc.entries ++ rest := by
    intro rest
    induction rest with
    | nil =>
      intro acc _
      exact (List.append_nil _).symm
    | cons e rest ih =>
      intro acc hnodup
      have hnew : acc.get? e.1 = none := by
        rw [get?_eq_none_iff]
        intro hmem
        rw [List.map_append, List.nodup_append] at hnodup
        exact hnodup.2.2 e.1 hmem e.1 (by simp) rfl
      have hentries := entries_insert_of_get?_none e.2 hnew
      have hrest := ih (acc.insert e.1 e.2) (by rw [hentries]; simpa using hnodup)
      rw [hentries, List.append_assoc] at hrest
      exact hrest
  exact eq_of_entries (hall m.entries empty m.distinct)

theorem get?_filterMap {β : Type} (m : Ordered κ α) (f : κ → α → Option β) (k : κ) :
    (m.filterMap f).get? k = (m.get? k).bind (f k) := by
  refine Option.ext fun b => ?_
  rw [get?_eq_some_iff, Option.bind_eq_some_iff, filterMap, List.mem_filterMap]
  constructor
  · rintro ⟨e, he, hb⟩
    obtain ⟨b', hb', hsame⟩ := Option.map_eq_some_iff.1 hb
    obtain ⟨rfl, rfl⟩ := Prod.mk.inj hsame
    exact ⟨e.2, (get?_eq_some_iff m e.1 e.2).2 he, hb'⟩
  · rintro ⟨v, hv, hb⟩
    exact ⟨(k, v), (get?_eq_some_iff m k v).1 hv, Option.map_eq_some_iff.2 ⟨b, hb, rfl⟩⟩

/-! ### The last value of a key -/

/-- The last value that entries give a key. -/
def lastGiven (k : κ) (entries : List (κ × α)) : Option α :=
  (entries.filterMap fun e => if e.1 = k then some e.2 else none).getLast?

theorem lastGiven_cons (k : κ) (e : κ × α) (rest : List (κ × α)) :
    lastGiven k (e :: rest) = (lastGiven k rest).or (if e.1 = k then some e.2 else none) := by
  unfold lastGiven
  rw [List.filterMap_cons]
  by_cases he : e.1 = k
  · simp [he, List.getLast?_cons]
  · simp [he]

theorem lastGiven_eq_none (h : k ∉ entries.map Prod.fst) : lastGiven k entries = none := by
  unfold lastGiven
  rw [List.getLast?_eq_none_iff, List.filterMap_eq_nil_iff]
  intro e he
  have hne : e.1 ≠ k := by
    rintro rfl
    exact h (List.mem_map_of_mem he)
  exact if_neg hne

theorem lastGiven_filterMap_cons {β : Type} (k : κ) (f : β → Option (κ × α)) (b : β)
    (rest : List β) : lastGiven k ((b :: rest).filterMap f) =
      (lastGiven k (rest.filterMap f)).or
        ((f b).bind fun e => if e.1 = k then some e.2 else none) := by
  cases hb : f b with
  | none => rw [List.filterMap_cons_none hb, Option.bind_none, Option.or_none]
  | some e => rw [List.filterMap_cons_some hb, lastGiven_cons, Option.bind_some]

theorem lastGiven_append (k : κ) (entries more : List (κ × α)) :
    lastGiven k (entries ++ more) = (lastGiven k more).or (lastGiven k entries) := by
  unfold lastGiven
  rw [List.filterMap_append, List.getLast?_append]

theorem get?_insertAll_eq (m : Ordered κ α) (entries : List (κ × α)) (k : κ) :
    (m.insertAll entries).get? k = (lastGiven k entries).or (m.get? k) := by
  induction entries generalizing m with
  | nil => rfl
  | cons e rest ih =>
    have hcons : m.insertAll (e :: rest) = (m.insert e.1 e.2).insertAll rest := rfl
    rw [hcons, ih, lastGiven_cons, Option.or_assoc]
    by_cases he : k = e.1
    · subst he
      rw [get?_insert_self, if_pos rfl, Option.some_or]
    · rw [get?_insert_of_ne m e.2 he, if_neg (Ne.symm he), Option.none_or]

theorem lastGiven_entries (m : Ordered κ α) (k : κ) : lastGiven k m.entries = m.get? k := by
  have hget := get?_insertAll_eq empty m.entries k
  rw [get?_empty, Option.or_none] at hget
  exact hget.symm.trans (congrArg (fun m => m.get? k) (ofList_entries m))

theorem get?_erase (m : Ordered κ α) (k k' : κ) :
    (m.erase k).get? k' = if k' = k then none else m.get? k' := by
  rw [erase, get?_filterMap]
  split
  · exact Option.bind_fun_none _
  · exact Option.bind_fun_some _

/-! ### Changing an entry again -/

theorem insert_insert_self (m : Ordered κ α) (k : κ) (v w : α) :
    (m.insert k v).insert k w = m.insert k w := by
  have hentry : ∀ l : List (κ × α), insertEntry k w (insertEntry k v l) = insertEntry k w l := by
    intro l
    induction l with
    | nil => simp [insertEntry]
    | cons e rest ih => by_cases he : e.1 = k <;> simp [insertEntry, he, ih]
  exact eq_of_entries (hentry m.entries)

theorem erase_insert_of_get?_none {m : Ordered κ α} {k : κ} (h : m.get? k = none) (v : α) :
    (m.insert k v).erase k = m := by
  have hkeep : ∀ l : List (κ × α), k ∉ l.map Prod.fst →
      (l.filterMap fun e => (if e.1 = k then none else some e.2).map fun b => (e.1, b)) = l := by
    intro l hk
    induction l with
    | nil => rfl
    | cons e rest ih =>
      rw [List.map_cons, List.mem_cons, not_or] at hk
      simp [Ne.symm hk.1, ih hk.2]
  have hrest := hkeep m.entries ((get?_eq_none_iff m k).1 h)
  have hlast : ([(k, v)].filterMap fun e =>
      (if e.1 = k then none else some e.2).map fun b => (e.1, b)) = [] := by simp
  refine eq_of_entries (?_ : List.filterMap _ (m.insert k v).entries = m.entries)
  rw [entries_insert_of_get?_none v h, List.filterMap_append, hrest, hlast, List.append_nil]

/-! ### Layers -/

/-- Tables laid over each other, the first one on top. -/
def overlay (tables : List (Ordered κ α)) : Ordered κ α :=
  tables.reverse.foldl (fun below t => below.insertAll t.entries) empty

theorem get?_overlay (tables : List (Ordered κ α)) (k : κ) :
    (overlay tables).get? k = tables.findSome? fun t => t.get? k := by
  induction tables with
  | nil => rfl
  | cons t rest ih =>
    have hcons : overlay (t :: rest) = (overlay rest).insertAll t.entries := by
      unfold overlay
      rw [List.reverse_cons, List.foldl_append, List.foldl_cons, List.foldl_nil]
    rw [hcons, get?_insertAll_eq, lastGiven_entries, ih, List.findSome?_cons]
    cases t.get? k with
    | none => rfl
    | some v => rfl

/-! ### Counting -/

variable {β : Type}

/-- Two tables that hold counted values under the same keys hold equally many of them. -/
theorem length_filter_values {m : Ordered κ α} {m' : Ordered κ β} {p : α → Bool} {q : β → Bool}
    (h : ∀ k, (m.get? k).any p = (m'.get? k).any q) :
    (m.values.filter p).length = (m'.values.filter q).length := by
  have hcount : ∀ {γ : Type} (t : Ordered κ γ) (r : γ → Bool),
      (t.values.filter r).length = ((t.entries.filter fun e => r e.2).map Prod.fst).length := by
    intro γ t r
    rw [values, List.filter_map, List.length_map, List.length_map]
    rfl
  have hnodup : ∀ {γ : Type} (t : Ordered κ γ) (r : γ → Bool),
      ((t.entries.filter fun e => r e.2).map Prod.fst).Nodup :=
    fun t r => t.distinct.sublist (List.filter_sublist.map Prod.fst)
  have hmem : ∀ {γ : Type} (t : Ordered κ γ) (r : γ → Bool) (k : κ),
      k ∈ (t.entries.filter fun e => r e.2).map Prod.fst ↔ (t.get? k).any r = true := by
    intro γ t r k
    simp only [List.mem_map, List.mem_filter, Option.any_eq_true, get?_eq_some_iff]
    constructor
    · rintro ⟨⟨k, v⟩, ⟨he, hv⟩, rfl⟩
      exact ⟨v, he, hv⟩
    · rintro ⟨v, he, hv⟩
      exact ⟨(k, v), ⟨he, hv⟩, rfl⟩
  rw [hcount, hcount]
  refine ((List.perm_ext_iff_of_nodup (hnodup m p) (hnodup m' q)).2 fun k => ?_).length_eq
  rw [hmem, hmem, h]

end Foundry.Ordered
