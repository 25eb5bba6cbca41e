/-!
Maps that remember the order in which their keys were first given a value. A new value keeps the
place of its key, and a key that was erased comes last when it is given a value again.
-/

namespace Foundry

variable {κ α β : Type}

/-- Keys with values, in the order of first insertion; no key occurs twice. -/
structure Ordered (κ α : Type) where
  entries : List (κ × α)
  distinct : (entries.map Prod.fst).Nodup
deriving Repr

namespace Ordered

def empty : Ordered κ α := ⟨[], List.nodup_nil⟩

instance : Inhabited (Ordered κ α) := ⟨empty⟩

def keys (m : Ordered κ α) : List κ :=
  m.entries.map (·.1)

def values (m : Ordered κ α) : List α :=
  m.entries.map (·.2)

def size (m : Ordered κ α) : Nat :=
  m.entries.length

def isEmpty (m : Ordered κ α) : Bool :=
  m.entries.isEmpty

theorem nodup_keys (m : Ordered κ α) : m.keys.Nodup :=
  m.distinct

/-! ### Dropping and changing entries -/

/-- The keys that are left keep their order. -/
theorem map_fst_filterMap_sublist (f : κ → α → Option β) (l : List (κ × α)) :
    ((l.filterMap fun e => (f e.1 e.2).map fun b => (e.1, b)).map Prod.fst).Sublist
      (l.map Prod.fst) := by
  induction l with
  | nil => exact List.Sublist.slnil
  | cons e rest ih =>
    cases h : f e.1 e.2 with
    | none => simpa [List.filterMap_cons, h] using ih.cons e.1
    | some b => simpa [List.filterMap_cons, h] using ih

/-- The entries that a function keeps, with the values it gives them. -/
def filterMap (m : Ordered κ α) (f : κ → α → Option β) : Ordered κ β :=
  ⟨m.entries.filterMap fun e => (f e.1 e.2).map fun b => (e.1, b),
    m.distinct.sublist (map_fst_filterMap_sublist f m.entries)⟩

variable [DecidableEq κ]

def erase (m : Ordered κ α) (k : κ) : Ordered κ α :=
  m.filterMap fun k' v => if k' = k then none else some v

/-! ### Giving a key a value -/

/-- A new value for a key that is present keeps the place of the key. -/
def insertEntry (k : κ) (v : α) : List (κ × α) → List (κ × α)
  | [] => [(k, v)]
  | (k', v') :: rest => if k' = k then (k, v) :: rest else (k', v') :: insertEntry k v rest

theorem map_fst_insertEntry (k : κ) (v : α) (l : List (κ × α)) :
    (insertEntry k v l).map Prod.fst =
      if k ∈ l.map Prod.fst then l.map Prod.fst else l.map Prod.fst ++ [k] := by
  induction l with
  | nil => rfl
  | cons e rest ih =>
    by_cases h : e.1 = k
    · simp [insertEntry, h]
    · have hk : ¬k = e.1 := fun hk => h hk.symm
      by_cases hm : k ∈ rest.map Prod.fst
      · simp only [insertEntry, h, if_false, List.map_cons, ih, List.mem_cons, hm, or_true,
          if_true]
      · simp only [insertEntry, h, if_false, List.map_cons, ih, List.mem_cons, hm, hk, or_self,
          List.cons_append]

theorem nodup_map_fst_insertEntry (k : κ) (v : α) {l : List (κ × α)}
    (h : (l.map Prod.fst).Nodup) : ((insertEntry k v l).map Prod.fst).Nodup := by
  rw [map_fst_insertEntry]
  split
  · exact h
  · rename_i hk
    refine List.nodup_append.2 ⟨h, by simp, ?_⟩
    intro a ha b hb hab
    rw [List.mem_singleton.1 hb] at hab
    exact hk (hab ▸ ha)

def insert (m : Ordered κ α) (k : κ) (v : α) : Ordered κ α :=
  ⟨insertEntry k v m.entries, nodup_map_fst_insertEntry k v m.distinct⟩

/-- The entries of a list given one after the other. -/
def insertAll (m : Ordered κ α) (entries : List (κ × α)) : Ordered κ α :=
  entries.foldl (fun m e => m.insert e.1 e.2) m

def ofList (entries : List (κ × α)) : Ordered κ α :=
  empty.insertAll entries

/-! ### Looking a key up -/

def get? (m : Ordered κ α) (k : κ) : Option α :=
  (m.entries.find? fun e => e.1 = k).map (·.2)

def contains (m : Ordered κ α) (k : κ) : Bool :=
  (m.get? k).isSome

theorem find?_insertEntry_self (k : κ) (v : α) (l : List (κ × α)) :
    (insertEntry k v l).find? (fun e => e.1 = k) = some (k, v) := by
  induction l with
  | nil => simp [insertEntry]
  | cons e rest ih => by_cases h : e.1 = k <;> simp [insertEntry, h, ih]

theorem find?_insertEntry_of_ne {k k' : κ} (v : α) (l : List (κ × α)) (h : k' ≠ k) :
    (insertEntry k v l).find? (fun e => e.1 = k') = l.find? (fun e => e.1 = k') := by
  have hk : ¬k = k' := fun hk => h hk.symm
  induction l with
  | nil => simp [insertEntry, hk]
  | cons e rest ih =>
    by_cases he : e.1 = k
    · simp [insertEntry, he, hk]
    · simp [insertEntry, he, List.find?_cons, ih]

@[simp] theorem get?_empty (k : κ) : (empty : Ordered κ α).get? k = none := rfl

@[simp] theorem get?_insert_self (m : Ordered κ α) (k : κ) (v : α) :
    (m.insert k v).get? k = some v := by
  simp [get?, insert, find?_insertEntry_self]

theorem get?_insert_of_ne (m : Ordered κ α) {k k' : κ} (v : α) (h : k' ≠ k) :
    (m.insert k v).get? k' = m.get? k' := by
  simp [get?, insert, find?_insertEntry_of_ne v m.entries h]

theorem contains_insert (m : Ordered κ α) (k k' : κ) (v : α) :
    (m.insert k v).contains k' = (decide (k' = k) || m.contains k') := by
  by_cases h : k' = k
  · subst h
    simp [contains]
  · simp [contains, get?_insert_of_ne m v h, h]

theorem find?_of_mem {β : Type} (f : β → κ) {l : List β} {b : β} (hd : (l.map f).Nodup)
    (h : b ∈ l) : l.find? (fun x => f x = f b) = some b := by
  induction l with
  | nil => cases h
  | cons x rest ih =>
    rw [List.map_cons, List.nodup_cons] at hd
    rcases List.mem_cons.1 h with rfl | h
    · simp
    · have hx : f x ≠ f b := fun hx => hd.1 (hx ▸ List.mem_map_of_mem h)
      simpa [List.find?_cons, hx] using ih hd.2 h

theorem get?_eq_some_iff (m : Ordered κ α) (k : κ) (v : α) :
    m.get? k = some v ↔ (k, v) ∈ m.entries := by
  constructor
  · intro h
    obtain ⟨e, he, rfl⟩ := Option.map_eq_some_iff.1 h
    have hk : e.1 = k := by simpa using List.find?_some he
    exact hk ▸ List.mem_of_find?_eq_some he
  · intro h
    simp [get?, find?_of_mem Prod.fst m.distinct h]

theorem get?_eq_none_iff (m : Ordered κ α) (k : κ) : m.get? k = none ↔ k ∉ m.keys := by
  simp only [get?, keys, Option.map_eq_none_iff, List.find?_eq_none, List.mem_map,
    decide_eq_true_eq, not_exists, not_and]

theorem insertEntry_of_notMem (k : κ) (v : α) {l : List (κ × α)} (h : k ∉ l.map Prod.fst) :
    insertEntry k v l = l ++ [(k, v)] := by
  induction l with
  | nil => rfl
  | cons e rest ih =>
    rw [List.map_cons, List.mem_cons, not_or] at h
    simp [insertEntry, Ne.symm h.1, ih h.2]

/-- A new key comes last. -/
theorem entries_insert_of_get?_none {m : Ordered κ α} {k : κ} (v : α) (h : m.get? k = none) :
    (m.insert k v).entries = m.entries ++ [(k, v)] :=
  insertEntry_of_notMem k v ((get?_eq_none_iff m k).1 h)

/-- What is found after entries were given is one of them, or was there before. -/
theorem get?_insertAll {m : Ordered κ α} {entries : List (κ × α)} {k : κ} {v : α}
    (h : (m.insertAll entries).get? k = some v) : (k, v) ∈ entries ∨ m.get? k = some v := by
  induction entries generalizing m with
  | nil => exact .inr h
  | cons e rest ih =>
    rcases ih h with h | h
    · exact .inl (List.mem_cons_of_mem e h)
    · by_cases hk : k = e.1
      · subst hk
        rw [get?_insert_self, Option.some.injEq] at h
        exact .inl (List.mem_cons.2 (.inl (Prod.ext rfl h.symm)))
      · rw [get?_insert_of_ne m e.2 hk] at h
        exact .inr h

theorem mem_of_get?_ofList {entries : List (κ × α)} {k : κ} {v : α}
    (h : (ofList entries).get? k = some v) : (k, v) ∈ entries :=
  (get?_insertAll h).resolve_right (by simp)

theorem get?_erase_eq_some_iff {m : Ordered κ α} {k k' : κ} {v : α} :
    (m.erase k).get? k' = some v ↔ k' ≠ k ∧ m.get? k' = some v := by
  rw [get?_eq_some_iff, get?_eq_some_iff, erase, filterMap, List.mem_filterMap]
  constructor
  · rintro ⟨e, he, hkept⟩
    by_cases hk : e.1 = k
    · simp [hk] at hkept
    · simp only [hk, if_false, Option.map_some, Option.some.injEq, Prod.mk.injEq] at hkept
      obtain ⟨rfl, rfl⟩ := hkept
      exact ⟨hk, he⟩
  · rintro ⟨hk, he⟩
    exact ⟨(k', v), he, by simp [hk]⟩

/-- A key is present when it has a value. -/
theorem isSome_get?_iff (m : Ordered κ α) (k : κ) : (m.get? k).isSome ↔ k ∈ m.keys := by
  simp only [get?, keys, Option.isSome_map, List.find?_isSome, List.mem_map, decide_eq_true_eq]

end Ordered

end Foundry
