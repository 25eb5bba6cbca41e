import Foundry.Registry
import Mathlib.Algebra.GroupWithZero.Nat
import Mathlib.Data.List.Nodup
import Mathlib.Data.List.Induction

/-!
The stable grouping of records, and how it grows by one record.
-/

namespace Foundry.Registry

abbrev Listing := List (String × List (String × Record))

def listing (gs : List Group) : Listing :=
  gs.map fun g => (g.name, g.members.entries)

def Listing.total (x : Listing) : Nat :=
  (x.map (·.2.length)).sum

def membersOf (rs : List Record) (name : String) : List (String × Record) :=
  (rs.filter (·.group = name)).map fun r => (r.identifier, r)

/-- Records grouped in the order in which their groups first appear. -/
def grouped (rs : List Record) : Listing :=
  (rs.map (·.group)).eraseDups.map fun name => (name, membersOf rs name)

/-- A record at the end of its group, or in a group of its own at the very end. -/
def Listing.place (r : Record) : Listing → Listing
  | [] => [(r.group, [(r.identifier, r)])]
  | (name, ms) :: rest =>
    if name = r.group then (name, ms ++ [(r.identifier, r)]) :: rest
    else (name, ms) :: Listing.place r rest

/-! ### Names without repetitions -/

theorem eraseDups_concat (names : List String) (n : String) :
    (names ++ [n]).eraseDups =
      if n ∈ names then names.eraseDups else names.eraseDups ++ [n] := by
  rw [List.eraseDups_append]
  by_cases h : n ∈ names <;> simp [h, List.removeAll, List.eraseDups_cons]

theorem nodup_eraseDups (names : List String) : names.eraseDups.Nodup := by
  induction names using List.reverseRecOn with
  | nil => exact List.nodup_nil
  | append_singleton names n ih =>
    rw [eraseDups_concat]
    split
    · exact ih
    · rename_i h
      have hn : n ∉ names.eraseDups := fun hm => h (List.mem_eraseDups.1 hm)
      simpa using List.Nodup.concat hn ih

/-! ### Growth -/

theorem membersOf_concat (rs : List Record) (r : Record) (name : String) :
    membersOf (rs ++ [r]) name =
      if name = r.group then membersOf rs name ++ [(r.identifier, r)] else membersOf rs name := by
  by_cases h : name = r.group
  · simp [membersOf, h]
  · have h' : ¬r.group = name := fun hr => h hr.symm
    simp [membersOf, h, h']

theorem membersOf_eq_nil {rs : List Record} {name : String} (h : name ∉ rs.map (·.group)) :
    membersOf rs name = [] := by
  have hr : ∀ r ∈ rs, ¬r.group = name := fun r hr hn => h (hn ▸ List.mem_map_of_mem hr)
  simpa [membersOf] using hr

theorem place_map {names : List String} (hn : names.Nodup) (r : Record)
    (f : String → List (String × Record)) :
    Listing.place r (names.map fun n => (n, f n)) =
      if r.group ∈ names then
        names.map fun n => (n, if n = r.group then f n ++ [(r.identifier, r)] else f n)
      else names.map (fun n => (n, f n)) ++ [(r.group, [(r.identifier, r)])] := by
  induction names with
  | nil => rfl
  | cons n rest ih =>
    obtain ⟨hn', hrest⟩ := List.nodup_cons.1 hn
    by_cases h : n = r.group
    · subst h
      have hne : ∀ m ∈ rest, ¬m = r.group := fun m hm he => hn' (he ▸ hm)
      simpa [Listing.place] using fun m hm he => absurd he (hne m hm)
    · have h' : ¬r.group = n := fun hr => h hr.symm
      simp only [List.map_cons, Listing.place, h, if_false, ih hrest, List.mem_cons, h', false_or]
      split <;> rfl

theorem place_grouped (rs : List Record) (r : Record) :
    Listing.place r (grouped rs) = grouped (rs ++ [r]) := by
  have hm : (r.group ∈ (rs.map (·.group)).eraseDups) = (r.group ∈ rs.map (·.group)) :=
    propext List.mem_eraseDups
  simp only [grouped, place_map (nodup_eraseDups _), hm, List.map_append, List.map_cons,
    List.map_nil, eraseDups_concat, membersOf_concat]
  by_cases h : r.group ∈ rs.map (·.group)
  · rw [if_pos h, if_pos h]
  · have hne : ∀ n ∈ (rs.map (·.group)).eraseDups, ¬n = r.group :=
      fun n hn he => h (he ▸ List.mem_eraseDups.1 hn)
    rw [if_neg h, if_neg h, List.map_append]
    refine congr (congrArg _ (List.map_congr_left fun n hn => by rw [if_neg (hne n hn)])) ?_
    simp [membersOf_eq_nil h]

theorem total_place (r : Record) (x : Listing) :
    (Listing.place r x).total = x.total + 1 := by
  induction x with
  | nil => rfl
  | cons e rest ih =>
    by_cases h : e.1 = r.group
    · simp [Listing.place, Listing.total, h]
      omega
    · simp only [Listing.total, Listing.place, h, if_false, List.map_cons, List.sum_cons] at ih ⊢
      omega

theorem total_grouped (rs : List Record) : (grouped rs).total = rs.length := by
  induction rs using List.reverseRecOn with
  | nil => rfl
  | append_singleton rs r ih => rw [← place_grouped, total_place, ih, List.length_append, List.length_singleton]

/-! ### Membership -/

theorem mem_grouped {rs : List Record} {name : String} {ms : List (String × Record)} :
    (name, ms) ∈ grouped rs ↔ name ∈ rs.map (·.group) ∧ ms = membersOf rs name := by
  simp only [grouped, List.mem_map, List.mem_eraseDups, Prod.mk.injEq]
  constructor
  · rintro ⟨_, hn, rfl, rfl⟩
    exact ⟨hn, rfl⟩
  · rintro ⟨hn, rfl⟩
    exact ⟨name, hn, rfl, rfl⟩

theorem mem_membersOf {rs : List Record} {name i : String} {r : Record} :
    (i, r) ∈ membersOf rs name ↔ r ∈ rs ∧ r.group = name ∧ r.identifier = i := by
  simp only [membersOf, List.mem_map, List.mem_filter, decide_eq_true_eq, Prod.mk.injEq]
  constructor
  · rintro ⟨_, ⟨hr, hg⟩, hi, rfl⟩
    exact ⟨hr, hg, hi⟩
  · rintro ⟨hr, hg, hi⟩
    exact ⟨r, ⟨hr, hg⟩, hi, rfl⟩

theorem names_listing (gs : List Group) : (listing gs).map Prod.fst = gs.map (·.name) := by
  simp [listing, Function.comp_def]

theorem names_grouped (rs : List Record) :
    (grouped rs).map Prod.fst = (rs.map (·.group)).eraseDups := by
  simp [grouped, Function.comp_def]

theorem count_eq_total (g : Registry) : g.count = (listing g.groups).total := by
  unfold count
  induction g.groups with
  | nil => rfl
  | cons x rest ih =>
    simp only [List.foldr_cons, ih]
    rfl

end Foundry.Registry
