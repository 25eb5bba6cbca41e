import Foundry.Proofs.Registry.Grouping
import Mathlib.Data.Finset.Card

/-!
Histories of a registry: after any sequence of calls its groups are the stable grouping of the
records accepted since it was last cleared.
-/

namespace Foundry

/-- The place a record takes in a registry. -/
def Record.key (r : Record) : String × String :=
  (r.group, r.identifier)

namespace Registry

inductive Call
  | add (r : Record)
  | beginEmission
  | endEmission
  | clear

def perform (g : Registry) : Call → Except Fault Registry
  | .add r => g.add r
  | .beginEmission => g.beginEmission
  | .endEmission => .ok g.endEmission
  | .clear => .ok g.clear

/-- A registry with the records it accepted and refused since it was last cleared. -/
structure History where
  registry : Registry
  accepted : List Record
  refused : List Record

namespace History

def start : History := ⟨Registry.empty, [], []⟩

/-- A call that fails leaves the registry as it is. -/
def step (h : History) (c : Call) : History :=
  match h.registry.perform c, c with
  | .ok g, .add r => ⟨g, h.accepted ++ [r], h.refused⟩
  | .ok g, .clear => ⟨g, [], []⟩
  | .ok g, _ => ⟨g, h.accepted, h.refused⟩
  | .error _, .add r => ⟨h.registry, h.accepted, h.refused ++ [r]⟩
  | .error _, _ => h

end History

def replay (calls : List Call) : History :=
  calls.foldl History.step History.start

/-! ### Adding to groups that follow a log -/

structure Follows (gs : List Group) (rs : List Record) : Prop where
  listing : listing gs = grouped rs
  distinct : (rs.map Record.key).Nodup

theorem Follows.names {gs : List Group} {rs : List Record} (h : Follows gs rs) :
    gs.map (·.name) = (rs.map (·.group)).eraseDups := by
  rw [← names_listing, h.listing, names_grouped]

theorem Follows.nodup_names {gs : List Group} {rs : List Record} (h : Follows gs rs) :
    (gs.map (·.name)).Nodup :=
  h.names ▸ nodup_eraseDups _

theorem Follows.entries {gs : List Group} {rs : List Record} (h : Follows gs rs) {g : Group}
    (hg : g ∈ gs) : g.members.entries = membersOf rs g.name := by
  have hm : (g.name, g.members.entries) ∈ grouped rs := h.listing ▸ List.mem_map_of_mem hg
  exact (mem_grouped.1 hm).2

theorem Follows.get?_eq_some {gs : List Group} {rs : List Record} (h : Follows gs rs) {g : Group}
    (hg : g ∈ gs) {i : String} {e : Record} :
    g.members.get? i = some e ↔ e ∈ rs ∧ e.group = g.name ∧ e.identifier = i := by
  rw [Ordered.get?_eq_some_iff, h.entries hg, mem_membersOf]

theorem Follows.exists_group {gs : List Group} {rs : List Record} (h : Follows gs rs) {e : Record}
    (he : e ∈ rs) : ∃ g ∈ gs, g.name = e.group := by
  have hn : e.group ∈ gs.map (·.name) := by
    rw [h.names]
    exact List.mem_eraseDups.2 (List.mem_map_of_mem he)
  obtain ⟨g, hg, hname⟩ := List.mem_map.1 hn
  exact ⟨g, hg, hname⟩

theorem addTo_error_of_mem {gs : List Group} (hn : (gs.map (·.name)).Nodup) {g : Group}
    (hg : g ∈ gs) {r : Record} (hname : g.name = r.group) {e : Rejection}
    (he : g.add r = .error e) : addTo r gs = .error e := by
  induction gs with
  | nil => cases hg
  | cons x rest ih =>
    obtain ⟨hx, hrest⟩ := List.nodup_cons.1 hn
    rcases List.mem_cons.1 hg with rfl | hg
    · simp [addTo, hname, he, Except.map]
    · have hne : ¬x.name = r.group := fun hr =>
        hx (List.mem_map.2 ⟨g, hg, hname.trans hr.symm⟩)
      simp [addTo, hne, ih hrest hg, Except.map]

theorem addTo_ok_of_free {gs : List Group} {r : Record}
    (hfree : ∀ g ∈ gs, g.name = r.group → g.members.get? r.identifier = none) :
    ∃ gs', addTo r gs = .ok gs' ∧ listing gs' = Listing.place r (listing gs) := by
  induction gs with
  | nil => exact ⟨_, rfl, rfl⟩
  | cons x rest ih =>
    by_cases hx : x.name = r.group
    · have hnone := hfree x List.mem_cons_self hx
      refine ⟨{ x with members := x.members.insert r.identifier r } :: rest, ?_, ?_⟩
      · simp [addTo, hx, Group.add, hnone, Except.map]
      · simp [listing, Listing.place, hx, Ordered.entries_insert_of_get?_none r hnone]
    · obtain ⟨gs', hok, hlist⟩ := ih fun g hg => hfree g (List.mem_cons_of_mem x hg)
      refine ⟨x :: gs', by simp [addTo, hx, hok, Except.map], ?_⟩
      simp only [listing, List.map_cons, Listing.place, hx, if_false] at hlist ⊢
      rw [hlist]

theorem Follows.addTo_taken {gs : List Group} {rs : List Record} (h : Follows gs rs)
    {e r : Record} (he : e ∈ rs) (hk : e.key = r.key) :
    addTo r gs = .error (.duplicate r e) := by
  obtain ⟨hgroup, hid⟩ := Prod.mk.inj hk
  obtain ⟨g, hg, hname⟩ := h.exists_group he
  have hget : g.members.get? r.identifier = some e :=
    (h.get?_eq_some hg).2 ⟨he, hname.symm, hid⟩
  exact addTo_error_of_mem h.nodup_names hg (hname.trans hgroup) (by simp [Group.add, hget])

theorem Follows.addTo_free {gs : List Group} {rs : List Record} (h : Follows gs rs) {r : Record}
    (hfree : ∀ e ∈ rs, e.key ≠ r.key) :
    ∃ gs', addTo r gs = .ok gs' ∧ Follows gs' (rs ++ [r]) := by
  -- A member under the identifier of `r` would be a record of the log with the key of `r`.
  have hnone : ∀ g ∈ gs, g.name = r.group → g.members.get? r.identifier = none := by
    intro g hg hname
    cases hget : g.members.get? r.identifier with
    | none => rfl
    | some e =>
      obtain ⟨he, hgroup, hid⟩ := (h.get?_eq_some hg).1 hget
      exact absurd (Prod.ext (hgroup.trans hname) hid) (hfree e he)
  obtain ⟨gs', hok, hlist⟩ := addTo_ok_of_free hnone
  refine ⟨gs', hok, ⟨by rw [hlist, h.listing, place_grouped], ?_⟩⟩
  rw [List.map_append, List.map_singleton]
  have hr : r.key ∉ rs.map Record.key := fun hm => by
    obtain ⟨e, he, hk⟩ := List.mem_map.1 hm
    exact hfree e he hk
  simpa using List.Nodup.concat hr h.distinct

/-! ### One call -/

theorem add_of_not_collecting {g : Registry} (hp : g.phase ≠ .collecting) (r : Record) :
    g.add r = .error (.notCollecting g.phase) := by
  simp [add, hp]

theorem add_of_taken {g : Registry} {rs : List Record} (h : Follows g.groups rs)
    (hp : g.phase = .collecting) {e r : Record} (he : e ∈ rs) (hk : e.key = r.key) :
    g.add r = .error (.rejected (.duplicate r e)) := by
  simp [add, hp, h.addTo_taken he hk]

theorem add_of_free {g : Registry} {rs : List Record} (h : Follows g.groups rs)
    (hp : g.phase = .collecting) {r : Record} (hfree : ∀ e ∈ rs, e.key ≠ r.key) :
    ∃ g', g.add r = .ok g' ∧ g'.phase = .collecting ∧ Follows g'.groups (rs ++ [r]) := by
  obtain ⟨gs', hok, hf⟩ := h.addTo_free hfree
  exact ⟨{ g with groups := gs' }, by simp [add, hp, hok], hp, hf⟩

theorem add_ok_iff {g : Registry} {rs : List Record} (h : Follows g.groups rs) (r : Record) :
    (∃ g', g.add r = .ok g') ↔ g.phase = .collecting ∧ ∀ e ∈ rs, e.key ≠ r.key := by
  constructor
  · rintro ⟨g', hok⟩
    by_cases hp : g.phase = .collecting
    · refine ⟨hp, fun e he hk => ?_⟩
      rw [add_of_taken h hp he hk] at hok
      cases hok
    · rw [add_of_not_collecting hp] at hok
      cases hok
  · rintro ⟨hp, hfree⟩
    obtain ⟨g', hok, -⟩ := add_of_free h hp hfree
    exact ⟨g', hok⟩

theorem beginEmission_ok_iff {g g' : Registry} :
    g.beginEmission = .ok g' ↔ g.phase = .collecting ∧ g' = ⟨g.groups, .emitting⟩ := by
  unfold beginEmission
  split
  · rename_i hp
    simp [hp, eq_comm]
  · rename_i hp
    simp [hp]

theorem endEmission_groups (g : Registry) : g.endEmission.groups = g.groups := by
  unfold endEmission
  split <;> rfl

/-! ### Whole histories -/

namespace History

theorem step_follows {h : History} (hf : Follows h.registry.groups h.accepted) (c : Call) :
    Follows (h.step c).registry.groups (h.step c).accepted := by
  cases c with
  | add r =>
    by_cases hp : h.registry.phase = .collecting
    · by_cases hfree : ∀ e ∈ h.accepted, e.key ≠ r.key
      · obtain ⟨g', hok, -, hf'⟩ := add_of_free hf hp hfree
        simpa [step, perform, hok] using hf'
      · push Not at hfree
        obtain ⟨e, he, hk⟩ := hfree
        simpa [step, perform, add_of_taken hf hp he hk] using hf
    · simpa [step, perform, add_of_not_collecting hp] using hf
  | beginEmission =>
    cases hb : h.registry.beginEmission with
    | error f => simpa [step, perform, hb] using hf
    | ok g =>
      obtain ⟨-, rfl⟩ := beginEmission_ok_iff.1 hb
      simpa [step, perform, hb] using hf
  | endEmission => simpa [step, perform, endEmission_groups] using hf
  | clear => exact ⟨rfl, List.nodup_nil⟩

theorem step_phase {h : History} {c : Call} (hp : h.registry.phase ≠ .collecting)
    (hc : (h.step c).registry.phase = .collecting) : c = .clear := by
  cases c with
  | add r =>
    simp only [step, perform, add_of_not_collecting hp] at hc
    exact absurd hc hp
  | beginEmission =>
    simp only [step, perform, beginEmission, hp, if_false] at hc
  | endEmission =>
    simp only [step, perform, Registry.endEmission] at hc
    split at hc
    · cases hc
    · exact absurd hc hp
  | clear => rfl

end History

theorem foldl_follows (calls : List Call) {h : History}
    (hf : Follows h.registry.groups h.accepted) :
    Follows (calls.foldl History.step h).registry.groups
      (calls.foldl History.step h).accepted := by
  induction calls generalizing h with
  | nil => exact hf
  | cons c calls ih => exact ih (h.step_follows hf c)

theorem replay_follows (calls : List Call) :
    Follows (replay calls).registry.groups (replay calls).accepted :=
  foldl_follows calls ⟨rfl, List.nodup_nil⟩

/-! ### Histories of additions -/

def History.keys (h : History) : Finset (String × String) :=
  (h.accepted.map Record.key).toFinset

theorem History.card_keys {h : History} (hf : Follows h.registry.groups h.accepted) :
    h.keys.card = h.accepted.length := by
  rw [keys, List.toFinset_card_of_nodup hf.distinct, List.length_map]

/-- A collecting registry takes the key of a record, whether or not it takes the record. -/
theorem History.step_add {h : History} (hf : Follows h.registry.groups h.accepted)
    (hp : h.registry.phase = .collecting) (r : Record) :
    (h.step (.add r)).registry.phase = .collecting ∧
      (h.step (.add r)).keys = insert r.key h.keys ∧
      (h.step (.add r)).accepted.length + (h.step (.add r)).refused.length =
        h.accepted.length + h.refused.length + 1 := by
  by_cases hfree : ∀ e ∈ h.accepted, e.key ≠ r.key
  · obtain ⟨g', hok, hp', -⟩ := add_of_free hf hp hfree
    simp only [step, perform, hok, keys, List.map_append, List.map_singleton,
      List.toFinset_append, List.toFinset_cons, List.toFinset_nil, List.length_append,
      List.length_singleton]
    refine ⟨hp', ?_, by omega⟩
    rw [insert_empty_eq, Finset.union_comm, Finset.singleton_union]
  · push Not at hfree
    obtain ⟨e, he, hk⟩ := hfree
    simp only [step, perform, add_of_taken hf hp he hk, keys, List.length_append,
      List.length_singleton]
    refine ⟨hp, ?_, by omega⟩
    have hmem : r.key ∈ (h.accepted.map Record.key).toFinset :=
      List.mem_toFinset.2 (List.mem_map.2 ⟨e, he, hk⟩)
    exact (Finset.insert_eq_of_mem hmem).symm

theorem foldl_add (rs : List Record) {h : History} (hf : Follows h.registry.groups h.accepted)
    (hp : h.registry.phase = .collecting) :
    ((rs.map Call.add).foldl History.step h).keys =
        h.keys ∪ (rs.map Record.key).toFinset ∧
      ((rs.map Call.add).foldl History.step h).accepted.length +
          ((rs.map Call.add).foldl History.step h).refused.length =
        h.accepted.length + h.refused.length + rs.length := by
  induction rs generalizing h with
  | nil => simp
  | cons r rs ih =>
    obtain ⟨hp', hkeys, hlen⟩ := History.step_add hf hp r
    obtain ⟨ihkeys, ihlen⟩ := ih (h.step_follows hf (.add r)) hp'
    rw [List.map_cons, List.foldl_cons]
    refine ⟨?_, by rw [ihlen, hlen, List.length_cons]; omega⟩
    rw [ihkeys, hkeys, List.map_cons, List.toFinset_cons, Finset.insert_union,
      Finset.union_insert]

def collect (rs : List Record) : History :=
  replay (rs.map .add)

theorem keys_collect (rs : List Record) :
    (collect rs).keys = (rs.map Record.key).toFinset := by
  have h := (foldl_add rs (h := History.start) ⟨rfl, List.nodup_nil⟩ rfl).1
  exact h.trans (Finset.empty_union _)

theorem length_collect (rs : List Record) :
    (collect rs).accepted.length + (collect rs).refused.length = rs.length := by
  have h := (foldl_add rs (h := History.start) ⟨rfl, List.nodup_nil⟩ rfl).2
  exact h.trans (Nat.zero_add _)

theorem length_refused_collect (rs : List Record) :
    (collect rs).refused.length = rs.length - (rs.map Record.key).toFinset.card := by
  have hcard := History.card_keys (replay_follows (rs.map .add))
  have hkeys := keys_collect rs
  have hlen := length_collect rs
  rw [← hkeys]
  unfold collect at hlen ⊢
  omega

def stored (g : Registry) : List (String × String) :=
  g.groups.flatMap fun x => x.members.keys.map fun i => (x.name, i)

theorem mem_stored {g : Registry} {rs : List Record} (h : Follows g.groups rs)
    (k : String × String) : k ∈ g.stored ↔ k ∈ rs.map Record.key := by
  simp only [stored, Ordered.keys, List.mem_flatMap, List.mem_map]
  constructor
  · rintro ⟨x, hx, _, ⟨m, hm, rfl⟩, rfl⟩
    rw [h.entries hx] at hm
    obtain ⟨hr, hgroup, hid⟩ := mem_membersOf.1 (show (m.1, m.2) ∈ _ from hm)
    exact ⟨m.2, hr, Prod.ext hgroup hid⟩
  · rintro ⟨r, hr, rfl⟩
    obtain ⟨x, hx, hname⟩ := h.exists_group hr
    refine ⟨x, hx, r.identifier, ⟨(r.identifier, r), ?_, rfl⟩, Prod.ext hname rfl⟩
    rw [h.entries hx]
    exact mem_membersOf.2 ⟨hr, hname.symm, rfl⟩

theorem collect_follows (rs : List Record) :
    Follows (collect rs).registry.groups (collect rs).accepted :=
  replay_follows (rs.map .add)

theorem mem_stored_collect (rs : List Record) (k : String × String) :
    k ∈ (collect rs).registry.stored ↔ k ∈ rs.map Record.key := by
  rw [mem_stored (collect_follows rs), ← List.mem_toFinset (l := rs.map _), ← keys_collect]
  exact List.mem_toFinset.symm

/-! ### The registry is the grouping of its log -/

/-- A registry that is the stable grouping of the records accepted since it was cleared. -/
structure History.Exact (h : History) : Prop where
  grouping : listing h.registry.groups = grouped h.accepted
  lookup : ∀ name x, h.registry.get? name = some x ↔ x ∈ h.registry.groups ∧ x.name = name
  nonempty : ∀ x ∈ h.registry.groups, x.members.entries ≠ []
  count : h.registry.count = h.accepted.length
  accepts : ∀ r, (∃ g, h.registry.add r = .ok g) ↔
    h.registry.phase = .collecting ∧ ∀ e ∈ h.accepted, e.key ≠ r.key
  duplicate : ∀ r, h.registry.phase = .collecting → ∀ e ∈ h.accepted, e.key = r.key →
    h.registry.add r = .error (.rejected (.duplicate r e))
  closed : ∀ r, h.registry.phase ≠ .collecting →
    h.registry.add r = .error (.notCollecting h.registry.phase)
  unchanged : ∀ c f, h.registry.perform c = .error f → (h.step c).registry = h.registry
  emits : (∃ g, h.registry.beginEmission = .ok g) ↔ h.registry.phase = .collecting
  emitted : ∀ g, h.registry.beginEmission = .ok g →
    g.phase = .emitting ∧ listing g.groups = grouped h.accepted
  reopens : ∀ c, h.registry.phase ≠ .collecting →
    (h.step c).registry.phase = .collecting → c = .clear
  cleared : (h.step .clear).registry = Registry.empty

theorem Follows.get?_eq_some_iff {g : Registry} {rs : List Record} (h : Follows g.groups rs)
    (name : String) (x : Group) : g.get? name = some x ↔ x ∈ g.groups ∧ x.name = name := by
  constructor
  · intro hf
    exact ⟨List.mem_of_find?_eq_some hf, by simpa using List.find?_some hf⟩
  · rintro ⟨hx, rfl⟩
    exact Ordered.find?_of_mem Group.name h.nodup_names hx

theorem Follows.entries_ne_nil {gs : List Group} {rs : List Record} (h : Follows gs rs)
    {x : Group} (hx : x ∈ gs) : x.members.entries ≠ [] := by
  have hname : x.name ∈ (rs.map (·.group)).eraseDups := h.names ▸ List.mem_map_of_mem hx
  obtain ⟨r, hr, hgroup⟩ := List.mem_map.1 (List.mem_eraseDups.1 hname)
  rw [h.entries hx]
  exact List.ne_nil_of_mem (mem_membersOf.2 ⟨hr, hgroup, rfl⟩)

theorem History.unchanged_of_error {h : History} {c : Call} {f : Fault}
    (he : h.registry.perform c = .error f) : (h.step c).registry = h.registry := by
  cases c <;> simp [step, he]

theorem History.exact_of_follows {h : History} (hf : Follows h.registry.groups h.accepted) :
    h.Exact where
  grouping := hf.listing
  lookup := hf.get?_eq_some_iff
  nonempty := fun _ hx => hf.entries_ne_nil hx
  count := by rw [count_eq_total, hf.listing, total_grouped]
  accepts := add_ok_iff hf
  duplicate := fun _ hp _ he hk => add_of_taken hf hp he hk
  closed := fun r hp => add_of_not_collecting hp r
  unchanged := fun _ _ he => unchanged_of_error he
  emits := ⟨fun ⟨_, hg⟩ => (beginEmission_ok_iff.1 hg).1,
    fun hp => ⟨_, beginEmission_ok_iff.2 ⟨hp, rfl⟩⟩⟩
  emitted := by
    intro g hg
    obtain ⟨-, rfl⟩ := beginEmission_ok_iff.1 hg
    exact ⟨rfl, hf.listing⟩
  reopens := fun _ hp hc => step_phase hp hc
  cleared := rfl

/-- After any calls the registry is the grouping of its log, and neither the places taken nor the
number of refusals depends on the order of arrival. -/
theorem registry_is_grouping_of_log :
    (∀ calls, (replay calls).Exact) ∧
    ∀ rs rs' : List Record, rs.Perm rs' →
      (∀ k, k ∈ (collect rs).registry.stored ↔ k ∈ (collect rs').registry.stored) ∧
      (collect rs).refused.length = (collect rs').refused.length := by
  refine ⟨fun calls => History.exact_of_follows (replay_follows calls), ?_⟩
  intro rs rs' hperm
  have hkeys := hperm.map Record.key
  refine ⟨fun k => ?_, ?_⟩
  · rw [mem_stored_collect, mem_stored_collect, hkeys.mem_iff]
  · rw [length_refused_collect, length_refused_collect, hperm.length_eq,
      List.toFinset_eq_of_perm _ _ hkeys]

def served (identifier name : String) : Record :=
  ⟨identifier, "shop.Drink",
    ⟨⟨"shop.items", name⟩, .ordinary, true, false, [], none, [], [.standard], none, none⟩⟩

theorem three_arrivals_either_way :
    [served "x" "Tea", served "x" "Rum", served "y" "Ale"].Perm
      [served "y" "Ale", served "x" "Rum", served "x" "Tea"] ∧
    (collect [served "x" "Tea", served "x" "Rum", served "y" "Ale"]).refused.length =
      (collect [served "y" "Ale", served "x" "Rum", served "x" "Tea"]).refused.length ∧
    (collect [served "y" "Ale", served "x" "Rum", served "x" "Tea"]).registry.stored =
      [("shop.Drink", "y"), ("shop.Drink", "x")] := by
  have hperm : [served "x" "Tea", served "x" "Rum", served "y" "Ale"].Perm
      [served "y" "Ale", served "x" "Rum", served "x" "Tea"] := (List.reverse_perm _).symm
  exact ⟨hperm, (registry_is_grouping_of_log.2 _ _ hperm).2, by decide⟩

end Registry

end Foundry
