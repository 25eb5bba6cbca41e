import Foundry.Proofs.Validation.Closure

/-!
What the depth limit does to the search for an ancestor: a name that is first met at the limit is
never climbed, even where a shorter chain leads through it.
-/

namespace Foundry

variable {σ : Type} {known : String → Option Declaration} {group : String}

/-- Names a number of links above a declaration. -/
inductive Above (known : String → Option Declaration) (d : Declaration) : Nat → String → Prop
  | base {n : String} : n ∈ d.superclasses → Above known d 1 n
  | next {k : Nat} {n m : String} {e : Declaration} :
    Above known d k n → known n = some e → m ∈ e.superclasses → Above known d (k + 1) m

theorem above_one_iff {d : Declaration} {n : String} :
    Above known d 1 n ↔ n ∈ d.superclasses := by
  refine ⟨?_, .base⟩
  rintro (hn | ⟨habove, -, -⟩)
  · exact hn
  · cases habove

/-- A name that the walk meets first when no room is left to climb further. -/
def MetAtLimit (known : String → Option Declaration) (group : String) (limit : Nat)
    (d : Declaration) (n : String) : Prop :=
  (n, 0) ∈ (lastTrace (walk known group limit d)).met

/-- Each name on a trace was met where its links and the room left below it make up the limit. -/
def Leveled (known : String → Option Declaration) (d : Declaration) (limit : Nat) (t : Trace) :
    Prop :=
  ∀ e ∈ t.met, ∃ k, k + e.2 = limit ∧ Above known d k e.1

theorem walk_leveled (known : String → Option Declaration) (group : String) (limit : Nat)
    (d : Declaration) :
    Leveled known d limit (lastTrace (walk known group limit d)) := by
  have hfrom : ∀ n t, Above known d 1 n → Leveled known d limit t →
      Leveled known d limit (lastTrace (walkFrom known group limit [d.qualifiedName] n t)) ∧
        Grows t (lastTrace (walkFrom known group limit [d.qualifiedName] n t)) := by
    intro n t hn ht
    refine walkFrom_invariant (P := Leveled known d limit)
      (C := fun room _ n _ => ∃ k, k + room = limit + 1 ∧ Above known d k n)
      (fun _ _ _ _ _ h _ => h) (fun _ h => h) ?_ ?_ limit [d.qualifiedName] n t
      ⟨1, Nat.add_comm 1 limit, hn⟩ ht
    · rintro room path n t ⟨k, hk, hn⟩ - - ht e he
      rcases List.mem_cons.1 he with rfl | he
      · exact ⟨k, Nat.succ.inj hk, hn⟩
      · exact ht e he
    · rintro room path n t e m ⟨k, hk, hn⟩ he hm
      exact ⟨k + 1, by omega, .next hn he hm⟩
  exact (walkEach_invariant (C := fun n _ => Above known d 1 n) _ (fun _ _ _ h _ => h) hfrom
    d.superclasses Trace.start (fun n hn => .base hn) (fun _ he => absurd he List.not_mem_nil)).1

theorem MetAtLimit.above {limit : Nat} {d : Declaration} {n : String}
    (h : MetAtLimit known group limit d n) : Above known d limit n := by
  obtain ⟨k, rfl, hk⟩ := walk_leveled known group limit d _ h
  exact hk

theorem climbs_above {d : Declaration} {own : String} {names : List String} {k : Nat} {n : String}
    (hclimbs : Climbs known own group names) (hhead : names.head? = some n)
    (hn : Above known d k n) {i : Nat} {x : String} (hx : names[i]? = some x) :
    Above known d (k + i) x := by
  induction names generalizing k n i with
  | nil => cases hx
  | cons a rest ih =>
    obtain rfl : a = n := Option.some.inj hhead
    cases i with
    | zero =>
      obtain rfl : a = x := Option.some.inj hx
      exact hn
    | succ i =>
      cases rest with
      | nil => cases hx
      | cons m rest =>
        obtain ⟨-, ⟨e, he, hm⟩, hrest⟩ := hclimbs
        have h := ih hrest rfl (.next hn he hm) hx
        rwa [Nat.add_assoc, Nat.add_comm 1 i] at h

theorem explored_of_not_metAtLimit {limit : Nat} {d : Declaration} {t : Trace}
    (h : walk known group limit d = .ok t) {x : String} (hx : ¬MetAtLimit known group limit d x)
    (hmet : x ∈ t.names) : Explored known d.qualifiedName t x := by
  obtain ⟨e, he, rfl⟩ := List.mem_map.1 hmet
  intro d' hd m hm
  have hseen := ((walk_closed h).1 e he d' hd m hm).seen
  have hroom : e.2 ≠ 0 := by
    intro h0
    apply hx
    unfold MetAtLimit
    rw [h]
    exact h0 ▸ he
  exact hseen.resolve_left fun hcut => hroom hcut.1

theorem not_metAtLimit_of_room {limit : Nat} {d : Declaration} {n : String} {k : Nat}
    (h : (n, k + 1) ∈ (lastTrace (walk known group limit d)).met) :
    ¬MetAtLimit known group limit d n := by
  intro h0
  have hnodup := (walk_sound known group limit d).nodup
  have heq := List.inj_on_of_nodup_map hnodup h h0 rfl
  cases heq

theorem bases_met {d : Declaration} {limit : Nat} (hlimit : 1 ≤ limit) {t : Trace}
    (h : walk known group limit d = .ok t) :
    ∀ n ∈ d.superclasses, n = d.qualifiedName ∨ n ∈ t.names := by
  intro n hn
  refine ((walk_closed h).2 n hn).seen.resolve_left ?_
  rintro ⟨h0, -⟩
  omega

theorem walk_found_iff {d : Declaration} {limit : Nat} (hlimit : 1 ≤ limit) :
    (∃ t, walk known group limit d = .error t) ↔
      ∃ names, Ancestry known d group names ∧ names.length ≤ limit + 1 ∧
        ∀ n ∈ names.dropLast.dropLast, ¬MetAtLimit known group limit d n := by
  constructor
  · rintro ⟨t, h⟩
    obtain ⟨names, hchain, hlen, habove⟩ := walk_found h
    refine ⟨names, hchain, hlen, fun n hn => ?_⟩
    obtain ⟨k, hk⟩ := habove n hn
    exact not_metAtLimit_of_room (k := k) (by rw [h]; exact hk)
  · rintro ⟨names, hchain, -, hopen⟩
    cases h : walk known group limit d with
    | error t => exact ⟨t, rfl⟩
    | ok t =>
      refine absurd hchain (walk_complete h (bases_met hlimit h) fun x hx hmet => ?_)
      exact explored_of_not_metAtLimit h (hopen x hx) hmet

/-- A name short of the last two of a chain is nearer than the limit. -/
theorem not_metAtLimit_of_layers {d : Declaration} {limit : Nat} {names : List String}
    (hlayers : ∀ n, Above known d limit n → ∀ k, k < limit → ¬Above known d k n)
    (hchain : Ancestry known d group names) (hlen : names.length ≤ limit + 1) :
    ∀ n ∈ names.dropLast.dropLast, ¬MetAtLimit known group limit d n := by
  obtain ⟨⟨m, hm, hhead⟩, hclimbs⟩ := hchain
  intro n hn hlim
  obtain ⟨i, hi⟩ := List.mem_iff_getElem?.1 hn
  rw [List.getElem?_dropLast, List.length_dropLast, List.getElem?_dropLast] at hi
  split at hi
  · split at hi
    · exact hlayers n hlim.above (1 + i) (by omega) (climbs_above hclimbs hhead (.base hm) hi)
    · cases hi
  · cases hi

theorem checkAncestor_ok_iff {p : Provider σ} {I : σ → Prop} (hp : p.Fixed I known) (r : Record)
    (limit : Nat) {s : σ} (hs : I s) :
    (checkAncestor p limit r).answer s = .ok () ↔
      ∃ t, walk known r.group limit r.declaration = .error t := by
  cases h : walk known r.group limit r.declaration with
  | error t => exact iff_of_true (checkAncestor_found hp hs h).answer ⟨t, rfl⟩
  | ok t =>
    rw [checkAncestor_lost hp hs h]
    simp

/-- The search accepts a class exactly when some chain of at most one link more than the limit leads
to the group through names that are met with room to spare, the last before the group apart. Where
no name is both at the limit and below it, this is every such chain. -/
theorem ancestor_accepted_iff {p : Provider σ} {I : σ → Prop} (hp : p.Fixed I known) (r : Record)
    {limit : Nat} (hlimit : 1 ≤ limit) {s : σ} (hs : I s) :
    ((checkAncestor p limit r).answer s = .ok () ↔
      ∃ names, Ancestry known r.declaration r.group names ∧ names.length ≤ limit + 1 ∧
        ∀ n ∈ names.dropLast.dropLast, ¬MetAtLimit known r.group limit r.declaration n) ∧
    ((∀ n, Above known r.declaration limit n → ∀ k, k < limit → ¬Above known r.declaration k n) →
      ((checkAncestor p limit r).answer s = .ok () ↔
        ∃ names, Ancestry known r.declaration r.group names ∧ names.length ≤ limit + 1)) := by
  rw [checkAncestor_ok_iff hp r limit hs, walk_found_iff hlimit]
  refine ⟨Iff.rfl, fun hlayers => ?_⟩
  constructor
  · rintro ⟨names, hchain, hlen, -⟩
    exact ⟨names, hchain, hlen⟩
  · rintro ⟨names, hchain, hlen⟩
    exact ⟨names, hchain, hlen, not_metAtLimit_of_layers hlayers hchain hlen⟩

def plainClass (name : String) (bases : List String) : Declaration :=
  Declaration.complete ⟨"m", name⟩ .ordinary none false [] none bases [.standard] none none

def twoWays : Store :=
  Store.ofDeclarations [plainClass "G" [], plainClass "Y" ["m.G"], plainClass "X" ["m.Y"],
    plainClass "B" ["m.X"], plainClass "A" ["m.B"]]

def climber (bases : List String) : Record :=
  ⟨"x", "m.G", plainClass "D" bases⟩

/-- The second links above the class lead to other names than the first ones. -/
theorem ancestor_accepted_at_second_level :
    1 ≤ 2 ∧
    (∀ n, Above twoWays.get? (climber ["m.A", "m.X"]).declaration 2 n →
      ∀ k, k < 2 → ¬Above twoWays.get? (climber ["m.A", "m.X"]).declaration k n) ∧
    (checkAncestor Store.provider 2 (climber ["m.A", "m.X"])).answer twoWays = .ok () := by
  have hfirst : ∀ n, Above twoWays.get? (climber ["m.A", "m.X"]).declaration 1 n →
      n = "m.A" ∨ n = "m.X" := by
    intro n hn
    have hbases : (climber ["m.A", "m.X"]).declaration.superclasses = ["m.A", "m.X"] := by rfl
    exact List.mem_pair.1 (hbases ▸ above_one_iff.1 hn)
  have hsecond : ∀ n, Above twoWays.get? (climber ["m.A", "m.X"]).declaration 2 n →
      n = "m.B" ∨ n = "m.Y" := by
    rintro n (_ | ⟨hbase, he, hn⟩)
    rcases hfirst _ hbase with rfl | rfl
    · obtain rfl := Option.some.inj ((show twoWays.get? "m.A" = some _ from rfl).symm.trans he)
      exact .inl (List.mem_singleton.1 hn)
    · obtain rfl := Option.some.inj ((show twoWays.get? "m.X" = some _ from rfl).symm.trans he)
      exact .inr (List.mem_singleton.1 hn)
  have hlayers : ∀ n, Above twoWays.get? (climber ["m.A", "m.X"]).declaration 2 n →
      ∀ k, k < 2 → ¬Above twoWays.get? (climber ["m.A", "m.X"]).declaration k n := by
    intro n hn k hk habove
    obtain rfl | rfl : k = 0 ∨ k = 1 := by omega
    · cases habove
    · rcases hsecond n hn with rfl | rfl <;> simpa using hfirst _ habove
  have hchain : Ancestry twoWays.get? (climber ["m.A", "m.X"]).declaration "m.G"
      ["m.X", "m.Y", "m.G"] :=
    ⟨⟨"m.X", by decide, rfl⟩, by decide, ⟨plainClass "X" ["m.Y"], by rfl, by decide⟩,
      by decide, ⟨plainClass "Y" ["m.G"], by rfl, by decide⟩, rfl⟩
  have h := ancestor_accepted_iff (Store.provider_fixed twoWays) (climber ["m.A", "m.X"])
    (show 1 ≤ 2 by decide) (s := twoWays) rfl
  exact ⟨by decide, hlayers, (h.2 hlayers).2 ⟨_, hchain, Nat.le_refl 3⟩⟩

/-- A base that is met at the limit below an earlier base is lost for a later one: the search
rejects a class three links below its group at limit three, and accepts it at limit two or with its
bases the other way round. -/
theorem base_met_at_limit_is_lost :
    Ancestry twoWays.get? (climber ["m.A", "m.X"]).declaration "m.G" ["m.X", "m.Y", "m.G"] ∧
    (checkAncestor Store.provider 3 (climber ["m.A", "m.X"])).answer twoWays ≠ .ok () ∧
    (checkAncestor Store.provider 2 (climber ["m.A", "m.X"])).answer twoWays = .ok () ∧
    (checkAncestor Store.provider 3 (climber ["m.X", "m.A"])).answer twoWays = .ok () := by
  refine ⟨⟨⟨"m.X", by decide, rfl⟩, by decide, ⟨plainClass "X" ["m.Y"], by rfl, by decide⟩,
    by decide, ⟨plainClass "Y" ["m.G"], by rfl, by decide⟩, rfl⟩, ?_, by rfl, by rfl⟩
  have h : (checkAncestor Store.provider 3 (climber ["m.A", "m.X"])).answer twoWays =
      .error (.rejected (.doesNotExtend (plainClass "D" ["m.A", "m.X"]) "m.G" (some 3))) := by rfl
  rw [h]
  exact fun he => by cases he

end Foundry
