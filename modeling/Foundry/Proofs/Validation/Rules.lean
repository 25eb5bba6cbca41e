import Foundry.Proofs.Validation.DepthLimit
import Mathlib.Data.Set.Card

/-!
Validation over fixed answers is exact once the limit is no smaller than the number of names above
the class.
-/

namespace Foundry

variable {σ : Type} {known : String → Option Declaration} {group : String}

def ancestors (known : String → Option Declaration) (d : Declaration) : Set String :=
  {n | ∃ k, Above known d k n}

/-! ### A limit that is large enough -/

/-- A name met with little room was met after many others. -/
def Crowded (limit : Nat) (t : Trace) : Prop :=
  ∀ e ∈ t.met, limit ≤ t.met.length + e.2

theorem walk_crowded (known : String → Option Declaration) (group : String) (limit : Nat)
    (d : Declaration) :
    Crowded limit (lastTrace (walk known group limit d)) := by
  have hmono : ∀ (room : Nat) (t t' : Trace), limit ≤ t.met.length + room → Grows t t' →
      limit ≤ t'.met.length + room := by
    intro room t t' h hg
    have hlen := hg.met.length_le
    omega
  have hfrom : ∀ n t, limit ≤ t.met.length + limit → Crowded limit t →
      Crowded limit (lastTrace (walkFrom known group limit [d.qualifiedName] n t)) ∧
        Grows t (lastTrace (walkFrom known group limit [d.qualifiedName] n t)) := by
    intro n t hn ht
    refine walkFrom_invariant (P := Crowded limit) (C := fun room _ _ t => limit ≤ t.met.length + room)
      (fun room _ _ t t' => hmono room t t') (fun _ h => h) ?_ ?_ limit [d.qualifiedName] n t hn ht
    · intro room path n t h _ _ ht e he
      simp only [Trace.meet, List.length_cons] at he ⊢
      rcases List.mem_cons.1 he with rfl | he
      · show limit ≤ t.met.length + 1 + room
        omega
      · have := ht e he
        omega
    · intro room path n t e m h _ _
      simp only [Trace.meet, List.length_cons]
      omega
  exact (walkEach_invariant (C := fun _ t => limit ≤ t.met.length + limit) _
    (fun _ t t' => hmono limit t t') hfrom d.superclasses Trace.start
    (fun _ _ => Nat.le_add_left limit _) (fun _ he => absurd he List.not_mem_nil)).1

theorem names_subset_ancestors {limit : Nat} {d : Declaration} {t : Trace}
    (h : walk known group limit d = .ok t) : {n | n ∈ t.names} ⊆ ancestors known d := by
  intro n hn
  obtain ⟨e, he, rfl⟩ := List.mem_map.1 hn
  have hl := walk_leveled known group limit d
  rw [h] at hl
  obtain ⟨k, -, hk⟩ := hl e he
  exact ⟨k, hk⟩

/-- A walk that ran out of room has met everything there is, if the limit is large enough. -/
theorem ancestors_subset_names {limit : Nat} {d : Declaration} {t : Trace}
    (hcard : (ancestors known d).encard ≤ limit) (h : walk known group limit d = .ok t)
    {n : String} (hn : (n, 0) ∈ t.met) : ancestors known d ⊆ {m | m ∈ t.names} := by
  have hsound := walk_sound known group limit d
  have hcrowd := walk_crowded known group limit d
  rw [h] at hsound hcrowd
  have hlen : limit ≤ t.names.length := by
    rw [Trace.names, List.length_map]
    exact hcrowd (n, 0) hn
  have hnodup : t.names.Nodup := hsound.nodup
  -- At least `limit` names were met, all of them above the class, where there are no more.
  have hset : {m | m ∈ t.names} = (t.names.toFinset : Set String) := by
    ext m
    simp
  have hsub := names_subset_ancestors h
  rw [hset] at hsub ⊢
  refine ((Finset.finite_toSet _).eq_of_subset_of_encard_le hsub ?_).ge
  rw [Set.encard_coe_eq_coe_finsetCard, List.toFinset_card_of_nodup hnodup]
  exact hcard.trans (by exact_mod_cast hlen)

theorem walk_found_iff_of_card_le {limit : Nat} {d : Declaration}
    (hcard : (ancestors known d).encard ≤ limit) :
    (∃ t, walk known group limit d = .error t) ↔ ∃ names, Ancestry known d group names := by
  constructor
  · rintro ⟨t, h⟩
    obtain ⟨names, hchain, -, -⟩ := walk_found h
    exact ⟨names, hchain⟩
  · rintro ⟨names, hchain⟩
    cases h : walk known group limit d with
    | error t => exact ⟨t, rfl⟩
    | ok t =>
      refine absurd hchain (walk_complete h ?_ fun x _ hx => ?_)
      · cases limit with
        | zero =>
          intro n hn
          have hempty : ancestors known d = ∅ := by simpa using hcard
          exact absurd (show n ∈ ancestors known d from ⟨1, .base hn⟩) (by simp [hempty])
        | succ limit => exact bases_met (Nat.le_add_left 1 limit) h
      · obtain ⟨⟨x, room⟩, he, rfl⟩ := List.mem_map.1 hx
        intro e hknown m hm
        rcases ((walk_closed h).1 (x, room) he e hknown m hm).seen with ⟨rfl, -⟩ | hseen
        · obtain ⟨k, hk⟩ := names_subset_ancestors h hx
          exact .inr (ancestors_subset_names hcard h he ⟨k + 1, .next hk hknown hm⟩)
        · exact hseen

/-- A walk that was not cut short has seen every chain. -/
theorem no_ancestry_of_not_truncated {limit : Nat} {d : Declaration} {t : Trace}
    (h : walk known group limit d = .ok t) (ht : t.truncated = false) (names : List String) :
    ¬Ancestry known d group names := by
  obtain ⟨hdone, hbases⟩ := walk_closed h
  have hseen : ∀ {room n}, Settled d.qualifiedName group t room n →
      n = d.qualifiedName ∨ n ∈ t.names := by
    intro room n hsettled
    refine hsettled.seen.resolve_left ?_
    rintro ⟨-, htrue⟩
    exact absurd (ht.symm.trans htrue) (by decide)
  refine walk_complete h (fun n hn => hseen (hbases n hn)) fun x _ hx => ?_
  obtain ⟨e, he, rfl⟩ := List.mem_map.1 hx
  exact fun d' hd m hm => hseen (hdone e he d' hd m hm)

/-! ### Rules -/

/-- What a rule asks of a record. -/
def Rule.Holds (known : String → Option Declaration) (r : Record) : Rule → Prop
  | .kind => r.declaration.kind = .ordinary
  | .visibility => r.declaration.isPublic = true
  | .concreteness => r.declaration.isAbstract = false
  | .subtype =>
    ∃ g, known r.group = some g ∧
      if g.kind = .interface then r.group ∈ r.declaration.interfaces
      else ∃ names, Ancestry known r.declaration r.group names
  | .constructor => ∃ c ∈ r.declaration.constructors, c.isPublic = true ∧ c.required = 0

/-- How a rule rejects a record. -/
inductive Rule.Rejects (known : String → Option Declaration) (limit : Nat) (r : Record) :
    Rule → Rejection → Prop
  | notAClass : Rejects known limit r .kind (.notAClass r.declaration)
  | notPublic : Rejects known limit r .visibility (.notPublic r.declaration)
  | isAbstract : Rejects known limit r .concreteness (.isAbstract r.declaration)
  | groupUnknown : known r.group = none →
    Rejects known limit r .subtype (.groupUnknown r.declaration r.group)
  | doesNotImplement {g : Declaration} : known r.group = some g → g.kind = .interface →
    Rejects known limit r .subtype (.doesNotImplement r.declaration r.group)
  | doesNotExtend {g : Declaration} {cut : Option Nat} : known r.group = some g →
    g.kind ≠ .interface → cut = none ∨ cut = some limit →
    Rejects known limit r .subtype (.doesNotExtend r.declaration r.group cut)
  | missingDefaultConstructor :
    Rejects known limit r .constructor (.missingDefaultConstructor r.declaration)

/-- A question that is answered with nothing, or rejects its record. -/
def Decides (I : σ → Prop) (q : Query σ Unit) (s : σ) (passed : Prop)
    (rejected : Rejection → Prop) : Prop :=
  (Query.Gives I q s () ∧ passed) ∨ ∃ e, q.answer s = .error (.rejected e) ∧ rejected e

theorem decides_ite {I : σ → Prop} {s : σ} (hs : I s) {c : Prop} [Decidable c] (e : Rejection) :
    Decides I (if c then pure () else throw (.rejected e)) s c (fun e' => e' = e ∧ ¬c) := by
  by_cases h : c
  · simp only [h, if_true]
    exact .inl ⟨Query.Gives.pure hs (), trivial⟩
  · simp only [h, if_false]
    exact .inr ⟨e, rfl, rfl, not_false⟩

theorem Decides.imp {I : σ → Prop} {q : Query σ Unit} {s : σ} {c c' : Prop}
    {e e' : Rejection → Prop} (h : Decides I q s c e) (hc : c → c') (he : ∀ x, e x → e' x) :
    Decides I q s c' e' :=
  Or.imp (fun h => ⟨h.1, hc h.2⟩) (fun ⟨x, hx, h⟩ => ⟨x, hx, he x h⟩) h

theorem checkSubtype_decides {p : Provider σ} {I : σ → Prop} (hp : p.Fixed I known) (limit : Nat)
    (r : Record) {s : σ} (hs : I s) :
    Decides I (checkSubtype p limit r) s
      (∃ g, known r.group = some g ∧ if g.kind = .interface then r.group ∈ r.declaration.interfaces
        else ∃ t, walk known r.group limit r.declaration = .error t)
      (fun e => (known r.group = none ∧ e = .groupUnknown r.declaration r.group) ∨
        ∃ g, known r.group = some g ∧
          if g.kind = .interface then
            r.group ∉ r.declaration.interfaces ∧ e = .doesNotImplement r.declaration r.group
          else ∃ t, walk known r.group limit r.declaration = .ok t ∧
            e = .doesNotExtend r.declaration r.group (if t.truncated then some limit else none)) := by
  have hgroup := hp r.group s hs
  cases hk : known r.group with
  | none =>
    rw [hk] at hgroup
    exact .inr ⟨_, Query.answer_bind hgroup.answer _, .inl ⟨rfl, rfl⟩⟩
  | some g =>
    rw [hk] at hgroup
    have hrest : Decides I
        (if g.kind = .interface then
          if r.declaration.interfaces.contains r.group then pure ()
          else throw (.rejected (.doesNotImplement r.declaration r.group))
        else checkAncestor p limit r) ((p.get r.group).run s).2
        (if g.kind = .interface then r.group ∈ r.declaration.interfaces
          else ∃ t, walk known r.group limit r.declaration = .error t)
        (fun e => if g.kind = .interface then
            r.group ∉ r.declaration.interfaces ∧ e = .doesNotImplement r.declaration r.group
          else ∃ t, walk known r.group limit r.declaration = .ok t ∧
            e = .doesNotExtend r.declaration r.group (if t.truncated then some limit else none)) := by
      by_cases hi : g.kind = .interface
      · simp only [hi, if_true, List.contains_iff_mem]
        exact (decides_ite hgroup.state _).imp id fun _ h => ⟨h.2, h.1⟩
      · simp only [hi, if_false]
        cases hw : walk known r.group limit r.declaration with
        | error t => exact .inl ⟨checkAncestor_found hp hgroup.state hw, t, rfl⟩
        | ok t => exact .inr ⟨_, checkAncestor_lost hp hgroup.state hw, t, rfl, rfl⟩
    rcases hrest with ⟨hgives, hpassed⟩ | ⟨e, hanswer, hrejected⟩
    · exact .inl ⟨hgroup.bind hgives, g, rfl, hpassed⟩
    · exact .inr ⟨e, (Query.answer_bind hgroup.answer _).trans hanswer, .inr ⟨g, rfl, hrejected⟩⟩

/-- Every rule but that of the subtype looks at the record only. -/
theorem Rule.check_decides_of_ne {p : Provider σ} {I : σ → Prop} {limit : Nat} {r : Record}
    {rule : Rule} (hne : rule ≠ .subtype) {s : σ} (hs : I s) :
    Decides I (rule.check p limit r) s (rule.Holds known r)
      (fun e => rule.Rejects known limit r e ∧ ¬rule.Holds known r) := by
  cases rule with
  | kind =>
    refine (decides_ite hs _).imp id ?_
    rintro _ ⟨rfl, h⟩
    exact ⟨.notAClass, h⟩
  | visibility =>
    refine (decides_ite hs _).imp id ?_
    rintro _ ⟨rfl, h⟩
    exact ⟨.notPublic, h⟩
  | concreteness =>
    unfold check Holds
    cases r.declaration.isAbstract with
    | false => exact .inl ⟨Query.Gives.pure hs (), rfl⟩
    | true => exact .inr ⟨_, rfl, .isAbstract, by simp⟩
  | subtype => exact absurd rfl hne
  | constructor =>
    refine (decides_ite hs _).imp ?_ ?_
    · intro h
      obtain ⟨c, hc, h⟩ := List.any_eq_true.1 h
      exact ⟨c, hc, by simpa [Constructor.isDefault] using h⟩
    · rintro _ ⟨rfl, h⟩
      refine ⟨.missingDefaultConstructor, ?_⟩
      rintro ⟨c, hc, hpublic, hrequired⟩
      exact h (List.any_eq_true.2 ⟨c, hc, by simp [Constructor.isDefault, hpublic, hrequired]⟩)

theorem Rule.check_decides {p : Provider σ} {I : σ → Prop} (hp : p.Fixed I known) {limit : Nat}
    {r : Record} (hcard : (ancestors known r.declaration).encard ≤ limit) (rule : Rule) {s : σ}
    (hs : I s) :
    Decides I (rule.check p limit r) s (rule.Holds known r)
      (fun e => rule.Rejects known limit r e ∧ ¬rule.Holds known r) := by
  by_cases hrule : rule = .subtype
  · subst hrule
    refine (checkSubtype_decides hp limit r hs).imp ?_ ?_
    · rintro ⟨g, hg, h⟩
      refine ⟨g, hg, ?_⟩
      rwa [← walk_found_iff_of_card_le hcard]
    · rintro e (⟨hnone, rfl⟩ | ⟨g, hg, h⟩)
      · refine ⟨.groupUnknown hnone, ?_⟩
        rintro ⟨g, hg, -⟩
        cases hnone.symm.trans hg
      · have honly : ∀ g', known r.group = some g' → g' = g :=
          fun g' hg' => Option.some.inj (hg'.symm.trans hg)
        by_cases hi : g.kind = .interface
        · rw [if_pos hi] at h
          obtain ⟨hlacks, rfl⟩ := h
          refine ⟨.doesNotImplement hg hi, ?_⟩
          rintro ⟨g', hg', h⟩
          rw [honly g' hg', if_pos hi] at h
          exact hlacks h
        · rw [if_neg hi] at h
          obtain ⟨t, hw, rfl⟩ := h
          refine ⟨.doesNotExtend hg hi (by split <;> simp), ?_⟩
          rintro ⟨g', hg', h⟩
          rw [honly g' hg', if_neg hi, ← walk_found_iff_of_card_le hcard, hw] at h
          obtain ⟨t', h⟩ := h
          cases h
  · exact Rule.check_decides_of_ne hrule hs

/-- Of rules checked one after the other, the first that rejects counts. -/
theorem forM_decides {ρ : Type} {I : σ → Prop} {check : ρ → Query σ Unit} {holds : ρ → Prop}
    {rejects : ρ → Rejection → Prop}
    (hcheck : ∀ rule s, I s → Decides I (check rule) s (holds rule) (rejects rule))
    (rules : List ρ) {s : σ} (hs : I s) :
    Decides I (rules.forM check) s (∀ rule ∈ rules, holds rule)
      (fun e => ∃ before rule after, rules = before ++ rule :: after ∧
        (∀ q ∈ before, holds q) ∧ rejects rule e) := by
  induction rules generalizing s with
  | nil => exact .inl ⟨Query.Gives.pure hs (), fun _ h => absurd h List.not_mem_nil⟩
  | cons rule rules ih =>
    change Decides I (check rule >>= fun _ => rules.forM check) s _ _
    rcases hcheck rule s hs with ⟨hgives, hholds⟩ | ⟨e, hanswer, hrejects⟩
    · rcases ih hgives.state with ⟨hrest, hall⟩ | ⟨e, hanswer, before, q, after, rfl, hall, hq⟩
      · exact .inl ⟨hgives.bind hrest, List.forall_mem_cons.2 ⟨hholds, hall⟩⟩
      · exact .inr ⟨e, (Query.answer_bind hgives.answer _).trans hanswer, rule :: before, q, after,
          rfl, List.forall_mem_cons.2 ⟨hholds, hall⟩, hq⟩
    · exact .inr ⟨e, Query.answer_bind_error hanswer _, [], rule, rules, rfl,
        fun _ h => absurd h List.not_mem_nil, hrejects⟩

theorem doesNotExtend_message_eq {d : Declaration} {g : String} {cut : Option Nat}
    (h : (Rejection.doesNotExtend d g cut).message =
      s!"The class {d.qualifiedName} annotated with {markerLabel} must inherit from {g}") :
    cut = none := by
  cases cut with
  | none => rfl
  | some n =>
    have hdetail := String.append_eq_left_iff.1 h
    exact absurd (String.append_eq_empty_iff.1 hdetail).2 (by decide)

/-- What it takes to tell a record that misses its group without being cut short. -/
def LosesAll (known : String → Option Declaration) (r : Record) (e : Rejection) : Prop :=
  e.code = "DoesNotExtend" →
    e.message =
      s!"The class {r.qualifiedName} annotated with {markerLabel} must inherit from {r.group}" →
    ∀ names, ¬Ancestry known r.declaration r.group names

/-- Only the rule of the subtype speaks of an ancestor that is missed. -/
theorem Rule.Rejects.code_ne {limit : Nat} {r : Record} {rule : Rule} {e : Rejection}
    (h : rule.Rejects known limit r e) (hne : rule ≠ .subtype) : e.code ≠ "DoesNotExtend" := by
  cases h with
  | notAClass => simp [Rejection.code]
  | notPublic => simp [Rejection.code]
  | isAbstract => simp [Rejection.code]
  | groupUnknown _ => exact absurd rfl hne
  | doesNotImplement _ _ => exact absurd rfl hne
  | doesNotExtend _ _ _ => exact absurd rfl hne
  | missingDefaultConstructor => simp [Rejection.code]

theorem Rule.check_losesAll {p : Provider σ} {I : σ → Prop} (hp : p.Fixed I known) (limit : Nat)
    (r : Record) (rule : Rule) {s : σ} (hs : I s) :
    Decides I (rule.check p limit r) s True (LosesAll known r) := by
  by_cases hrule : rule = .subtype
  · subst hrule
    refine (checkSubtype_decides hp limit r hs).imp (fun _ => trivial) ?_
    rintro e (⟨-, rfl⟩ | ⟨g, -, h⟩) hcode hmessage
    · simp [Rejection.code] at hcode
    · by_cases hi : g.kind = .interface
      · rw [if_pos hi] at h
        obtain ⟨-, rfl⟩ := h
        simp [Rejection.code] at hcode
      · rw [if_neg hi] at h
        obtain ⟨t, hw, rfl⟩ := h
        refine no_ancestry_of_not_truncated hw ?_
        have hcut := doesNotExtend_message_eq hmessage
        cases ht : t.truncated with
        | false => rfl
        | true => simp [ht] at hcut
  · have hdecides : Decides I (rule.check p limit r) s (rule.Holds known r)
        (fun e => rule.Rejects known limit r e ∧ ¬rule.Holds known r) :=
      Rule.check_decides_of_ne hrule hs
    refine hdecides.imp (fun _ => trivial) ?_
    rintro e ⟨hrejects, -⟩ hcode
    exact absurd hcode (hrejects.code_ne hrule)

/-! ### Validation as a whole -/

/-- With a limit no smaller than the number of names above the class, a record is valid exactly when
it keeps every rule, and an invalid one is rejected for the first rule it violates. Whatever the
limit, a record that misses its group without being cut short has no chain to it. -/
theorem validate_exact {p : Provider σ} {I : σ → Prop} (hp : p.Fixed I known) (r : Record) {s : σ}
    (hs : I s) :
    (∀ limit : Nat, (ancestors known r.declaration).encard ≤ limit →
      ((validate p limit r).answer s = .ok () ↔ ∀ rule ∈ Rule.all, rule.Holds known r) ∧
      ∀ f, (validate p limit r).answer s = .error f →
        ∃ before rule after e, Rule.all = before ++ rule :: after ∧
          (∀ q ∈ before, q.Holds known r) ∧ ¬rule.Holds known r ∧
          rule.Rejects known limit r e ∧ f = .rejected e) ∧
    ∀ (limit : Nat) (e : Rejection), 1 ≤ limit →
      (validate p limit r).answer s = .error (.rejected e) → e.code = "DoesNotExtend" →
      e.message =
        s!"The class {r.qualifiedName} annotated with {markerLabel} must inherit from {r.group}" →
      ∀ names, ¬Ancestry known r.declaration r.group names := by
  refine ⟨fun limit hcard => ?_, fun limit e _ herror => ?_⟩
  · have h := forM_decides (fun rule _ => Rule.check_decides hp hcard rule) Rule.all hs
    rcases h with ⟨hgives, hall⟩ | ⟨e, hanswer, before, rule, after, hsplit, hbefore, hrejects, hfails⟩
    · refine ⟨iff_of_true hgives.answer hall, fun f hf => ?_⟩
      cases hgives.answer.symm.trans hf
    · constructor
      · refine iff_of_false (fun hok => ?_) (fun hall => hfails (hall rule ?_))
        · cases hanswer.symm.trans hok
        · rw [hsplit]
          exact List.mem_append_right before List.mem_cons_self
      · intro f hf
        have hfe : f = .rejected e := Except.error.inj (hf.symm.trans hanswer)
        exact ⟨before, rule, after, e, hsplit, hbefore, hfails, hrejects, hfe⟩
  · have h := forM_decides (fun rule _ => Rule.check_losesAll hp limit r rule) Rule.all hs
    rcases h with ⟨hgives, -⟩ | ⟨e', hanswer, _, _, _, -, -, hlost⟩
    · cases hgives.answer.symm.trans herror
    · have hee : e' = e := Fault.rejected.inj (Except.error.inj (hanswer.symm.trans herror))
      exact hee ▸ hlost

def ring : Store :=
  Store.ofDeclarations [plainClass "G" [], plainClass "A" ["m.B"], plainClass "B" ["m.A", "m.G"]]

theorem ancestors_ring : (ancestors ring.get? (climber ["m.A", "m.Z"]).declaration).encard ≤ 4 := by
  have hsub : ancestors ring.get? (climber ["m.A", "m.Z"]).declaration ⊆
      (({"m.A", "m.B", "m.G", "m.Z"} : Finset String) : Set String) := by
    rintro n ⟨k, h⟩
    induction h with
    | base h =>
      have h' : _ ∈ ["m.A", "m.Z"] := h
      simp only [List.mem_cons, List.not_mem_nil, or_false] at h'
      rcases h' with rfl | rfl <;> simp
    | next _ he hm ih =>
      simp only [Finset.coe_insert, Finset.coe_singleton, Set.mem_insert_iff,
        Set.mem_singleton_iff] at ih
      rcases ih with rfl | rfl | rfl | rfl
      · cases he
        have h' : _ ∈ ["m.B"] := hm
        simp_all
      · cases he
        have h' : _ ∈ ["m.A", "m.G"] := hm
        simp only [List.mem_cons, List.not_mem_nil, or_false] at h'
        rcases h' with rfl | rfl <;> simp
      · cases he
        cases hm
      · cases he
  refine (Set.encard_le_encard hsub).trans ?_
  rw [Set.encard_coe_eq_coe_finsetCard]
  exact_mod_cast Finset.card_le_four

theorem validate_exact_ring :
    (ancestors ring.get? (climber ["m.A", "m.Z"]).declaration).encard ≤ 4 ∧
    (validate Store.provider 4 (climber ["m.A", "m.Z"])).answer ring = .ok () ∧
    ∀ names, ¬Ancestry ring.get? (climber ["m.Z"]).declaration "m.G" names := by
  have hring := validate_exact (Store.provider_fixed ring) (climber ["m.A", "m.Z"]) (s := ring) rfl
  have hlost := validate_exact (Store.provider_fixed ring) (climber ["m.Z"]) (s := ring) rfl
  refine ⟨ancestors_ring, ((hring.1 4 ancestors_ring).1).2 ?_,
    hlost.2 1 (.doesNotExtend (climber ["m.Z"]).declaration "m.G" none) (Nat.le_refl 1) (by rfl)
      (by rfl) (by rfl)⟩
  have hchain : Ancestry ring.get? (climber ["m.A", "m.Z"]).declaration "m.G"
      ["m.A", "m.B", "m.G"] :=
    ⟨⟨"m.A", by decide, rfl⟩, by decide, ⟨plainClass "A" ["m.B"], by rfl, by decide⟩, by decide,
      ⟨plainClass "B" ["m.A", "m.G"], by rfl, by decide⟩, rfl⟩
  intro rule _
  cases rule with
  | kind => rfl
  | visibility => rfl
  | concreteness => rfl
  | subtype => exact ⟨plainClass "G" [], by rfl, ["m.A", "m.B", "m.G"], hchain⟩
  | constructor => exact ⟨.standard, by decide, by decide⟩

end Foundry
