import Foundry.Proofs.Pass.Alongside
import Foundry.Proofs.Pass.Rounds

/-!
Verdicts on declarations. Where the answers of a provider do not change, the outcome of a
declaration depends on nothing but the records that were accepted before it.
-/

namespace Foundry

open Query

variable {ω σ α : Type}

def View.Same (v : View ω) (w w' : ω) : Prop :=
  v.good w ∧ v.good w' ∧ v.tree w = v.tree w'

/-- A host whose provider has fixed answers, and whose file system looks at nothing but files. -/
structure Host.Steady (h : Host ω) (v : View ω) : Prop where
  provider : h.provider.Alike (fun w w' => v.good w ∧ v.good w') h.provider
  setFiles : ∀ t, Query.Alike v.Same (h.setFiles t) (h.setFiles t)

theorem View.alike_same {v : View ω} {q : Query ω α} {E : Fault → Prop}
    (hq : Query.Alike (fun w w' => v.good w ∧ v.good w') q q)
    (hwithin : ∀ t l, Query.Within (v.At t l) E q) : Query.Alike v.Same q q := by
  rintro w w' ⟨hgood, hgood', htree⟩
  refine ((hq w w' ⟨hgood, hgood'⟩).and (hwithin _ _ w ⟨hgood, rfl, rfl⟩)
    (hwithin _ _ w' ⟨hgood', rfl, rfl⟩)).imp ?_ ?_
  · rintro a b u u' ⟨⟨hab, hu, hu'⟩, hat, hat'⟩
    exact ⟨hab, hu, hu', hat.2.1.trans (htree.trans hat'.2.1.symm)⟩
  · rintro u u' ⟨⟨hu, hu'⟩, ⟨f, hat, -⟩, f', hat', -⟩
    exact ⟨hu, hu', hat.2.1.trans (htree.trans hat'.2.1.symm)⟩

theorem Host.Steady.alike {h : Host ω} {v : View ω} (hst : h.Steady v) (hh : h.Tame v) :
    h.Alike v.Same h where
  provider :=
    { get := fun n => View.alike_same (hst.provider.get n) fun t l => (hh.provider t l).get n
      resolve := fun r =>
        View.alike_same (hst.provider.resolve r) fun t l => (hh.provider t l).resolve r }
  sink d := by
    rintro w w' ⟨hgood, hgood', htree⟩
    refine (Both.of_after (hh.sink d ⟨hgood, rfl, rfl⟩) (hh.sink d ⟨hgood', rfl, rfl⟩)).imp ?_
      fun _ _ h => h
    rintro _ _ u u' ⟨hu, hu'⟩
    exact ⟨rfl, hu.1, hu'.1, hu.2.1.trans (htree.trans hu'.2.1.symm)⟩
  files := by
    rintro w w' ⟨hgood, hgood', htree⟩
    refine (Both.of_after (hh.files ⟨hgood, rfl, rfl⟩) (hh.files ⟨hgood', rfl, rfl⟩)).imp ?_
      fun _ _ h => h
    rintro a b u u' ⟨⟨rfl, hu⟩, rfl, hu'⟩
    exact ⟨htree, hu.1, hu'.1, hu.2.1.trans (htree.trans hu'.2.1.symm)⟩
  setFiles := hst.setFiles
  setSpans := by
    rintro w w' l l' ⟨hgood, hgood', htree⟩
    have hw := hh.setSpans l (v := v) (w := w) ⟨hgood, rfl, rfl⟩
    have hw' := hh.setSpans l' (v := v) (w := w') ⟨hgood', rfl, rfl⟩
    exact ⟨hw.1, hw'.1, hw.2.1.trans (htree.trans hw'.2.1.symm)⟩

namespace World

theorem host_steady {p : Provider σ} {good : σ → Prop}
    (hp : p.Alike (fun m m' => good m ∧ good m') p) : (host p).Steady (view good) where
  provider := hp.onPart (fun _ _ hw => hw) fun _ _ _ _ _ hs => hs
  setFiles _ := fun _ _ hw => ⟨rfl, hw.1, hw.2.1, rfl⟩

end World

theorem Store.provider_alike (s : Store) :
    Store.provider.Alike (fun m m' => m = s ∧ m' = s) Store.provider where
  get n := by
    rintro m m' ⟨rfl, rfl⟩
    exact ⟨rfl, rfl, rfl⟩
  resolve r := by
    rintro m m' ⟨rfl, rfl⟩
    exact ⟨rfl, rfl, rfl⟩

/-- A question asked for each item in turn has the answer that is put together from its answers. -/
theorem Query.answer_forM {I : ω → Prop} {f : α → Query ω Unit}
    (hf : ∀ a, Query.Alike (fun w w' => I w ∧ I w') (f a) (f a)) (xs : List α) {w w' : ω} (hw : I w)
    (hw' : I w') : (xs.forM f).answer w' = xs.forM fun a => (f a).answer w := by
  induction xs generalizing w' with
  | nil => rfl
  | cons x xs ih =>
    obtain ⟨hanswer, -, hnext⟩ := (hf x w w' ⟨hw, hw'⟩).answer_eq
    change (f x >>= fun _ => xs.forM f).answer w' =
      (f x).answer w >>= fun _ => xs.forM fun a => (f a).answer w
    rw [hanswer]
    cases hx : (f x).answer w' with
    | error e => exact answer_bind_error hx _
    | ok _ => exact (answer_bind hx _).trans (ih hnext)

namespace Pass

/-- The outcome of a declaration after a log of accepted records, from the answers of the provider
in one world: the first step that fails counts, be it extraction, one of the rules in their order or
the registration. -/
def verdict (p : Provider ω) (limit : Nat) (w : ω) (log : List Record) (d : Declaration) :
    Except Fault Record := do
  let r ← (Record.extract p d).answer w
  Rule.all.forM fun rule => (rule.check p limit r).answer w
  match log.find? fun prior => prior.key = r.key with
  | some prior => throw (.rejected (.duplicate r prior))
  | none => return r

structure Row where
  declaration : Declaration
  outcome : Except Rejection Record

inductive Verdicts (p : Provider ω) (limit : Nat) (w : ω) : List Record → List Row → Prop
  | nil {log} : Verdicts p limit w log []
  | cons {log row rows} :
    verdict p limit w log row.declaration = row.outcome.mapError Fault.rejected →
    Verdicts p limit w (log ++ accepted [row.outcome]) rows → Verdicts p limit w log (row :: rows)

def Row.outcomes (rows : List Row) : List (Except Rejection Record) :=
  rows.map (·.outcome)

section Verdicts

variable {p : Provider ω} {limit : Nat} {w : ω} {log : List Record}

theorem mapError_rejected_injective {x y : Except Rejection α}
    (h : x.mapError Fault.rejected = y.mapError Fault.rejected) : x = y := by
  cases x with
  | error e =>
    cases y with
    | error e' =>
      cases h
      rfl
    | ok b => cases h
  | ok a =>
    cases y with
    | error e' => cases h
    | ok b =>
      cases h
      rfl

theorem Verdicts.unique {rows rows' : List Row} (hr : Verdicts p limit w log rows)
    (hr' : Verdicts p limit w log rows')
    (hsame : rows.map (·.declaration) = rows'.map (·.declaration)) : rows = rows' := by
  induction hr generalizing rows' with
  | nil =>
    cases hr' with
    | nil => rfl
    | cons _ _ => cases hsame
  | @cons log row rows hv _ ih =>
    cases hr' with
    | nil => cases hsame
    | @cons _ row' rows' hv' hrest =>
      obtain ⟨d, out⟩ := row
      obtain ⟨d', out'⟩ := row'
      obtain ⟨rfl, hds⟩ := List.cons_eq_cons.1 hsame
      obtain rfl := mapError_rejected_injective (hv.symm.trans hv')
      rw [ih hrest hds]

/-- A rejected declaration has no part in the verdicts on others. -/
theorem Verdicts.erase {before after : List Row} {row : Row} {e : Rejection}
    (hr : Verdicts p limit w log (before ++ row :: after)) (he : row.outcome = .error e) :
    Verdicts p limit w log (before ++ after) := by
  induction before generalizing log with
  | nil =>
    cases hr with
    | cons _ hrest => simpa [he, accepted] using hrest
  | cons first before ih =>
    cases hr with
    | cons hv hrest => exact .cons hv (ih hrest)

theorem Verdicts.at_split {before after : List Row} {row : Row}
    (hr : Verdicts p limit w log (before ++ row :: after)) :
    verdict p limit w (log ++ accepted (Row.outcomes before)) row.declaration =
      row.outcome.mapError Fault.rejected := by
  induction before generalizing log with
  | nil =>
    cases hr with
    | cons hv _ => simpa [Row.outcomes, accepted] using hv
  | cons first before ih =>
    cases hr with
    | cons _ hrest =>
      have h := ih hrest
      rwa [List.append_assoc, ← accepted_append] at h

theorem verdict_of_valid {d : Declaration} {r : Record}
    (hextract : (Record.extract p d).answer w = .ok r)
    (hvalid : ∀ rule : Rule, (rule.check p limit r).answer w = .ok ()) :
    verdict p limit w log d = match log.find? fun prior => prior.key = r.key with
      | some prior => .error (.rejected (.duplicate r prior))
      | none => .ok r := by
  have hrules : (Rule.all.forM fun rule => (rule.check p limit r).answer w) = .ok () := by
    simp only [hvalid]
    rfl
  rw [verdict, hextract]
  change ((Rule.all.forM fun rule => (rule.check p limit r).answer w) >>= fun _ => _) = _
  rw [hrules]
  rfl

/-- Valid records are refused exactly when their places are taken. -/
theorem Verdicts.duplicate_iff {before after : List Row} {row : Row} {r : Record}
    (hr : Verdicts p limit w log (before ++ row :: after))
    (hextract : (Record.extract p row.declaration).answer w = .ok r)
    (hvalid : ∀ rule : Rule, (rule.check p limit r).answer w = .ok ()) :
    ((∃ e, row.outcome = .error e) ↔
        ∃ prior ∈ log ++ accepted (Row.outcomes before), prior.key = r.key) ∧
      ∀ e, row.outcome = .error e → e.code = "DuplicateIdentifier" := by
  have hv := hr.at_split
  rw [verdict_of_valid hextract hvalid] at hv
  generalize log ++ accepted (Row.outcomes before) = taken at hv ⊢
  cases hfind : taken.find? fun prior => prior.key = r.key with
  | none =>
    rw [hfind] at hv
    have hok : row.outcome = .ok r := mapError_rejected_injective hv.symm
    have hfree : ∀ prior ∈ taken, prior.key ≠ r.key := by simpa using hfind
    rw [hok]
    refine ⟨⟨(fun ⟨_, he⟩ => nomatch he), ?_⟩, fun _ he => nomatch he⟩
    rintro ⟨prior, hprior, hkey⟩
    exact absurd hkey (hfree prior hprior)
  | some prior =>
    rw [hfind] at hv
    have herror : row.outcome = .error (.duplicate r prior) := mapError_rejected_injective hv.symm
    have hkey : prior.key = r.key := by simpa using List.find?_some hfind
    rw [herror]
    refine ⟨iff_of_true ⟨_, rfl⟩ ⟨prior, List.mem_of_find?_eq_some hfind, hkey⟩, ?_⟩
    rintro _ ⟨⟩
    rfl

theorem extract_declaration {d : Declaration} {r : Record}
    (hextract : (Record.extract p d).answer w = .ok r) : r.declaration = d := by
  have hafter : After (Record.extract p d) w (fun r _ => r.declaration = d) fun _ _ => True := by
    unfold Record.extract
    split
    · trivial
    · split
      · trivial
      · rw [after_bind]
        exact (after_run _ w).imp (fun _ _ _ => rfl) fun _ _ _ => trivial
  exact hafter.of_ok (Prod.ext hextract rfl)

theorem declaration_of_verdict {d : Declaration} {r : Record}
    (hv : verdict p limit w log d = .ok r) : r.declaration = d := by
  unfold verdict at hv
  cases hextract : (Record.extract p d).answer w with
  | error e =>
    rw [hextract] at hv
    cases hv
  | ok r' =>
    rw [hextract] at hv
    change ((Rule.all.forM fun rule => (rule.check p limit r').answer w) >>= fun _ => _) = _ at hv
    cases hrules : Rule.all.forM fun rule => (rule.check p limit r').answer w with
    | error e =>
      rw [hrules] at hv
      cases hv
    | ok _ =>
      rw [hrules] at hv
      change (match log.find? fun prior => prior.key = r'.key with
        | some prior => Except.error (Fault.rejected (.duplicate r' prior))
        | none => .ok r') = _ at hv
      cases hfind : log.find? fun prior => prior.key = r'.key with
      | none =>
        rw [hfind] at hv
        cases hv
        exact extract_declaration hextract
      | some prior =>
        rw [hfind] at hv
        cases hv

theorem Verdicts.declaration {rows : List Row} (hr : Verdicts p limit w log rows) :
    ∀ row ∈ rows, ∀ r, row.outcome = .ok r → r.declaration = row.declaration := by
  induction hr with
  | nil => exact fun row hrow => nomatch hrow
  | cons hv _ ih =>
    refine List.forall_mem_cons.2 ⟨fun r hr => ?_, ih⟩
    rw [hr] at hv
    exact declaration_of_verdict hv

variable {good : ω → Prop} {w' : ω}

/-- With fixed answers a judgement is the verdict, in whatever world it was made. -/
theorem Judged.verdict_eq {h : Host ω}
    (hp : h.provider.Alike (fun w w' => good w ∧ good w') h.provider) (hw : good w) (hw' : good w')
    (hn : (log.map Record.key).Nodup) {d : Declaration} {out : Except Rejection Record}
    (hj : Judged h limit log d w' out) :
    verdict h.provider limit w log d = out.mapError Fault.rejected := by
  have hextract := (hp.extract d w w' ⟨hw, hw'⟩).answer_eq
  have hvalidate : ∀ r {u}, good u → (validate h.provider limit r).answer u =
      Rule.all.forM fun rule => (rule.check h.provider limit r).answer w :=
    fun r _ hu => Query.answer_forM (hp.check limit r) Rule.all hw hu
  -- A judgement after the extraction has the rules and the log left.
  have hrest : ∀ {r u}, (Record.extract h.provider d).run w' = (.ok r, u) →
      verdict h.provider limit w log d = (validate h.provider limit r).answer u >>= fun _ =>
        match log.find? fun prior => prior.key = r.key with
        | some prior => throw (.rejected (.duplicate r prior))
        | none => return r := by
    intro r u hrun
    have hu : good u := by
      have h := hextract.2.2
      rwa [hrun] at h
    have hanswer : (Record.extract h.provider d).answer w = .ok r := by
      rw [hextract.1, Query.answer, hrun]
    rw [verdict, hanswer, hvalidate r hu]
    rfl
  cases hj with
  | unextracted hx =>
    rw [verdict, hextract.1, hx]
    rfl
  | invalid hrun hx =>
    rw [hrest hrun, hx]
    rfl
  | duplicate hrun hx hprior hkey =>
    rw [hrest hrun, hx, ← hkey, Ordered.find?_of_mem Record.key hn hprior]
    rfl
  | @accepted r _ hrun hx hfree =>
    have hnone : log.find? (fun prior => prior.key = r.key) = none := by simpa using hfree
    rw [hrest hrun, hx, hnone]
    rfl

theorem Judged.nodup_append {h : Host ω} (hn : (log.map Record.key).Nodup) {d : Declaration}
    {out : Except Rejection Record} (hj : Judged h limit log d w out) :
    ((log ++ Pass.accepted [out]).map Record.key).Nodup := by
  cases hj with
  | unextracted _ => simpa [Pass.accepted] using hn
  | invalid _ _ => simpa [Pass.accepted] using hn
  | duplicate _ _ _ _ => simpa [Pass.accepted] using hn
  | @accepted r _ _ _ hfree =>
    have hnew : r.key ∉ log.map Record.key := fun hm => by
      obtain ⟨prior, hprior, hkey⟩ := List.mem_map.1 hm
      exact hfree prior hprior hkey
    simpa [Pass.accepted] using List.Nodup.concat hnew hn

theorem Settled.verdicts {h : Host ω} {v : View ω}
    (hp : h.provider.Alike (fun w w' => v.good w ∧ v.good w') h.provider) (hw : v.good w)
    (hn : (log.map Record.key).Nodup) {ds : List Declaration}
    {outs : List (Except Rejection Record)}
    (hs : Settled h v limit log ds outs) :
    ∃ rows : List Row, rows.map (·.declaration) = ds ∧ Row.outcomes rows = outs ∧
      Verdicts h.provider limit w log rows := by
  induction hs with
  | nil => exact ⟨[], rfl, rfl, .nil⟩
  | @cons _ d _ out _ _ hgood hj _ ih =>
    obtain ⟨rows, hds, houts, hrows⟩ := ih (hj.nodup_append hn)
    exact ⟨⟨d, out⟩ :: rows, congrArg (d :: ·) hds, congrArg (out :: ·) houts,
      .cons (hj.verdict_eq hp hw hgood hn) hrows⟩

end Verdicts

end Pass

end Foundry
