import Foundry.Proofs.Pass.Tame

/-!
Rounds of marked declarations in a tame host. Every declaration that a round handles is accepted
or reported, and a round that fails fast handles nothing after its first rejection.
-/

namespace Foundry.Pass

open Query

variable {ω α β : Type} {h : Host ω} {v : View ω} {c : Config} {f : Filer}

def visitsOf (ds : List Declaration) : List (Query ω (Option Declaration)) :=
  ds.map fun d => pure (some d)

def rounds (h : Host ω) (dss : List (List Declaration)) : Step ω Unit :=
  dss.forM fun ds => discard (process h (visitsOf ds) false)

/-! ### Outcomes -/

@[simp] theorem accepted_append (xs ys : List (Except Rejection α)) :
    accepted (xs ++ ys) = accepted xs ++ accepted ys := by
  induction xs with
  | nil => rfl
  | cons x xs ih => cases x <;> simp [accepted, ih]

theorem mem_accepted {outs : List (Except Rejection α)} {a : α} :
    a ∈ accepted outs ↔ .ok a ∈ outs := by
  induction outs with
  | nil => simp [accepted]
  | cons x outs ih => cases x <;> simp [accepted, ih]

@[simp] theorem rejected_append (xs ys : List (Except Rejection α)) :
    rejected (xs ++ ys) = rejected xs ++ rejected ys := by
  induction xs with
  | nil => rfl
  | cons x xs ih => cases x <;> simp [rejected, ih]

/-- Which items are left over when outcomes end a list of work: none, or those after the first
rejection of work that fails fast. -/
inductive Stops (failFast : Bool) : List (Except Rejection α) → List β → Prop
  | done : Stops failFast [] []
  | accepted {a outs rest} : Stops failFast outs rest → Stops failFast (.ok a :: outs) rest
  | goOn {e outs rest} :
    failFast = false → Stops failFast outs rest → Stops failFast (.error e :: outs) rest
  | halt {e rest} : failFast = true → Stops failFast [.error e] rest

theorem Stops.rest_eq_nil {outs : List (Except Rejection α)} {rest : List β}
    (hs : Stops false outs rest) : rest = [] := by
  induction hs with
  | done => rfl
  | accepted _ ih => exact ih
  | goOn _ _ ih => exact ih
  | halt hff => cases hff

inductive Settled (h : Host ω) (v : View ω) (limit : Nat) :
    List Record → List Declaration → List (Except Rejection Record) → Prop
  | nil {log} : Settled h v limit log [] []
  | cons {log d ds out outs w} :
    v.good w → Judged h limit log d w out → Settled h v limit (log ++ accepted [out]) ds outs →
    Settled h v limit log (d :: ds) (out :: outs)

theorem Settled.append {limit : Nat} {log : List Record} {ds ds' : List Declaration}
    {outs outs' : List (Except Rejection Record)} (hs : Settled h v limit log ds outs)
    (hs' : Settled h v limit (log ++ accepted outs) ds' outs') :
    Settled h v limit log (ds ++ ds') (outs ++ outs') := by
  induction hs with
  | nil => simpa [accepted] using hs'
  | cons hgood hj _ ih =>
    refine .cons hgood hj (ih ?_)
    rwa [List.append_assoc, ← accepted_append]

/-- A round with the declarations it handled, those it never came to, and the outcomes. -/
structure Round where
  handled : List Declaration
  skipped : List Declaration
  outcomes : List (Except Rejection Record)

structure Round.Of (h : Host ω) (v : View ω) (c : Config) (log : List Record)
    (ds : List Declaration) (r : Round) : Prop where
  split : ds = r.handled ++ r.skipped
  settled : Settled h v c.maxSuperclassDepth log r.handled r.outcomes
  stops : Stops c.failFast r.outcomes r.skipped

/-- Rounds one after the other, each over the declarations it was given. -/
inductive RoundsOf (h : Host ω) (v : View ω) (c : Config) :
    List Record → List (List Declaration) → List Round → Prop
  | nil {log} : RoundsOf h v c log [] []
  | cons {log ds dss r rs} :
    r.Of h v c log ds → RoundsOf h v c (log ++ accepted r.outcomes) dss rs →
    RoundsOf h v c log (ds :: dss) (r :: rs)

def outcomes (rs : List Round) : List (Except Rejection Record) :=
  rs.flatMap (·.outcomes)

/-! ### Standing of a pass -/

/-- A pass with a log of records and the rejections reported since it began, in a world with the
files it began with. -/
structure Standing (v : View ω) (c : Config) (f : Filer) (t : FileTree) (l : Diagnostics)
    (log : List Record) (errors : List Rejection) (s : Pass × ω) : Prop where
  isOpen : Open c f log s.1
  reported : s.1.reported = errors.map Rejection.diagnostic
  failed : s.1.failed = !errors.isEmpty
  world : v.At t (l ++ errors.map Rejection.diagnostic) s.2

variable {t : FileTree} {l : Diagnostics} {log : List Record} {errors : List Rejection}
  {s : Pass × ω}

theorem standing_fresh {w : ω} (hw : v.At t l w) : Standing v c f t l [] [] (fresh c f, w) :=
  ⟨open_fresh c f, rfl, rfl, by simpa using hw⟩

theorem report_standing (hh : h.Tame v) (hs : Standing v c f t l log errors s) (r : Rejection) :
    After (report h r) s (fun _ s' => Standing v c f t l log (errors ++ [r]) s')
      fun _ _ => False := by
  rw [after_report]
  refine (hh.sink r.diagnostic hs.world).imp (fun _ w hw => ?_) fun _ _ h => h
  refine ⟨hs.isOpen.noted r, ?_, ?_, ?_⟩
  · simp [Pass.noted, hs.reported]
  · simp [Pass.noted]
  · simpa using hw

theorem attempt_standing (hh : h.Tame v) (hs : Standing v c f t l log errors s) {d : Declaration}
    (hd : d.IsWorded) :
    After (attempt h d) s
      (fun o s' => ∃ out, Judged h c.maxSuperclassDepth log d s.2 out ∧ o = rejection? out ∧
        Standing v c f t l (log ++ accepted [out]) errors s')
      fun _ _ => False := by
  refine (attempt_after (hh.provider _ _) hs.isOpen d hs.world).imp ?_ ?_
  · rintro o s' ⟨hw, out, hj, ho, hopen, g, hg⟩
    rw [hs.isOpen.config] at hj
    refine ⟨out, hj, ho, hopen, ?_, ?_, hw⟩
    · rw [hg]
      exact hs.reported
    · rw [hg]
      exact hs.failed
  · rintro e s' ⟨-, -, hreject, he | hbars⟩
    · exact hreject he
    · exact hbars.not_isWorded hd

/-! ### One round -/

theorem visitAll_cons (h : Host ω) (d : Declaration) (ds : List Declaration) (k : Counts) :
    visitAll h (visitsOf (d :: ds)) k = attempt h d >>= fun o => match o with
      | none => visitAll h (visitsOf ds) { k with accepted := k.accepted + 1 }
      | some r => report h r >>= fun _ => get >>= fun s =>
        if s.1.config.failFast then pure { k with rejected := k.rejected + 1 }
        else visitAll h (visitsOf ds) { k with rejected := k.rejected + 1 } :=
  rfl

theorem visitAll_standing (hh : h.Tame v) (ds : List Declaration)
    (hds : ∀ d ∈ ds, d.IsWorded) (hs : Standing v c f t l log errors s) (k : Counts) :
    After (visitAll h (visitsOf ds) k) s
      (fun k' s' => ∃ r : Round, r.Of h v c log ds ∧
        Standing v c f t l (log ++ accepted r.outcomes) (errors ++ rejected r.outcomes) s' ∧
        (visitAll h (visitsOf r.handled) k).run s = (.ok k', s'))
      fun _ _ => False := by
  induction ds generalizing log errors s k with
  | nil =>
    exact ⟨⟨[], [], []⟩, ⟨rfl, .nil, .done⟩, by simpa [accepted, rejected] using hs, rfl⟩
  | cons d ds ih =>
    obtain ⟨hd, hrest⟩ := List.forall_mem_cons.1 hds
    rw [visitAll_cons, after_bind]
    refine ((attempt_standing hh hs hd).and (after_run _ s)).imp ?_ fun _ _ h => h.1
    rintro _ s₁ ⟨⟨out, hj, rfl, hs₁⟩, hattempt⟩
    cases out with
    | ok r =>
      refine (ih hrest hs₁ _).imp ?_ fun _ _ h => h
      rintro k' s' ⟨⟨handled, skipped, outs⟩, ⟨rfl, hsettled, hstops⟩, hs', hrun⟩
      refine ⟨⟨d :: handled, skipped, .ok r :: outs⟩,
        ⟨rfl, .cons hs.world.1 hj hsettled, .accepted hstops⟩, ?_, ?_⟩
      · simpa [accepted, rejected] using hs'
      · rw [visitAll_cons, run_bind_ok hattempt]
        exact hrun
    | error e =>
      have hlog : log ++ accepted [(.error e : Except Rejection Record)] = log := by
        simp [accepted]
      rw [hlog] at hs₁
      dsimp only [rejection?]
      rw [after_bind]
      refine ((report_standing hh hs₁ e).and (after_run _ s₁)).imp ?_ fun _ _ h => h.1
      rintro _ s₂ ⟨hs₂, hreport⟩
      have hon : ∀ ds, (visitAll h (visitsOf (d :: ds)) k).run s =
          (if c.failFast then pure { k with rejected := k.rejected + 1 }
            else visitAll h (visitsOf ds) { k with rejected := k.rejected + 1 } :
            Step ω Counts).run s₂ := by
        intro ds
        rw [visitAll_cons, run_bind_ok hattempt, ← hs₂.isOpen.config]
        exact (run_bind_ok hreport _).trans (run_get_bind _ s₂)
      rw [after_bind, after_get, hs₂.isOpen.config]
      cases hff : c.failFast with
      | true =>
        refine ⟨⟨[d], ds, [.error e]⟩, ⟨rfl, .cons hs.world.1 hj .nil, .halt hff⟩, ?_, ?_⟩
        · simpa [accepted, rejected] using hs₂
        · rw [hon, hff]
          rfl
      | false =>
        refine (ih hrest hs₂ _).imp ?_ fun _ _ h => h
        rintro k' s' ⟨⟨handled, skipped, outs⟩, ⟨rfl, hsettled, hstops⟩, hs', hrun⟩
        refine ⟨⟨d :: handled, skipped, .error e :: outs⟩,
          ⟨rfl, .cons hs.world.1 hj ?_, .goOn hff hstops⟩, ?_, ?_⟩
        · rwa [hlog]
        · simpa [accepted, rejected] using hs'
        · rw [hon, hff]
          exact hrun

def nextRound (h : Host ω) (s : Pass × ω) : Pass × ω :=
  opened h "factorygen.process" [("factorygen.round", .int (s.1.round + 1 : Nat))]
    ({ s.1 with round := s.1.round + 1 }, s.2)

theorem nextRound_standing (hh : h.Tame v) (hs : Standing v c f t l log errors s) :
    Standing v c f t l log errors (nextRound h s) :=
  ⟨⟨hs.isOpen.config, hs.isOpen.filer, hs.isOpen.phase, hs.isOpen.follows⟩, hs.reported, hs.failed,
    hh.setSpans _ hs.world⟩

theorem run_processRound_congr {visits visits' : List (Query ω (Option Declaration))}
    (hv : (visitAll h visits ⟨0, 0⟩).run (nextRound h s) =
      (visitAll h visits' ⟨0, 0⟩).run (nextRound h s)) :
    (processRound h visits).run s = (processRound h visits').run s := by
  have hspan := run_discard_congr (run_inSpan_congr (fun _ => visitAll h visits ⟨0, 0⟩)
    (fun _ => visitAll h visits' ⟨0, 0⟩)
    (fun k sp => (sp.set "factorygen.accepted" (.int k.accepted)).set "factorygen.rejected"
      (.int k.rejected)) hv)
  exact run_tryCatch_congr hspan fun e => update clear >>= fun _ => throw e

theorem processRound_standing (hh : h.Tame v) (ds : List Declaration)
    (hds : ∀ d ∈ ds, d.IsWorded) (hs : Standing v c f t l log errors s) :
    After (processRound h (visitsOf ds)) s
      (fun _ s' => ∃ r : Round, r.Of h v c log ds ∧
        Standing v c f t l (log ++ accepted r.outcomes) (errors ++ rejected r.outcomes) s' ∧
        (processRound h (visitsOf ds)).run s = (processRound h (visitsOf r.handled)).run s)
      fun _ _ => False := by
  have hvisits :=
    (visitAll_standing hh ds hds (nextRound_standing hh hs) ⟨0, 0⟩).and (after_run _ _)
  simp only [processRound, after_bind, after_update, after_get, after_tryCatch, after_discard,
    after_throw]
  refine after_inSpan (hvisits.imp ?_ fun _ _ h => h.1.elim)
  rintro k' s' ⟨⟨r, hr, hs', hrun⟩, hall⟩ spans
  refine ⟨r, hr, ?_, run_processRound_congr (hall.trans hrun.symm)⟩
  exact ⟨hs'.isOpen, hs'.reported, hs'.failed, hh.setSpans _ hs'.world⟩

/-! ### All rounds -/

theorem rounds_cons (h : Host ω) (ds : List Declaration) (dss : List (List Declaration)) :
    rounds h (ds :: dss) = discard (process h (visitsOf ds) false) >>= fun _ => rounds h dss :=
  rfl

theorem run_process {visits : List (Query ω (Option Declaration))} {s' : Pass × ω}
    (hrun : (processRound h visits).run s = (.ok (), s')) :
    (discard (process h visits false)).run s = (.ok (), s') := by
  change ((fun _ => ()) <$> process h visits false).run s = _
  rw [map_eq_pure_bind, process, bind_assoc, run_bind_ok hrun]
  rfl

theorem rounds_standing (hh : h.Tame v) (dss : List (List Declaration))
    (hdss : ∀ ds ∈ dss, ∀ d ∈ ds, d.IsWorded) (hs : Standing v c f t l log errors s) :
    After (rounds h dss) s
      (fun _ s' => ∃ rs, RoundsOf h v c log dss rs ∧
        Standing v c f t l (log ++ accepted (outcomes rs)) (errors ++ rejected (outcomes rs)) s' ∧
        (rounds h (rs.map (·.handled))).run s = (.ok (), s'))
      fun _ _ => False := by
  induction dss generalizing log errors s with
  | nil => exact ⟨[], .nil, by simpa [outcomes, accepted, rejected] using hs, rfl⟩
  | cons ds dss ih =>
    obtain ⟨hds, hrest⟩ := List.forall_mem_cons.1 hdss
    have hround := (processRound_standing hh ds hds hs).and (after_run _ s)
    simp only [rounds_cons, process, after_bind, after_discard]
    refine hround.imp ?_ fun _ _ h => h.1
    rintro _ s₁ ⟨⟨r, hr, hs₁, hsame⟩, hrun⟩
    refine (ih hrest hs₁).imp ?_ fun _ _ h => h
    rintro _ s' ⟨rs, hrs, hs', hruns⟩
    refine ⟨r :: rs, .cons hr hrs, ?_, ?_⟩
    · simpa [outcomes, List.append_assoc] using hs'
    · rw [List.map_cons, rounds_cons, run_bind_ok (run_process (hsame.symm.trans hrun))]
      exact hruns

/-! ### Whole passes -/

def collection (h : Host ω) (reports : List Rejection) (dss : List (List Declaration)) :
    Step ω Unit := do
  reports.forM (report h)
  rounds h dss

def whole (h : Host ω) (reports : List Rejection) (dss : List (List Declaration)) :
    Step ω PassResult := do
  collection h reports dss
  finish h

theorem reports_standing (hh : h.Tame v) (reports : List Rejection) {log : List Record}
    {errors : List Rejection} {s : Pass × ω} (hs : Standing v c f t l log errors s) :
    After (reports.forM (report h)) s
      (fun _ s' => Standing v c f t l log (errors ++ reports) s') fun _ _ => False := by
  induction reports generalizing errors s with
  | nil => simpa using hs
  | cons r reports ih =>
    refine (after_bind _ _).2 ?_
    refine (report_standing hh hs r).imp (fun _ s₁ hs₁ => ?_) fun _ _ h => h
    simpa using ih hs₁

theorem collection_standing (hh : h.Tame v) (f : Filer) (reports : List Rejection)
    (dss : List (List Declaration)) (hdss : ∀ ds ∈ dss, ∀ d ∈ ds, d.IsWorded) {w : ω}
    (hw : v.At t l w) :
    ∃ rs s, RoundsOf h v c [] dss rs ∧
      Standing v c f t l (accepted (outcomes rs)) (reports ++ rejected (outcomes rs)) s ∧
      (collection h reports dss).run (fresh c f, w) = (.ok (), s) ∧
      (collection h reports (rs.map (·.handled))).run (fresh c f, w) = (.ok (), s) := by
  obtain ⟨_, s₁, hreports, hs₁⟩ :=
    (reports_standing hh reports (standing_fresh hw)).exists_ok fun _ _ h => h
  obtain ⟨_, s, hrounds, rs, hrs, hs, hhandled⟩ :=
    (rounds_standing hh dss hdss hs₁).exists_ok fun _ _ h => h
  refine ⟨rs, s, hrs, by simpa using hs, ?_, ?_⟩
  · exact (run_bind_ok hreports _).trans hrounds
  · exact (run_bind_ok hreports _).trans hhandled

end Foundry.Pass
