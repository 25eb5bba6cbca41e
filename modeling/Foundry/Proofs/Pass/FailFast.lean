import Foundry.Proofs.Pass.Emission

/-!
Passes that fail fast: after the first failure a round handles nothing more, and nothing is written
any more.
-/

namespace Foundry.Pass

open Query

variable {ω α β : Type} {h : Host ω} {v : View ω} {c : Config} {f : Filer} {t : FileTree}
  {l : Diagnostics}

/-- Work that fails fast is done to its end without a rejection, or ends with its only one. -/
theorem Stops.of_failFast {outs : List (Except Rejection α)} {rest : List β}
    (hs : Stops true outs rest) :
    rest = [] ∧ rejected outs = [] ∨
      ∃ before e, outs = before ++ [.error e] ∧ rejected before = [] := by
  generalize hff : true = failFast at hs
  induction hs with
  | done => exact .inl ⟨rfl, rfl⟩
  | @accepted a _ _ _ ih =>
    rcases ih with ⟨hrest, hnone⟩ | ⟨before, e, rfl, hnone⟩
    · exact .inl ⟨hrest, hnone⟩
    · exact .inr ⟨.ok a :: before, e, rfl, hnone⟩
  | goOn hoff => cases hff.trans hoff
  | @halt e _ _ => exact .inr ⟨[], e, rfl, rfl⟩

theorem RoundsOf.stops {log : List Record} {dss : List (List Declaration)} {rs : List Round}
    (hrs : RoundsOf h v c log dss rs) : ∀ r ∈ rs, Stops c.failFast r.outcomes r.skipped := by
  induction hrs with
  | nil => exact fun r hr => nomatch hr
  | cons hr _ ih => exact List.forall_mem_cons.2 ⟨hr.stops, ih⟩

theorem EmissionsOf.of_failFast {gs : List Group} {es : List Emission} {t' : FileTree}
    (hes : EmissionsOf h v c f t gs es t') (hff : c.failFast = true) :
    (∃ f', EmitsAll h v c f t es f' t') ∧
      (gs = es.map (·.group) ∧ rejected (results es) = [] ∨
        ∃ before e r rest, es = before ++ [e] ∧ e.result = .error r ∧
          gs = es.map (·.group) ++ rest ∧ rejected (results es) = [r] ∧
          rejected (results before) = []) := by
  obtain ⟨⟨rest, hgs, hstops⟩, hchain⟩ := hes
  rw [hff] at hstops
  refine ⟨hchain, ?_⟩
  rcases hstops.of_failFast with ⟨rfl, hnone⟩ | ⟨before, r, hes, hnone⟩
  · exact .inl ⟨by simpa using hgs, hnone⟩
  · obtain ⟨first, last, rfl, hfirst, hlast⟩ := List.map_eq_append_iff.1 hes
    obtain ⟨e, rfl, hr⟩ := List.map_eq_singleton_iff.1 hlast
    refine .inr ⟨first, e, r, rest, rfl, hr, hgs, ?_, ?_⟩
    · simp [results, hfirst, hr, hnone, rejected]
    · rw [results, hfirst, hnone]

/-- How a pass that fails fast ends: after a failure with nothing, else with its groups emitted in
their order up to the first that fails. -/
structure EndsFast (h : Host ω) (v : View ω) (c : Config) (f : Filer) (t : FileTree)
    (log : List Record) (errors : List Rejection) (result : PassResult) (t' : FileTree) : Prop where
  stopped : errors ≠ [] → result = ⟨[], errors.map Rejection.diagnostic⟩ ∧ t' = t
  emitted : errors = [] → ∃ gs es f', Registry.Follows gs log ∧ EmitsAll h v c f t es f' t' ∧
    result.artifacts = accepted (results es) ∧
    (gs = es.map (·.group) ∧ rejected (results es) = [] ∧ result.diagnostics = [] ∨
      ∃ before e r rest, es = before ++ [e] ∧ e.result = .error r ∧
        gs = es.map (·.group) ++ rest ∧ rejected (results before) = [] ∧
        result.diagnostics = [r.diagnostic])

theorem finish_endsFast (hh : h.Tame v) (hff : c.failFast = true) {log : List Record}
    {errors : List Rejection} {s : Pass × ω} (hs : Standing v c f t l log errors s)
    (hencode : Encodable h v c f.codec s.1.registry.groups) :
    ∃ result w', (finish h).run s = (.ok result, fresh c f.reset, w') ∧
      EndsFast h v c f t log errors result (v.tree w') := by
  cases errors with
  | cons e errors =>
    have hstop : (c.failFast && s.1.failed) = true := by rw [hff, hs.failed]; rfl
    obtain ⟨result, _, hrun, rfl, rfl⟩ := (finish_stopped (h := h) hs.isOpen hstop s.2).exists_ok
      fun _ _ h => h
    refine ⟨_, _, hrun, fun _ => ⟨?_, hs.world.2.1⟩, fun hnone => nomatch hnone⟩
    rw [hs.reported]
  | nil =>
    have hgo : (c.failFast && s.1.failed) = false := by rw [hs.failed]; simp
    obtain ⟨result, w', es, t', hrun, hes, hartifacts, hdiagnostics, hw'⟩ :=
      finish_answered hh hs.isOpen hgo hs.world hencode
    obtain ⟨⟨f', hchain⟩, hends⟩ := hes.of_failFast hff
    rw [hs.reported, List.map_nil, List.nil_append] at hdiagnostics
    refine ⟨result, w', hrun, fun hne => absurd rfl hne, fun _ => ?_⟩
    refine ⟨_, es, f', hs.isOpen.follows, hw'.2.1 ▸ hchain, hartifacts, ?_⟩
    rcases hends with ⟨hgs, hnone⟩ | ⟨before, e, r, rest, hsplit, hr, hgs, hone, hnone⟩
    · exact .inl ⟨hgs, hnone, by rw [hdiagnostics, hnone]; rfl⟩
    · exact .inr ⟨before, e, r, rest, hsplit, hr, hgs, hnone, by rw [hdiagnostics, hone]; rfl⟩

/-- A pass that fails fast handles each round up to its first rejection, and writes nothing once a
failure was reported. -/
theorem fail_fast_stops_at_first_failure (hh : h.Tame v) (hff : c.failFast = true) (f : Filer)
    (reports : List Rejection) (dss : List (List Declaration))
    (hdss : ∀ ds ∈ dss, ∀ d ∈ ds, d.IsWorded) {w : ω} (hw : v.At t l w)
    (hencode : ∀ s, (collection h reports dss).run (fresh c f, w) = (.ok (), s) →
      Encodable h v c f.codec s.1.registry.groups) :
    ∃ rs result w',
      (whole h reports dss).run (fresh c f, w) = (.ok result, fresh c f.reset, w') ∧
      (whole h reports (rs.map (·.handled))).run (fresh c f, w) =
        (.ok result, fresh c f.reset, w') ∧
      RoundsOf h v c [] dss rs ∧
      (∀ r ∈ rs, r.skipped = [] ∧ rejected r.outcomes = [] ∨
        ∃ before e, r.outcomes = before ++ [.error e] ∧ rejected before = []) ∧
      EndsFast h v c f t (accepted (outcomes rs)) (reports ++ rejected (outcomes rs)) result
        (v.tree w') := by
  obtain ⟨rs, s, hrs, hs, hrun, hhandled⟩ := collection_standing hh f reports dss hdss hw
  obtain ⟨result, w', hfinish, hends⟩ := finish_endsFast hh hff hs (hencode s hrun)
  refine ⟨rs, result, w', ?_, ?_, hrs, fun r hr => ?_, hends⟩
  · exact (run_bind_ok hrun _).trans hfinish
  · exact (run_bind_ok hhandled _).trans hfinish
  · have hstops := hrs.stops r hr
    rw [hff] at hstops
    exact hstops.of_failFast

def impatient : Config :=
  { Config.standard with failFast := true }

theorem unparsed_shop_stops_at_first_failure :
    (∀ ds ∈ [[tea, cola], [tea]], ∀ d ∈ ds, d.IsWorded) ∧
    ∃ result w',
      (whole (World.host Store.provider) [.reported "Cannot parse a.py"] [[tea, cola], [tea]]).run
        (fresh impatient shopFiler, World.start shop FileTree.empty) =
        (.ok result, fresh impatient shopFiler, w') ∧
      result.artifacts = [] ∧ w'.files = FileTree.empty := by
  have hworded : ∀ ds ∈ [[tea, cola], [tea]], ∀ d ∈ ds, d.IsWorded := by decide
  obtain ⟨rs, result, w', hrun, -, -, -, hends⟩ :=
    fail_fast_stops_at_first_failure (World.host_tame (Store.provider_within shop)) (c := impatient)
      rfl shopFiler [.reported "Cannot parse a.py"] [[tea, cola], [tea]] hworded
      (w := World.start shop FileTree.empty) (t := FileTree.empty) (l := [])
      ⟨rfl, rfl, rfl⟩ fun _ _ _ _ _ _ => Filer.encodeAs_utf8 _
  obtain ⟨rfl, hfiles⟩ := hends.stopped (List.cons_ne_nil _ _)
  exact ⟨hworded, _, w', hrun, rfl, hfiles⟩

/-- A round that begins with a drink without a valid identifier reports nothing: it fails, and the
failure that was reported before it is forgotten. -/
theorem bulk_forgets_earlier_failure :
    let h := World.host Store.provider
    let w := World.start shop FileTree.empty
    impatient.failFast = true ∧ (∀ d ∈ [tea, bulk, cola], d.marking.isSome = true) ∧
    ∃ s, (rounds h [[tea, tea]]).run (fresh impatient shopFiler, w) = (.ok (), s) ∧
      s.1.failed = true ∧
      ∃ s', (discard (process h (visitsOf [bulk, cola]) false)).run s =
          (.error (.unshown .tooLong), s') ∧
        s'.1 = fresh impatient shopFiler := by
  intro h w
  have hw : (World.view (· = shop)).At FileTree.empty [] w := ⟨rfl, rfl, rfl⟩
  obtain ⟨_, s, hrun, rs, -, hs, -⟩ := (rounds_standing (World.host_tame
    (Store.provider_within shop)) [[tea, tea]] (by decide) (standing_fresh hw)).exists_ok
      fun _ _ h => h
  have hfailed :
      ((rounds h [[tea, tea]]).run (fresh impatient shopFiler, w)).2.1.failed = true := by
    decide +kernel
  obtain ⟨_, s', hbulk, rfl, hcleared⟩ := ((after_discard _).2
    (process_unshown (d := bulk) h rfl (unshown?_enormous _) (visitsOf [cola])
      false s)).exists_error fun _ _ h => h
  refine ⟨rfl, by decide, s, hrun, ?_, s', hbulk, ?_⟩
  · rwa [hrun] at hfailed
  · rw [hcleared, clear, hs.isOpen.config, hs.isOpen.filer]
    rfl

end Foundry.Pass
