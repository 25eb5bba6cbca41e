import Foundry.Proofs.Pass.Emission
import Foundry.Proofs.Pass.Verdicts

/-!
Passes that go on after failures lose nothing: every declaration is accepted or reported, and it
does not matter how the declarations are cut into rounds, nor which rejected ones there are besides.
-/

namespace Foundry.Pass

open Query

variable {ω : Type} {h : Host ω} {v : View ω} {c : Config} {f : Filer} {t : FileTree}
  {l : Diagnostics} {w : ω}

def passOver (h : Host ω) (c : Config) (f : Filer) (w : ω) (dss : List (List Declaration)) :
    Except Fault PassResult × Pass × ω :=
  (whole h [] dss).run (fresh c f, w)

/-- What rounds collect: a verdict on each of their declarations, in their order, of which the
accepted records stand in the registry and the rejections are reported. -/
structure Collects (h : Host ω) (v : View ω) (c : Config) (f : Filer) (w : ω)
    (dss : List (List Declaration)) (rows : List Row) : Prop where
  declarations : rows.map (·.declaration) = dss.flatten
  verdicts : Verdicts h.provider c.maxSuperclassDepth w [] rows
  state : ∃ s, (collection h [] dss).run (fresh c f, w) = (.ok (), s) ∧
    Standing v c f (v.tree w) (v.heard w) (accepted (Row.outcomes rows))
      (rejected (Row.outcomes rows)) s

theorem RoundsOf.settled {log : List Record} {dss : List (List Declaration)} {rs : List Round}
    (hrs : RoundsOf h v c log dss rs) (hff : c.failFast = false) :
    Settled h v c.maxSuperclassDepth log dss.flatten (outcomes rs) := by
  induction hrs with
  | nil => exact .nil
  | cons hr _ ih =>
    have hstops := hr.stops
    rw [hff] at hstops
    rw [List.flatten_cons, hr.split, hstops.rest_eq_nil, List.append_nil]
    exact hr.settled.append ih

theorem collects_exists (hh : h.Tame v) (hst : h.Steady v) (hff : c.failFast = false) (f : Filer)
    (dss : List (List Declaration)) (hdss : ∀ ds ∈ dss, ∀ d ∈ ds, d.IsWorded)
    (hw : v.good w) : ∃ rows, Collects h v c f w dss rows := by
  obtain ⟨rs, s, hrs, hs, hrun, -⟩ := collection_standing hh f [] dss hdss ⟨hw, rfl, rfl⟩
  obtain ⟨rows, hds, houts, hrows⟩ := (hrs.settled hff).verdicts hst.provider hw (by simp)
  exact ⟨rows, hds, hrows, s, hrun, houts ▸ hs⟩

theorem Collects.finish_both (hh : h.Tame v) (hst : h.Steady v) {dss dss' : List (List Declaration)}
    {rows rows' : List Row} (hc : Collects h v c f w dss rows) (hc' : Collects h v c f w dss' rows')
    (hff : c.failFast = false)
    (hsame : accepted (Row.outcomes rows) = accepted (Row.outcomes rows')) :
    Both (whole h [] dss) (fresh c f, w) (whole h [] dss') (fresh c f, w)
      (fun r r' s s' => (r.artifacts = r'.artifacts ∧ ∃ new,
        r.diagnostics = (rejected (Row.outcomes rows)).map Rejection.diagnostic ++ new ∧
        r'.diagnostics = (rejected (Row.outcomes rows')).map Rejection.diagnostic ++ new) ∧
        v.tree s.2 = v.tree s'.2)
      fun s s' => v.tree s.2 = v.tree s'.2 := by
  obtain ⟨s, hrun, hs⟩ := hc.state
  obtain ⟨s', hrun', hs'⟩ := hc'.state
  rw [← hsame] at hs'
  have htogether : Together v.Same ((rejected (Row.outcomes rows)).map Rejection.diagnostic)
      ((rejected (Row.outcomes rows')).map Rejection.diagnostic) s s' := by
    refine ⟨⟨?_, ?_, hs.isOpen.registry_eq hs'.isOpen, ⟨[], ?_, ?_⟩, ?_⟩, hs.world.1, hs'.world.1,
      ?_⟩
    · rw [hs.isOpen.config, hs'.isOpen.config]
    · rw [hs.isOpen.filer, hs'.isOpen.filer]
    · rw [hs.reported, List.append_nil]
    · rw [hs'.reported, List.append_nil]
    · intro hon
      rw [hs.isOpen.config, hff] at hon
      cases hon
    · rw [hs.world.2.1, hs'.world.2.1]
  refine Both.bind_run hrun hrun' ((Pass.finish_both (hst.alike hh) htogether).imp ?_ ?_)
  · exact fun r r' u u' hr => ⟨⟨hr.1, hr.2.1⟩, hr.2.2.2.2.2⟩
  · exact fun u u' hu => hu.2.2.2

/-- The account of a pass that goes on: nothing is lost, nothing is counted twice, and no rejected
declaration leaves a trace in what is written. -/
structure Ledger (h : Host ω) (v : View ω) (c : Config) (f : Filer) (w : ω)
    (dss : List (List Declaration)) (rows : List Row) : Prop extends
    Collects h v c f w dss rows where
  single_round : (passOver h c f w dss).1 = (passOver h c f w [dss.flatten]).1
  records : ∀ row ∈ rows, ∀ r, row.outcome = .ok r → r.declaration = row.declaration
  duplicates : ∀ before row after, rows = before ++ row :: after →
    ∀ r, (Record.extract h.provider row.declaration).answer w = .ok r →
    (∀ rule : Rule, (rule.check h.provider c.maxSuperclassDepth r).answer w = .ok ()) →
    ((∃ e, row.outcome = .error e) ↔
      ∃ prior ∈ accepted (Row.outcomes before), prior.key = r.key) ∧
    ∀ e, row.outcome = .error e → e.code = "DuplicateIdentifier"
  deletion : ∀ before row after e, rows = before ++ row :: after → row.outcome = .error e →
    ∀ dss' : List (List Declaration), dss'.flatten = (before ++ after).map (·.declaration) →
    Collects h v c f w dss' (before ++ after) ∧
      (passOver h c f w dss).1.map (·.artifacts) = (passOver h c f w dss').1.map (·.artifacts) ∧
      v.tree (passOver h c f w dss).2.2 = v.tree (passOver h c f w dss').2.2
  answered :
    (∀ s, (collection h [] dss).run (fresh c f, w) = (.ok (), s) →
      Encodable h v c f.codec s.1.registry.groups) →
    ∃ result s, passOver h c f w dss = (.ok result, s)
  heard : ∀ result s, passOver h c f w dss = (.ok result, s) →
    v.heard s.2 = v.heard w ++ result.diagnostics ∧
      ∃ late, result.diagnostics =
        (rejected (Row.outcomes rows)).map Rejection.diagnostic ++ late

theorem Collects.unique {dss : List (List Declaration)} {rows rows' : List Row}
    (hc : Collects h v c f w dss rows) (hr : Verdicts h.provider c.maxSuperclassDepth w [] rows')
    (hds : rows'.map (·.declaration) = dss.flatten) : rows = rows' :=
  hc.verdicts.unique hr (hc.declarations.trans hds.symm)

theorem Collects.answered (hh : h.Tame v) {dss : List (List Declaration)} {rows : List Row}
    (hc : Collects h v c f w dss rows) (hff : c.failFast = false)
    (hencode : ∀ s, (collection h [] dss).run (fresh c f, w) = (.ok (), s) →
      Encodable h v c f.codec s.1.registry.groups) :
    ∃ result s, passOver h c f w dss = (.ok result, s) := by
  obtain ⟨s, hcollect, hs⟩ := hc.state
  have hgo : (c.failFast && s.1.failed) = false := by rw [hff, Bool.false_and]
  obtain ⟨result, w', _, _, hrun, -⟩ :=
    finish_answered hh hs.isOpen hgo hs.world (hencode s hcollect)
  exact ⟨result, _, (run_bind_ok hcollect _).trans hrun⟩

theorem Collects.heard (hh : h.Tame v) {dss : List (List Declaration)} {rows : List Row}
    (hc : Collects h v c f w dss rows) (hff : c.failFast = false) {result : PassResult}
    {s : Pass × ω} (hrun : passOver h c f w dss = (.ok result, s)) :
    v.heard s.2 = v.heard w ++ result.diagnostics ∧
      ∃ late, result.diagnostics =
        (rejected (Row.outcomes rows)).map Rejection.diagnostic ++ late := by
  obtain ⟨s₁, hcollect, hs₁⟩ := hc.state
  have hgo : (c.failFast && s₁.1.failed) = false := by rw [hff, Bool.false_and]
  have hend : (finish h).run s₁ = (.ok result, s) := (run_bind_ok hcollect _).symm.trans hrun
  obtain ⟨-, es, t', -, -, hdiagnostics, hw⟩ :=
    (finish_after hh.orderly hs₁.isOpen hgo hs₁.world).of_ok hend
  rw [hs₁.reported] at hdiagnostics
  refine ⟨?_, _, hdiagnostics⟩
  rw [hw.2.2, hdiagnostics, List.append_assoc]

/-- A pass that goes on after failures gives a verdict on every declaration, in whatever rounds they
come, and forgets the rejected ones but for their diagnostics. -/
theorem continuing_pass_is_lossless (hh : h.Tame v) (hst : h.Steady v) (hff : c.failFast = false)
    (f : Filer) (dss : List (List Declaration)) (hdss : ∀ ds ∈ dss, ∀ d ∈ ds, d.IsWorded)
    (hw : v.good w) : ∃ rows, Ledger h v c f w dss rows := by
  obtain ⟨rows, hc⟩ := collects_exists hh hst hff f dss hdss hw
  -- Whatever declarations are left of these, in whatever rounds, are collected too.
  have hsome : ∀ dss' : List (List Declaration), (∀ d ∈ dss'.flatten, d ∈ dss.flatten) →
      ∃ rows', Collects h v c f w dss' rows' := by
    intro dss' hsub
    refine collects_exists hh hst hff f dss' (fun ds hds d hd => ?_) hw
    obtain ⟨ds', hds', hd'⟩ := List.mem_flatten.1 (hsub d (List.mem_flatten_of_mem hds hd))
    exact hdss ds' hds' d hd'
  refine ⟨rows, hc, ?_, hc.verdicts.declaration, ?_, ?_, hc.answered hh hff,
    fun _ _ => hc.heard hh hff⟩
  · obtain ⟨rows', hc'⟩ := hsome [dss.flatten] (by simp)
    have hsame := hc'.unique hc.verdicts (by simpa using hc.declarations)
    subst hsame
    have hboth := (hc.finish_both hh hst hc' hff rfl).imp (fun r r' s s' hr =>
      (⟨?_, hr.2⟩ : r = r' ∧ v.tree s.2 = v.tree s'.2)) fun _ _ h => h
    · exact hboth.answer_eq.1
    · obtain ⟨as, ds⟩ := r
      obtain ⟨as', ds'⟩ := r'
      obtain ⟨⟨rfl, new, rfl, rfl⟩, -⟩ := hr
      rfl
  · rintro before row after rfl r hextract hvalid
    simpa using hc.verdicts.duplicate_iff hextract hvalid
  · rintro before row after e rfl he dss' hdss'
    obtain ⟨rows', hc'⟩ := hsome dss' fun d hd => by
      rw [hdss'] at hd
      rw [← hc.declarations]
      exact List.map_subset _ (by simp) hd
    have hrows := hc'.unique (hc.verdicts.erase he) hdss'.symm
    subst hrows
    have hsame : accepted (Row.outcomes (before ++ row :: after)) =
        accepted (Row.outcomes (before ++ after)) := by simp [Row.outcomes, he, accepted]
    exact ⟨hc', ((hc.finish_both hh hst hc' hff hsame).imp (fun _ _ _ _ hr => ⟨hr.1.1, hr.2⟩)
      fun _ _ h => h).map_answer_eq _ _⟩

theorem shop_in_two_rounds_is_lossless :
    (∀ ds ∈ [[tea, cola], [tea]], ∀ d ∈ ds, d.IsWorded) ∧
    ∃ rows, Ledger (World.host Store.provider) (World.view (· = shop)) Config.standard
      shopFiler (World.start shop FileTree.empty) [[tea, cola], [tea]] rows := by
  have hworded : ∀ ds ∈ [[tea, cola], [tea]], ∀ d ∈ ds, d.IsWorded := by decide
  exact ⟨hworded, continuing_pass_is_lossless (World.host_tame (Store.provider_within shop))
    (World.host_steady (Store.provider_alike shop)) rfl shopFiler [[tea, cola], [tea]] hworded rfl⟩

/-- A drink without a valid identifier is neither accepted nor reported: its round fails, and the
drink that was accepted before it is lost. -/
theorem bulk_loses_earlier_record :
    let h := World.host Store.provider
    let new := fresh Config.standard shopFiler
    let w := World.start shop FileTree.empty
    new.config.failFast = false ∧ (∀ d ∈ [tea, bulk], d.marking.isSome = true) ∧
    ∃ s, (rounds h [[tea]]).run (new, w) = (.ok (), s) ∧ s.1.registry.count = 1 ∧
      ∃ s', (discard (process h (visitsOf [bulk]) false)).run s =
          (.error (.unshown .tooLong), s') ∧
        s'.1.registry.count = 0 ∧ s'.1.reported = [] := by
  intro h new w
  have hw : (World.view (· = shop)).At FileTree.empty [] w := ⟨rfl, rfl, rfl⟩
  obtain ⟨_, s, hrun, -⟩ := (rounds_standing (World.host_tame (Store.provider_within shop))
    [[tea]] (by decide) (standing_fresh hw)).exists_ok fun _ _ h => h
  have hcount : ((rounds h [[tea]]).run (new, w)).2.1.registry.count = 1 := by decide +kernel
  obtain ⟨_, s', hround, rfl, hcleared⟩ := ((after_discard _).2
    (process_unshown (d := bulk) h rfl (unshown?_enormous _) [] false s)).exists_error
      fun _ _ h => h
  refine ⟨rfl, by decide, s, hrun, ?_, s', hround, ?_, ?_⟩
  · rwa [hrun] at hcount
  · rw [hcleared]
    rfl
  · rw [hcleared]
    rfl

end Foundry.Pass
