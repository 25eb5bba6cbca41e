import Foundry.Proofs.Pass.Emission
import Foundry.Generation

/-!
Passes over visits that are always answered: however declarations and groups are judged, such a pass
comes to its end with a result.
-/

namespace Foundry.Pass

open Query

variable {ω : Type} {h : Host ω} {v : View ω} {c : Config} {f : Filer} {t : FileTree}
  {l : Diagnostics} {log : List Record} {errors : List Rejection} {s : Pass × ω}

/-- A visit that changes nothing else and yields nothing or a marked declaration. -/
def Finds (v : View ω) (visit : Query ω (Option Declaration)) : Prop :=
  ∀ t l w, v.At t l w →
    After visit w (fun found w' => v.At t l w' ∧ ∀ d, found = some d → d.IsWorded)
      fun _ _ => False

/-- A pass that can go on or end. -/
def Stands (v : View ω) (c : Config) (f : Filer) (t : FileTree) (l : Diagnostics) (s : Pass × ω) :
    Prop :=
  ∃ log errors, Standing v c f t l log errors s

theorem visitAll_stands (hh : h.Tame v) {visits : List (Query ω (Option Declaration))}
    (hvisits : ∀ visit ∈ visits, Finds v visit) (hs : Standing v c f t l log errors s)
    (k : Counts) :
    After (visitAll h visits k) s (fun _ s' => Stands v c f t l s') fun _ _ => False := by
  induction visits generalizing log errors s k with
  | nil => exact ⟨log, errors, hs⟩
  | cons visit rest ih =>
    obtain ⟨hvisit, hrest⟩ := List.forall_mem_cons.1 hvisits
    rw [visitAll, after_bind, after_ask]
    refine (hvisit t _ s.2 hs.world).imp ?_ fun _ _ h => h
    rintro found w ⟨hw, hmarked⟩
    have hs₁ : Standing v c f t l log errors (s.1, w) := ⟨hs.isOpen, hs.reported, hs.failed, hw⟩
    cases found with
    | none => exact ih hrest hs₁ k
    | some d =>
      rw [after_bind]
      refine (attempt_standing hh hs₁ (hmarked d rfl)).imp ?_ fun _ _ h => h
      rintro _ s₂ ⟨out, -, rfl, hs₂⟩
      cases out with
      | ok r => exact ih hrest hs₂ _
      | error e =>
        simp only [rejection?, after_bind]
        refine (report_standing hh hs₂ e).imp ?_ fun _ _ h => h
        intro _ s₃ hs₃
        rw [after_get]
        split
        · exact ⟨_, _, hs₃⟩
        · exact ih hrest hs₃ _

theorem processRound_stands (hh : h.Tame v) {visits : List (Query ω (Option Declaration))}
    (hvisits : ∀ visit ∈ visits, Finds v visit) (hs : Standing v c f t l log errors s) :
    After (processRound h visits) s (fun _ s' => Stands v c f t l s') fun _ _ => False := by
  have hall := visitAll_stands hh hvisits (nextRound_standing hh hs) ⟨0, 0⟩
  simp only [processRound, after_bind, after_update, after_get, after_tryCatch, after_discard,
    after_throw]
  refine after_inSpan (hall.imp ?_ fun _ _ h => h.elim)
  rintro _ s' ⟨log', errors', hs'⟩ spans
  exact ⟨log', errors', hs'.isOpen, hs'.reported, hs'.failed, hh.setSpans _ hs'.world⟩

theorem finish_returns (hh : h.Tame v) (hs : Stands v c f t l s)
    (hencode : Encodable h v c f.codec s.1.registry.groups) :
    ∃ result s', (finish h).run s = (.ok result, s') := by
  obtain ⟨log, errors, hs⟩ := hs
  cases hstop : c.failFast && s.1.failed with
  | true =>
    obtain ⟨result, s', hrun, -⟩ := (finish_stopped (h := h) hs.isOpen hstop s.2).exists_ok
      fun _ _ h => h
    exact ⟨result, s', hrun⟩
  | false =>
    obtain ⟨result, w', es, t', hrun, -⟩ := finish_answered hh hs.isOpen hstop hs.world hencode
    exact ⟨result, _, hrun⟩

/-- All of a pass but its end: what was set aside is reported, and a round is made over everything
the provider discovers. -/
def gather (h : Host ω) (aside : List (Path × Source.SyntaxFault)) : Step ω Unit := do
  aside.forM fun e => report h (Generation.unparsed e.1 e.2)
  processRound h (← ask h.provider.annotated)

theorem run_work (h : Host ω) (aside : List (Path × Source.SyntaxFault)) (s : Pass × ω) :
    (Generation.work h aside).run s = (gather h aside >>= fun _ => finish h).run s := by
  unfold Generation.work gather run
  simp only [bind_assoc]

theorem forM_unparsed (h : Host ω) (aside : List (Path × Source.SyntaxFault)) :
    (aside.forM fun e => report h (Generation.unparsed e.1 e.2)) =
      (aside.map fun e => Generation.unparsed e.1 e.2).forM (report h) :=
  (List.forM_map ..).symm

theorem gather_stands (hh : h.Tame v) (aside : List (Path × Source.SyntaxFault))
    (hannotated : ∀ t l w, v.At t l w → After h.provider.annotated w
      (fun visits w' => v.At t l w' ∧ ∀ visit ∈ visits, Finds v visit) fun _ _ => False)
    (hs : Standing v c f t l log errors s) :
    After (gather h aside) s (fun _ s' => Stands v c f t l s') fun _ _ => False := by
  rw [gather, forM_unparsed, after_bind]
  refine (reports_standing hh _ hs).imp ?_ fun _ _ h => h
  intro _ s₁ hs₁
  rw [after_bind, after_ask]
  refine (hannotated t _ s₁.2 hs₁.world).imp ?_ fun _ _ h => h
  rintro visits w ⟨hw, hvisits⟩
  exact processRound_stands hh hvisits ⟨hs₁.isOpen, hs₁.reported, hs₁.failed, hw⟩

/-- A pass over visits that are answered gives a result, when its encoding has bytes for what it
writes. -/
theorem work_returns (hh : h.Tame v) (aside : List (Path × Source.SyntaxFault))
    (hannotated : ∀ t l w, v.At t l w → After h.provider.annotated w
      (fun visits w' => v.At t l w' ∧ ∀ visit ∈ visits, Finds v visit) fun _ _ => False)
    {w : ω} (hw : v.At t l w)
    (hencode : ∀ s, (gather h aside).run (fresh c f, w) = (.ok (), s) →
      Encodable h v c f.codec s.1.registry.groups) :
    ∃ result s, (Generation.work h aside).run (fresh c f, w) = (.ok result, s) := by
  obtain ⟨_, s, hrun, hs⟩ :=
    (gather_stands hh aside hannotated (standing_fresh (c := c) (f := f) hw)).exists_ok
      fun _ _ h => h
  obtain ⟨result, s', hfinish⟩ := finish_returns hh hs (hencode s hrun)
  exact ⟨result, s', by rw [run_work, run_bind_ok hrun, hfinish]⟩

end Foundry.Pass
