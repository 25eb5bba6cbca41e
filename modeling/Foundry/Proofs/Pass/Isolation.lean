import Foundry.Proofs.Pass.Alongside
import Foundry.Proofs.Pass.Clearing
import Foundry.World

/-!
Passes are isolated: a pass that ended, in whatever way, leaves nothing behind for the next one.
-/

namespace Foundry

open Query

variable {ω ω' : Type}

namespace Pass

inductive Call (ω : Type)
  | process (visits : List (Query ω (Option Declaration))) (isLast : Bool)
  | finish
  | run

namespace Call

def perform (h : Host ω) : Call ω → Step ω (Option PassResult)
  | .process visits isLast => Pass.process h visits isLast
  | .finish => some <$> Pass.finish h
  | .run => some <$> Pass.run h

def outcome (h : Host ω) (call : Call ω) (s : Pass × ω) :
    Except Fault (Option PassResult) × Pass × ω :=
  (call.perform h).run s

/-- Calls with an outcome that ends the pass: all but rounds that are not the last and go well.
A run that could not even begin its round is none either. -/
def Ends (h : Host ω) (w : ω) : Call ω → Except Fault (Option PassResult) → Prop
  | .process _ isLast, .ok _ => isLast = true
  | .process _ _, .error _ => True
  | .finish, _ => True
  | .run, _ => ∃ visits v, h.provider.annotated.run w = (.ok visits, v)

def Raises (P : Fault → Prop) : Call ω → Prop
  | .process visits _ => ∀ visit ∈ visits, Query.Within (fun _ => True) P visit
  | _ => True

inductive Alike (R : ω → ω' → Prop) : Call ω → Call ω' → Prop
  | process {visits : List (Query ω (Option Declaration))}
      {visits' : List (Query ω' (Option Declaration))} {isLast : Bool} :
    List.Forall₂ (Query.Alike R) visits visits' →
    Alike R (.process visits isLast) (.process visits' isLast)
  | finish : Alike R .finish .finish
  | run : Alike R .run .run

def performAll (h : Host ω) : List (Call ω) → Pass × ω →
    List (Except Fault (Option PassResult)) × Pass × ω
  | [], s => ([], s)
  | call :: calls, s =>
    let rest := performAll h calls (call.outcome h s).2
    ((call.outcome h s).1 :: rest.1, rest.2)

end Call

/-- The pass that calls lead to. Each of them is made in a world of its own: anything may happen
outside between two calls. -/
def driven (h : Host ω) (p : Pass) (calls : List (Call ω × ω)) : Pass :=
  calls.foldl (fun p call => (call.1.outcome h (p, call.2)).2.1) p

/-- A pass that takes records when it is called next, whose calls raise nothing that its host does
not raise but a few faults of their own, and that is as good as new after a call that ends it. -/
structure Isolated (h : Host ω) (start p : Pass) : Prop where
  collecting : p.registry.phase = .collecting
  filled : ∀ g ∈ p.registry.groups, g.members.isEmpty = false
  faults : ∀ (P : Fault → Prop), h.Raises P → ∀ call : Call ω, call.Raises P → ∀ w e,
    (call.outcome h (p, w)).1 = .error e → e.Leaves P
  restored : ∀ (call : Call ω) w, call.Ends h w (call.outcome h (p, w)).1 →
    (call.outcome h (p, w)).2.1 = start
  repeatable : ∀ (call : Call ω) w, call.Ends h w (call.outcome h (p, w)).1 →
    ∀ (ω' : Type) (R : ω → ω' → Prop) (h' : Host ω'), h.Twin R h' →
    ∀ (next : List (Call ω)) (next' : List (Call ω')), List.Forall₂ (Call.Alike R) next next' →
    ∀ v v', R v v' →
      let again := Call.performAll h next ((call.outcome h (p, w)).2.1, v)
      let anew := Call.performAll h' next' (start, v')
      again.1 = anew.1 ∧ R again.2.2 anew.2.2 ∧
        h.files.answer again.2.2 = h'.files.answer anew.2.2

/-! ### One call -/

section Calls

variable {h : Host ω} {P : Fault → Prop} {c : Config} {f : Filer} {p : Pass}

theorem collecting_fresh (c : Config) (f : Filer) : Collecting c f (fresh c f) :=
  ⟨[], open_fresh c f⟩

theorem process_after (hh : h.Raises P) (hf : f.reset = f) (hp : Collecting c f p)
    (visits : List (Query ω (Option Declaration)))
    (hv : ∀ visit ∈ visits, Query.Within (fun _ => True) P visit) (isLast : Bool) (w : ω) :
    After (process h visits isLast) (p, w)
      (fun _ s => Collecting c f s.1 ∧ (isLast = true → s.1 = fresh c f))
      (fun e s => s.1 = fresh c f ∧ e.Leaves P) := by
  rw [process, after_bind]
  refine (processRound_collecting hh visits hv hp w).imp ?_ ?_
  · rintro _ ⟨p₁, w₁⟩ hp₁
    cases isLast with
    | false => exact ⟨hp₁, fun h => absurd h Bool.false_ne_true⟩
    | true =>
      have hfinish := finish_cleared hh hp₁ w₁
      rw [hf] at hfinish
      simp only [if_true, after_bind, after_pure]
      refine hfinish.imp (fun _ s hs => ?_) fun _ _ h => h
      exact ⟨hs ▸ collecting_fresh c f, fun _ => hs⟩
  · rintro e s ⟨hs, he⟩
    exact ⟨hs.trans (by rw [hf]), he⟩

theorem run_after (hh : h.Raises P) (hf : f.reset = f) (hp : Collecting c f p) (w : ω) :
    After (run h) (p, w) (fun _ s => s.1 = fresh c f)
      (fun e s => (s.1 = fresh c f ∨ s.1 = p ∧
        ∃ v, h.provider.annotated.run w = (.error e, v)) ∧ e.Leaves P) := by
  rw [run, after_bind, after_ask]
  refine ((hh.annotated w).and (after_run _ w)).imp ?_ ?_
  · rintro visits w₁ ⟨hv, -⟩
    rw [after_bind]
    refine (processRound_collecting hh visits hv hp w₁).imp ?_ ?_
    · rintro _ ⟨p₂, w₂⟩ hp₂
      have hfinish := finish_cleared hh hp₂ w₂
      rw [hf] at hfinish
      exact hfinish.imp (fun _ _ h => h) fun _ _ h => ⟨.inl h.1, h.2⟩
    · rintro e s ⟨hs, he⟩
      exact ⟨.inl (hs.trans (by rw [hf])), he⟩
  · rintro e w₁ ⟨he, hrun⟩
    exact ⟨.inr ⟨rfl, w₁, hrun⟩, .inl he⟩

theorem perform_after (hh : h.Raises P) (hf : f.reset = f) (hp : Collecting c f p) (call : Call ω)
    (hcall : call.Raises P) (w : ω) :
    After (call.perform h) (p, w)
      (fun r s => Collecting c f s.1 ∧ (call.Ends h w (.ok r) → s.1 = fresh c f))
      (fun e s => Collecting c f s.1 ∧ (call.Ends h w (.error e) → s.1 = fresh c f) ∧
        e.Leaves P) := by
  have hfresh : ∀ q : Pass, q = fresh c f → Collecting c f q := by
    rintro _ rfl
    exact collecting_fresh c f
  cases call with
  | process visits isLast =>
    refine (process_after hh hf hp visits hcall isLast w).imp (fun _ _ h => h) ?_
    rintro e s ⟨hs, he⟩
    exact ⟨hfresh _ hs, fun _ => hs, he⟩
  | finish =>
    have hfinish := finish_cleared hh hp w
    rw [hf] at hfinish
    rw [Call.perform, after_map]
    exact hfinish.imp (fun _ s hs => ⟨hfresh _ hs, fun _ => hs⟩)
      fun e s hs => ⟨hfresh _ hs.1, fun _ => hs.1, hs.2⟩
  | run =>
    rw [Call.perform, after_map]
    refine (run_after hh hf hp w).imp (fun _ s hs => ⟨hfresh _ hs, fun _ => hs⟩) ?_
    rintro e s ⟨hs | ⟨hs, v, hrun⟩, he⟩
    · exact ⟨hfresh _ hs, fun _ => hs, he⟩
    · refine ⟨hs ▸ hp, ?_, he⟩
      rintro ⟨visits, v', hok⟩
      rw [hrun] at hok
      cases hok

theorem Call.raises_any (call : Call ω) : call.Raises fun _ => True := by
  cases call with
  | process visits isLast => exact fun visit _ => within_true visit
  | finish => trivial
  | run => trivial

theorem outcome_after (hh : h.Raises P) (hf : f.reset = f) (hp : Collecting c f p) (call : Call ω)
    (hcall : call.Raises P) (w : ω) :
    Collecting c f (call.outcome h (p, w)).2.1 ∧
      (call.Ends h w (call.outcome h (p, w)).1 → (call.outcome h (p, w)).2.1 = fresh c f) ∧
      ∀ e, (call.outcome h (p, w)).1 = .error e → e.Leaves P := by
  have hafter := perform_after hh hf hp call hcall w
  unfold Call.outcome
  rcases hrun : (call.perform h).run (p, w) with ⟨e | r, s⟩
  · obtain ⟨hs, hends, he⟩ := hafter.of_error hrun
    refine ⟨hs, hends, ?_⟩
    rintro _ ⟨⟩
    exact he
  · obtain ⟨hs, hends⟩ := hafter.of_ok hrun
    exact ⟨hs, hends, fun _ he => nomatch he⟩

theorem driven_collecting (h : Host ω) (hf : f.reset = f) (hp : Collecting c f p)
    (calls : List (Call ω × ω)) : Collecting c f (driven h p calls) := by
  induction calls generalizing p with
  | nil => exact hp
  | cons call calls ih =>
    exact ih (outcome_after h.raises_any hf hp call.1 call.1.raises_any call.2).1

end Calls

/-! ### The same calls twice -/

section Twice

variable {R : ω → ω' → Prop} {h : Host ω} {h' : Host ω'}

def Same (R : ω → ω' → Prop) (s : Pass × ω) (s' : Pass × ω') : Prop :=
  ∃ a, Together R a a s s'

theorem Level.same {s : Pass × ω} {s' : Pass × ω'} (hs : Level R s s') : Same R s s' := by
  obtain ⟨p, w⟩ := s
  obtain ⟨p', w'⟩ := s'
  obtain ⟨rfl, hR⟩ := hs
  exact ⟨p.reported, alongside_self p, hR⟩

theorem processRound_alike (hh : h.Alike R h') {visits : List (Query ω (Option Declaration))}
    {visits' : List (Query ω' (Option Declaration))}
    (hv : List.Forall₂ (Query.Alike R) visits visits') :
    Query.Alike (Same R) (processRound h visits) (processRound h' visits') := by
  rintro s s' ⟨a, hs⟩
  exact (processRound_both hh.attuned hv hs).imp (fun _ _ _ _ ht => ⟨rfl, a, ht⟩) fun _ _ ht => ht.same

theorem finish_alike (hh : h.Alike R h') : Query.Alike (Same R) (finish h) (finish h') := by
  rintro s s' ⟨a, hs⟩
  refine (finish_both hh hs).imp ?_ fun _ _ ht => ht.same
  rintro ⟨artifacts, diagnostics⟩ ⟨artifacts', diagnostics'⟩ t t' ⟨rfl, ⟨new, rfl, rfl⟩, ht⟩
  exact ⟨rfl, ht.same⟩

theorem run_alike (hh : h.Twin R h') : Query.Alike (Same R) (run h) (run h') := by
  rintro s s' ⟨a, hs⟩
  refine Both.bind (Both.lift ((hh.annotated s.2 s'.2 hs.2).imp ?_ ?_))
  · rintro visits visits' w w' ⟨hv, hw⟩
    have hround := (processRound_alike hh.toAlike hv).bind fun _ => finish_alike hh.toAlike
    exact hround _ _ ⟨a, hs.1, hw⟩
  · exact fun w w' hw => ⟨a, hs.1, hw⟩

theorem perform_alike (hh : h.Twin R h') {call : Call ω} {call' : Call ω'}
    (hc : Call.Alike R call call') :
    Query.Alike (Same R) (call.perform h) (call'.perform h') := by
  cases hc with
  | process hv =>
    exact (processRound_alike hh.toAlike hv).bind fun _ => .ite _
      ((finish_alike hh.toAlike).bind fun r => .pure (some r)) (.pure none)
  | finish => exact (finish_alike hh.toAlike).map some
  | run => exact (run_alike hh).map some

theorem performAll_alike (hh : h.Twin R h') {calls : List (Call ω)} {calls' : List (Call ω')}
    (hc : List.Forall₂ (Call.Alike R) calls calls') {s : Pass × ω} {s' : Pass × ω'}
    (hs : Same R s s') :
    (Call.performAll h calls s).1 = (Call.performAll h' calls' s').1 ∧
      Same R (Call.performAll h calls s).2 (Call.performAll h' calls' s').2 := by
  induction hc generalizing s s' with
  | nil => exact ⟨rfl, hs⟩
  | cons hcall _ ih =>
    obtain ⟨hanswer, hnext⟩ := (perform_alike hh hcall s s' hs).answer_eq
    obtain ⟨hanswers, hlast⟩ := ih hnext
    exact ⟨List.cons_eq_cons.2 ⟨hanswer, hanswers⟩, hlast⟩

end Twice

/-- After any calls, passes are isolated, whatever fails on the way. -/
theorem isolated_after_any_calls (h : Host ω) (c : Config) (dir : Path)
    (codec : Except Text.NoCodec Text.Codec) (calls : List (Call ω × ω)) :
    Isolated h (fresh c (Filer.make dir codec))
      (driven h (fresh c (Filer.make dir codec)) calls) := by
  have hf : (Filer.make dir codec).reset = Filer.make dir codec := rfl
  have hp := driven_collecting h hf (collecting_fresh c _) calls
  have hends : ∀ (call : Call ω) w, _ := fun call w =>
    (outcome_after h.raises_any hf hp call call.raises_any w).2.1
  refine ⟨?_, ?_, ?_, hends, ?_⟩
  · obtain ⟨log, hopen⟩ := hp
    exact hopen.phase
  · obtain ⟨log, hopen⟩ := hp
    intro g hg
    simpa [Ordered.isEmpty] using hopen.entries_ne_nil hg
  · intro P hh call hcall w
    exact (outcome_after hh hf hp call hcall w).2.2
  · intro call w hcall ω' R h' hh next next' hnext v v' hv
    dsimp only
    rw [hends call w hcall]
    have hstart : Level R (fresh c (Filer.make dir codec), v)
      (fresh c (Filer.make dir codec), v') := ⟨rfl, hv⟩
    obtain ⟨hanswers, a, hlast⟩ := performAll_alike hh hnext hstart.same
    exact ⟨hanswers, hlast.2, (hh.files _ _ hlast.2).answer_eq.1⟩

theorem round_aborted_in_shop_is_isolated :
    let h := World.host Store.provider
    let new := fresh Config.standard shopFiler
    let w := World.start shop FileTree.empty
    let gone := Fault.raised "OSError" "source tree went away"
    let last := Call.process [throw gone] true
    let p := driven h new [(.process [pure (some tea)] false, w)]
    p.registry.count = 1 ∧ (last.outcome h (p, w)).1 = .error gone ∧
      (last.outcome h (p, w)).2.1 = new := by
  intro h new w gone last p
  have hp : p.registry.count = 1 := by decide +kernel
  have hgone : (last.outcome h (p, w)).1 = .error gone := by rfl
  have hends : last.Ends h w (last.outcome h (p, w)).1 := by
    rw [hgone]
    trivial
  exact ⟨hp, hgone, (isolated_after_any_calls h Config.standard ⟨"", ["out"]⟩
    (Text.Encoding.codecs "utf-8") [(.process [pure (some tea)] false, w)]).restored last w hends⟩

end Pass

end Foundry
