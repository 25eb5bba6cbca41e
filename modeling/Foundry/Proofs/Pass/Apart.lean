import Foundry.Proofs.Pass.Alongside
import Foundry.Proofs.Pass.Clearing
import Foundry.Proofs.Pass.Visits
import Foundry.World

/-!
Two passes over the same sources that were told of different files set aside, in worlds with different
files. They end with the same artifacts, and with the same diagnostics after those of the files set
aside.
-/

namespace Foundry

open Query

variable {σ : Type}

theorem Query.alike_self {α : Type} (q : Query σ α) : Query.Alike Eq q q := by
  rintro s _ rfl
  unfold Both
  rcases q.run s with ⟨f | a, t⟩
  · exact ⟨rfl, rfl⟩
  · exact ⟨rfl, rfl⟩

theorem Provider.alike_self (p : Provider σ) : p.Alike Eq p :=
  ⟨fun _ => Query.alike_self _, fun _ => Query.alike_self _⟩

namespace World

/-- Worlds with the same memory over related files, which collected the same after diagnostics of
their own. -/
structure Apart (F : FileTree → FileTree → Prop) (a b : Diagnostics) (w w' : World σ) : Prop where
  memory : w.memory = w'.memory
  files : F w.files w'.files
  collected : ∃ new, w.collected = a ++ new ∧ w'.collected = b ++ new

variable {F : FileTree → FileTree → Prop} {a b : Diagnostics}

theorem lift_alike {α : Type} (q : Query σ α) :
    Query.Alike (Apart F a b)
      (Provider.lift World.memory (fun m (w : World σ) => { w with memory := m }) q)
      (Provider.lift World.memory (fun m (w : World σ) => { w with memory := m }) q) :=
  (Query.alike_self q).lift (fun _ _ hw => hw.memory)
    fun _ _ _ _ hw hm => ⟨hm, hw.files, hw.collected⟩

theorem host_attuned (p : Provider σ) :
    (World.host p).Attuned (Apart F a b) (World.host p) where
  provider := p.alike_self.onPart (fun _ _ hw => hw.memory)
    fun _ _ _ _ hw hm => ⟨hm, hw.files, hw.collected⟩
  sink d := by
    rintro w w' ⟨hm, hf, new, hw, hw'⟩
    exact ⟨rfl, hm, hf, new ++ [d], by simp [hw], by simp [hw']⟩
  setSpans _ _ _ _ hw := ⟨hw.memory, hw.files, hw.collected⟩

theorem host_annotated (p : Provider σ) (w w' : World σ) (hw : Apart F a b w w') :
    Both (World.host p).provider.annotated w (World.host p).provider.annotated w'
      (fun visits visits' v v' =>
        List.Forall₂ (Query.Alike (Apart F a b)) visits visits' ∧ Apart F a b v v')
      (Apart F a b) := by
  refine Both.bind ((lift_alike p.annotated w w' hw).imp ?_ fun _ _ h => h)
  rintro visits _ v v' ⟨rfl, hv⟩
  refine ⟨List.forall₂_map_left_iff.2 (List.forall₂_map_right_iff.2 ?_), hv⟩
  exact List.forall₂_same.2 fun visit _ => lift_alike visit

theorem host_beside (p : Provider σ) {D : Filer → Prop} (hwrite : Filer.WriteAlike D F) :
    (World.host p).Beside D F (Apart F a b) (World.host p) where
  toAttuned := host_attuned p
  files _ _ hw := ⟨hw.files, hw⟩
  setFiles _ _ ht _ _ hw := ⟨rfl, hw.memory, ht, hw.collected⟩
  write := hwrite

end World

namespace Pass

variable {F : FileTree → FileTree → Prop} {c : Config} {f : Filer}

/-- What is reported of files that were set aside. -/
def told (aside : List (Path × Source.SyntaxFault)) : Diagnostics :=
  aside.map fun e => (Generation.unparsed e.1 e.2).diagnostic

theorem reports_after (p : Provider σ) (reports : List Rejection) (s : Pass × World σ) :
    After (reports.forM (report (World.host p))) s
      (fun _ s' => (∃ failed, s'.1 = { s.1 with
          failed := failed, reported := s.1.reported ++ reports.map Rejection.diagnostic }) ∧
        s'.2 = { s.2 with collected := s.2.collected ++ reports.map Rejection.diagnostic })
      fun _ _ => False := by
  induction reports generalizing s with
  | nil => exact ⟨⟨s.1.failed, by simp⟩, by simp⟩
  | cons r rs ih =>
    rw [List.forM_eq_forM, List.forM_cons, after_bind, after_report]
    refine (ih (s.1.noted r, { s.2 with collected := s.2.collected ++ [r.diagnostic] })).imp ?_
      fun _ _ h => h
    rintro _ s' ⟨⟨failed, hp⟩, hw⟩
    exact ⟨⟨failed, by simp [hp, noted]⟩, by simp [hw]⟩

/-- Files that are set aside are reported before anything else happens. -/
theorem aside_reported (p : Provider σ) (aside : List (Path × Source.SyntaxFault)) (memory : σ)
    (t : FileTree) :
    ∃ failed, (aside.forM fun e => report (World.host p) (Generation.unparsed e.1 e.2)).run
        (fresh c f, World.start memory t) =
      (.ok (), { fresh c f with failed := failed, reported := told aside },
        { World.start memory t with collected := told aside }) := by
  have hafter := reports_after p (aside.map fun e => Generation.unparsed e.1 e.2)
    (fresh c f, World.start memory t)
  rw [← forM_unparsed] at hafter
  obtain ⟨_, ⟨q, w⟩, hrun, ⟨failed, hq⟩, hw⟩ := hafter.exists_ok fun _ _ h => h
  refine ⟨failed, hrun.trans ?_⟩
  dsimp only at hq hw
  rw [hq, hw, List.map_map]
  rfl

/-- Two passes that may differ in what was set aside and in files that only filers of another kind
would notice. -/
theorem work_apart (p : Provider σ) {D : Filer → Prop} (hwrite : Filer.WriteAlike D F)
    (hff : c.failFast = false) (hkind : D f) (aside aside' : List (Path × Source.SyntaxFault))
    (memory : σ) {t t' : FileTree} (ht : F t t') :
    Both (Generation.work (World.host p) aside) (fresh c f, World.start memory t)
      (Generation.work (World.host p) aside') (fresh c f, World.start memory t')
      (fun r r' s s' => (r.artifacts = r'.artifacts ∧
        ∃ later, r.diagnostics = told aside ++ later ∧ r'.diagnostics = told aside' ++ later) ∧
        World.Apart F (told aside) (told aside') s.2 s'.2)
      fun s s' => World.Apart F (told aside) (told aside') s.2 s'.2 := by
  obtain ⟨failed, hrun⟩ := aside_reported (c := c) (f := f) p aside memory t
  obtain ⟨failed', hrun'⟩ := aside_reported (c := c) (f := f) p aside' memory t'
  have hworlds : World.Apart F (told aside) (told aside')
      { World.start memory t with collected := told aside }
      { World.start memory t' with collected := told aside' } :=
    ⟨rfl, ht, [], by simp, by simp⟩
  refine Both.bind_run hrun hrun' (Both.bind (Both.lift ?_))
  refine (World.host_annotated p _ _ hworlds).imp ?_ fun _ _ h => h
  rintro visits visits' w w' ⟨hvisits, hw⟩
  have htogether : Together (World.Apart F (told aside) (told aside')) (told aside) (told aside')
      ({ fresh c f with failed := failed, reported := told aside }, w)
      ({ fresh c f with failed := failed', reported := told aside' }, w') := by
    refine ⟨⟨rfl, rfl, rfl, ⟨[], by simp, by simp⟩, fun hon => ?_⟩, hw⟩
    have hoff : (fresh c f).config.failFast = false := hff
    rw [hoff] at hon
    cases hon
  have hround := processRound_both (World.host_attuned p) hvisits htogether
  have hcollecting : Collecting c f { fresh c f with failed := failed, reported := told aside } :=
    ⟨[], rfl, rfl, rfl, (open_fresh c f).follows⟩
  have hfiler := processRound_collecting (World.host p).raises_any visits
    (fun visit _ => within_true visit) hcollecting w
  refine Both.bind ((hround.and hfiler (after_run _ _)).imp ?_ fun _ _ h => h.1.2)
  rintro _ _ s s' ⟨hs, ⟨log, hopen⟩, -⟩
  have hfinish := finish_beside (World.host_beside p hwrite) hs (by rwa [hopen.filer])
  exact hfinish.imp (fun _ _ _ _ h => ⟨⟨h.1, h.2.1⟩, h.2.2.2⟩) fun _ _ h => h.2

end Pass

end Foundry
