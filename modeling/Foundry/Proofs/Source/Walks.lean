import Foundry.Proofs.Source.Hierarchy

/-!
Walks through the bases of a class: depth first, up to the first class that has a say.
-/

namespace Foundry

theorem exists_first {α : Type} {P : α → Prop} {l : List α} (h : ¬∀ b ∈ l, P b) :
    ∃ before b after, l = before ++ b :: after ∧ (∀ b' ∈ before, P b') ∧ ¬P b := by
  induction l with
  | nil => exact absurd (fun b hb => absurd hb List.not_mem_nil) h
  | cons b rest ih =>
    by_cases hb : P b
    · have hrest : ¬∀ b' ∈ rest, P b' := by
        intro hall
        refine h fun b' hb' => ?_
        rcases List.mem_cons.1 hb' with rfl | hb'
        · exact hb
        · exact hall b' hb'
      obtain ⟨before, c, after, rfl, hbefore, hc⟩ := ih hrest
      refine ⟨b :: before, c, after, rfl, fun b' hb' => ?_, hc⟩
      rcases List.mem_cons.1 hb' with rfl | hb'
      · exact hb
      · exact hbefore b' hb'
    · exact ⟨[], b, rest, rfl, fun b' hb' => absurd hb' List.not_mem_nil, hb⟩

namespace Source.Index

variable {x : Index} {speaks : Definition → Bool} {d e a b : Definition}
  {before after : List Definition}

/-- No class at or above this one has a say. -/
def Silent (x : Index) (speaks : Definition → Bool) (d : Definition) : Prop :=
  ∀ a, x.Above d a → speaks a = false

/-- The class that has a say first in a walk through the bases. -/
inductive FirstToSpeak (x : Index) (speaks : Definition → Bool) : Definition → Definition → Prop
  | own {d : Definition} : speaks d = true → FirstToSpeak x speaks d d
  | base {d b a : Definition} {before after : List Definition} : speaks d = false →
    x.knownBases d = before ++ b :: after → (∀ b' ∈ before, Silent x speaks b') →
    FirstToSpeak x speaks b a → FirstToSpeak x speaks d a

/-- Where a class has no say, the first base that is not silent stands below every class that has a
say above a later base. -/
def Leads (x : Index) (speaks : Definition → Bool) (d : Definition) : Prop :=
  ∀ e, x.Above d e → speaks e = false → ∀ before b after, x.knownBases e = before ++ b :: after →
    (∀ b' ∈ before, x.Silent speaks b') → ¬x.Silent speaks b →
    ∀ b' ∈ after, ∀ a, x.Above b' a → speaks a = true → x.Above b a

theorem isBase_of_append (h : x.knownBases d = before ++ b :: after) : x.IsBase d b := by
  rw [IsBase, h]
  exact List.mem_append_right before List.mem_cons_self

theorem Silent.above (h : x.Silent speaks d) (hde : x.Above d e) : x.Silent speaks e :=
  fun a ha => h a (hde.trans ha)

theorem silent_of_bases (hown : speaks d = false) (h : ∀ b ∈ x.knownBases d, x.Silent speaks b) :
    x.Silent speaks d := by
  intro a ha
  rcases Relation.ReflTransGen.cases_head ha with rfl | ⟨b, hb, hba⟩
  · exact hown
  · exact h b hb a hba

theorem Leads.base (h : x.Leads speaks d) (hb : x.IsBase d b) : x.Leads speaks b :=
  fun e he => h e (.head hb he)

theorem Linear.leads (h : x.Linear d) : x.Leads speaks d :=
  fun _ he _ _ _ _ hbases _ _ b' hb' => absurd hb' (h.notMem_behind he hbases b')

theorem FirstToSpeak.above (h : x.FirstToSpeak speaks d a) : x.Above d a ∧ speaks a = true := by
  induction h with
  | own hown => exact ⟨.refl, hown⟩
  | base _ hbases _ _ ih => exact ⟨.head (isBase_of_append hbases) ih.1, ih.2⟩

theorem FirstToSpeak.not_silent (h : x.FirstToSpeak speaks d a) : ¬x.Silent speaks d := by
  intro hnone
  have hsome := h.above.2
  rw [hnone a h.above.1] at hsome
  cases hsome

theorem exists_firstToSpeak (hx : x.Keyed) (hd : x.Lists d) (hacyclic : x.Acyclic d)
    (hsome : ¬x.Silent speaks d) : ∃ a, x.FirstToSpeak speaks d a := by
  revert hsome
  refine Acyclic.induction (P := fun e => ¬x.Silent speaks e → ∃ a, x.FirstToSpeak speaks e a)
    hacyclic hx hd fun e _ _ ih hsome => ?_
  cases hown : speaks e with
  | true => exact ⟨e, .own hown⟩
  | false =>
    have hbase : ¬∀ b ∈ x.knownBases e, x.Silent speaks b :=
      fun hall => hsome (silent_of_bases hown hall)
    obtain ⟨before, b, after, hbases, hbefore, hb⟩ := exists_first hbase
    obtain ⟨a, ha⟩ := ih b (isBase_of_append hbases) hb
    exact ⟨a, .base hown hbases hbefore ha⟩

end Source.Index

end Foundry
