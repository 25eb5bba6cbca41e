import Foundry.Provider.Simple

/-!
Questions that are answered, and providers whose answers do not change.
-/

namespace Foundry

variable {σ α β : Type}

/-- What a question gives in a state. -/
def Query.answer (q : Query σ α) (s : σ) : Except Fault α :=
  (q.run s).1

theorem Query.run_bind {q : Query σ α} {s : σ} {a : α} (h : q.answer s = .ok a)
    (f : α → Query σ β) : (q >>= f).run s = (f a).run (q.run s).2 := by
  change (ExceptT.bindCont f (q.run s).1) (q.run s).2 = _
  rw [show (q.run s).1 = .ok a from h]
  rfl

theorem Query.answer_bind {q : Query σ α} {s : σ} {a : α} (h : q.answer s = .ok a)
    (f : α → Query σ β) : (q >>= f).answer s = (f a).answer (q.run s).2 :=
  congrArg Prod.fst (Query.run_bind h f)

theorem Query.answer_bind_error {q : Query σ α} {s : σ} {e : Fault} (h : q.answer s = .error e)
    (f : α → Query σ β) : (q >>= f).answer s = .error e := by
  unfold answer
  change ((ExceptT.bindCont f (q.run s).1) (q.run s).2).1 = _
  rw [show (q.run s).1 = .error e from h]
  rfl

/-- A question that is answered, and leaves a state that is as good as before. -/
structure Query.Gives (I : σ → Prop) (q : Query σ α) (s : σ) (a : α) : Prop where
  answer : q.answer s = .ok a
  state : I (q.run s).2

theorem Query.Gives.pure {I : σ → Prop} {s : σ} (hs : I s) (a : α) :
    Query.Gives I (Pure.pure a) s a :=
  ⟨rfl, hs⟩

theorem Query.Gives.bind {I : σ → Prop} {q : Query σ α} {s : σ} {a : α} {f : α → Query σ β} {b : β}
    (h : Query.Gives I q s a) (hf : Query.Gives I (f a) (q.run s).2 b) :
    Query.Gives I (q >>= f) s b := by
  have hrun := Query.run_bind h.answer f
  exact ⟨(congrArg Prod.fst hrun).trans hf.answer, (congrArg Prod.snd hrun) ▸ hf.state⟩

/-- A provider whose answers about names stay the same in the states that asking it leads to. -/
def Provider.Fixed (p : Provider σ) (I : σ → Prop) (known : String → Option Declaration) : Prop :=
  ∀ n s, I s → Query.Gives I (p.get n) s (known n)

theorem Store.provider_fixed (store : Store) :
    Store.provider.Fixed (· = store) store.get? := by
  rintro n s rfl
  exact ⟨rfl, rfl⟩

end Foundry
