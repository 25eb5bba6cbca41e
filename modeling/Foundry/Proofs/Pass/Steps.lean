import Foundry.Pass
import Foundry.Proofs.Provider.Answers
import Foundry.Proofs.Query.Within
import Foundry.Proofs.Registry.History
import Foundry.Provider.Simple

/-!
What single steps of a pass lead to. A declaration either adds a record to a registry that is still
open, or leaves the pass as it was.
-/

namespace Foundry

open Query

variable {ω α β : Type}

def Rejection.diagnostic (r : Rejection) : Diagnostic :=
  ⟨.error, r.message, r.declaration, some r.code⟩

namespace Pass

def noted (p : Pass) (r : Rejection) : Pass :=
  { p with failed := true, reported := p.reported ++ [r.diagnostic] }

/-! ### Rules for steps -/

section Rules

variable {s : Pass × ω} {err : Fault → Pass × ω → Prop}

@[simp] theorem after_ask {ok : α → Pass × ω → Prop} (q : Query ω α) :
    After (ask q) s ok err ↔
      After q s.2 (fun a w => ok a (s.1, w)) (fun f w => err f (s.1, w)) :=
  after_lift _ _ q s

@[simp] theorem after_update {ok : Unit → Pass × ω → Prop} (g : Pass → Pass) :
    After (update g) s ok err ↔ ok () (g s.1, s.2) := Iff.rfl

@[simp] theorem after_report {ok : Unit → Pass × ω → Prop} (h : Host ω) (r : Rejection) :
    After (report h r) s ok err ↔
      After (h.sink r.diagnostic) s.2 (fun _ w => ok () (s.1.noted r, w))
        (fun f w => err f (s.1.noted r, w)) := by
  simp only [report, after_bind, after_update, after_ask]
  rfl

end Rules

def opened (h : Host ω) (name : String) (attributes : List (String × Value)) (s : Pass × ω) :
    Pass × ω :=
  (s.1, h.setSpans (h.spans s.2 ++ [Span.start name attributes]) s.2)

section Spans

variable {s : Pass × ω} {h : Host ω} {name : String} {attributes : List (String × Value)}

/-- Spans come and go around the work in them. -/
theorem after_inSpan {body : (Span → Span) → Step ω α} {close : α → Span → Span}
    {ok : α → Pass × ω → Prop} {err : Fault → Pass × ω → Prop}
    (hbody : After (body id) (opened h name attributes s)
      (fun a t => ∀ l, ok a (t.1, h.setSpans l t.2))
      (fun f t => ∀ l, err f (t.1, h.setSpans l t.2))) :
    After (inSpan h name attributes body close) s ok err := by
  simp only [inSpan, after_bind, after_get, after_set, after_tryCatch, after_modify, after_pure,
    after_throw]
  exact hbody.imp (fun a t ht => ht _) fun f t ht => ht _

theorem run_inSpan_congr (body body' : (Span → Span) → Step ω α) (close : α → Span → Span)
    (hbody : (body id).run (opened h name attributes s) =
      (body' id).run (opened h name attributes s)) :
    (inSpan h name attributes body close).run s = (inSpan h name attributes body' close).run s := by
  unfold inSpan
  rw [run_get_bind, run_get_bind]
  exact run_tryCatch_congr (run_bind_congr hbody _) _

end Spans

/-! ### An open registry -/

/-- A pass that takes records, and has taken those of a log. -/
structure Open (c : Config) (f : Filer) (log : List Record) (p : Pass) : Prop where
  config : p.config = c
  filer : p.filer = f
  phase : p.registry.phase = .collecting
  follows : Registry.Follows p.registry.groups log

variable {c : Config} {f : Filer} {log : List Record} {p : Pass}

theorem open_fresh (c : Config) (f : Filer) : Open c f [] (fresh c f) :=
  ⟨rfl, rfl, rfl, rfl, List.nodup_nil⟩

theorem Open.noted (hp : Open c f log p) (r : Rejection) : Open c f log (p.noted r) :=
  ⟨hp.config, hp.filer, hp.phase, hp.follows⟩

theorem Open.entries_ne_nil (hp : Open c f log p) {g : Group} (hg : g ∈ p.registry.groups) :
    g.members.entries ≠ [] :=
  hp.follows.entries_ne_nil hg

theorem Open.registry_eq {c' : Config} {f' : Filer} {p' : Pass} (hp : Open c f log p)
    (hp' : Open c' f' log p') : p.registry = p'.registry := by
  have hlisting := hp.follows.listing.trans hp'.follows.listing.symm
  have hphase := hp.phase.trans hp'.phase.symm
  have hinjective : Function.Injective fun g : Group => (g.name, g.members.entries) := by
    rintro ⟨n, es, hes⟩ ⟨n', es', hes'⟩ h
    obtain ⟨rfl, rfl⟩ := Prod.mk.inj h
    rfl
  have hgroups : p.registry.groups = p'.registry.groups :=
    List.map_injective_iff.2 hinjective hlisting
  have hext : ∀ g g' : Registry, g.groups = g'.groups → g.phase = g'.phase → g = g' := by
    rintro ⟨gs, phase⟩ ⟨gs', phase'⟩ rfl rfl
    rfl
  exact hext _ _ hgroups hphase

theorem Open.beginEmission (hp : Open c f log p) :
    p.registry.beginEmission = .ok ⟨p.registry.groups, .emitting⟩ :=
  Registry.beginEmission_ok_iff.2 ⟨hp.phase, rfl⟩

/-! ### One declaration -/

/-- What becomes of a declaration, when `log` has been accepted before it and the provider is
asked from a world on: the first step that rejects it counts. -/
inductive Judged (h : Host ω) (limit : Nat) (log : List Record) (d : Declaration) (w : ω) :
    Except Rejection Record → Prop
  | unextracted {e : Rejection} :
    (Record.extract h.provider d).answer w = .error (.rejected e) →
    Judged h limit log d w (.error e)
  | invalid {r : Record} {w' : ω} {e : Rejection} :
    (Record.extract h.provider d).run w = (.ok r, w') →
    (validate h.provider limit r).answer w' = .error (.rejected e) →
    Judged h limit log d w (.error e)
  | duplicate {r prior : Record} {w' : ω} :
    (Record.extract h.provider d).run w = (.ok r, w') →
    (validate h.provider limit r).answer w' = .ok () → prior ∈ log → prior.key = r.key →
    Judged h limit log d w (.error (.duplicate r prior))
  | accepted {r : Record} {w' : ω} :
    (Record.extract h.provider d).run w = (.ok r, w') →
    (validate h.provider limit r).answer w' = .ok () → (∀ prior ∈ log, prior.key ≠ r.key) →
    Judged h limit log d w (.ok r)

def rejection? : Except Rejection α → Option Rejection
  | .ok _ => none
  | .error e => some e

def accepted : List (Except Rejection α) → List α
  | [] => []
  | .ok a :: outs => a :: accepted outs
  | .error _ :: outs => accepted outs

def rejected : List (Except Rejection α) → List Rejection
  | [] => []
  | .ok _ :: outs => rejected outs
  | .error e :: outs => e :: rejected outs

theorem Open.add_free (hp : Open c f log p) {r : Record} (hfree : ∀ e ∈ log, e.key ≠ r.key) :
    ∃ g, p.registry.add r = .ok g ∧ Open c f (log ++ [r]) { p with registry := g } := by
  obtain ⟨g, hadd, hphase, hfollows⟩ := Registry.add_of_free hp.follows hp.phase hfree
  exact ⟨g, hadd, hp.config, hp.filer, hphase, hfollows⟩

variable {I : ω → Prop} {E : Fault → Prop} {h : Host ω}

/-- Faults that a declaration does not survive as a rejection. -/
def Escapes (E : Fault → Prop) (d : Declaration) (e : Fault) : Prop :=
  ¬e.IsRejection ∧ (E e ∨ d.Bars e)

theorem rejected_or_escapes {limit : Nat} {d : Declaration} {w : ω} {e : Fault}
    (hj : ∀ r, e = .rejected r → Judged h limit log d w (.error r))
    (he : E e ∨ e.IsRejection ∨ d.Bars e) :
    (∃ r, e = .rejected r ∧ Judged h limit log d w (.error r)) ∨ Escapes E d e := by
  by_cases hr : e.IsRejection
  · obtain ⟨r, rfl⟩ := hr
    exact .inl ⟨r, rfl, hj r rfl⟩
  · exact .inr ⟨hr, he.imp_right fun h => h.resolve_left hr⟩

theorem processDeclaration_after (hh : h.provider.Within I E) (hp : Open c f log p)
    (d : Declaration) {w : ω} (hw : I w) :
    After (processDeclaration h d) (p, w)
      (fun r s => I s.2 ∧ Judged h p.config.maxSuperclassDepth log d w (.ok r) ∧
        Open c f (log ++ [r]) s.1 ∧ ∃ g, s.1 = { p with registry := g })
      (fun e s => I s.2 ∧ s.1 = p ∧
        ((∃ r, e = .rejected r ∧ Judged h p.config.maxSuperclassDepth log d w (.error r)) ∨
          Escapes E d e)) := by
  simp only [processDeclaration, after_bind, after_ask, after_get, true_and]
  refine ((hh.extract d w hw).and (after_run _ w)).imp ?_ ?_
  · rintro r w₁ ⟨hw₁, hextract⟩
    refine ((hh.validate _ r w₁ hw₁).and (after_run _ w₁)).imp ?_ ?_
    · rintro _ w₂ ⟨hw₂, hvalid⟩
      have hok : (validate h.provider p.config.maxSuperclassDepth r).answer w₁ = .ok () :=
        congrArg Prod.fst hvalid
      by_cases hfree : ∀ e ∈ log, e.key ≠ r.key
      · obtain ⟨g, hadd, hopen⟩ := hp.add_free hfree
        simp only [hadd, after_bind, after_update, after_pure]
        exact ⟨hw₂, .accepted hextract hok hfree, hopen, g, rfl⟩
      · push Not at hfree
        obtain ⟨prior, hprior, hkey⟩ := hfree
        simp only [Registry.add_of_taken hp.follows hp.phase hprior hkey, after_throw, true_and]
        exact ⟨hw₂, .inl ⟨_, rfl, .duplicate hextract hok hprior hkey⟩⟩
    · rintro e w₂ ⟨⟨hw₂, he⟩, hvalid⟩
      refine ⟨hw₂, rejected_or_escapes ?_ (.inl he)⟩
      rintro r' rfl
      exact .invalid hextract (congrArg Prod.fst hvalid)
  · rintro e w₁ ⟨⟨hw₁, he⟩, hextract⟩
    refine ⟨hw₁, rejected_or_escapes ?_ (.inr he)⟩
    rintro r' rfl
    exact .unextracted (congrArg Prod.fst hextract)

theorem attempt_after (hh : h.provider.Within I E) (hp : Open c f log p) (d : Declaration) {w : ω}
    (hw : I w) :
    After (attempt h d) (p, w)
      (fun o s => I s.2 ∧ ∃ out, Judged h p.config.maxSuperclassDepth log d w out ∧
        o = rejection? out ∧ Open c f (log ++ accepted [out]) s.1 ∧
        ∃ g, s.1 = { p with registry := g })
      (fun e s => I s.2 ∧ s.1 = p ∧ Escapes E d e) := by
  simp only [attempt, after_tryCatch, after_bind, after_discard, after_pure]
  refine (processDeclaration_after hh hp d hw).imp ?_ ?_
  · rintro r s ⟨hs, hj, hopen, hg⟩
    exact ⟨hs, .ok r, hj, rfl, hopen, hg⟩
  · rintro e ⟨_, w'⟩ ⟨hw', rfl, he⟩
    rcases he with ⟨r, rfl, hj⟩ | he
    · exact ⟨hw', .error r, hj, rfl, by simpa [accepted] using hp, _, rfl⟩
    · cases e with
      | rejected r => exact absurd ⟨r, rfl⟩ he.1
      | _ => exact ⟨hw', rfl, he⟩

/-! ### A small shop -/

def offered (name : String) : Declaration :=
  Declaration.complete ⟨"shop", name⟩ .ordinary none false [] none [] [.standard] none none

def served (group name identifier : String) : Declaration :=
  Declaration.complete ⟨"shop", name⟩ .ordinary none false [] none ["shop." ++ group] [.standard]
    (some ⟨.text identifier, .text group⟩) none

def tea : Declaration := served "Drink" "Tea" "tea"

def cola : Declaration := served "drink" "Cola" "cola"

/-- A drink whose identifier is a number with too many digits. -/
def bulk : Declaration :=
  { served "Drink" "Bulk" "bulk" with marking := some ⟨Value.enormous, .text "Drink"⟩ }

/-- Factories of both groups of this shop would be modules of the same name. -/
def shop : Store := Store.ofDeclarations [offered "Drink", offered "drink", tea, cola]

def shopCodec : Except Text.NoCodec Text.Codec := Text.Encoding.codecs "utf-8"

/-- Where the factories of the shop are written. -/
def shopFiler : Filer := Filer.make ⟨"", ["out"]⟩ shopCodec

end Pass

end Foundry
