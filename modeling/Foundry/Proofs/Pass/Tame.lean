import Foundry.Proofs.Files.Writing
import Foundry.Proofs.Pass.Steps
import Foundry.World

/-!
Hosts that behave: the provider fails with rejections only, the sink hears everything, and files
change only when they are written, as far as the file system lets them.
-/

namespace Foundry

open Query

variable {ω σ : Type}

/-- What is looked at in a world: whether it is as it should be, its files, and what the sink has
heard. -/
structure View (ω : Type) where
  good : ω → Prop
  tree : ω → FileTree
  heard : ω → Diagnostics

def View.At (v : View ω) (t : FileTree) (l : Diagnostics) (w : ω) : Prop :=
  v.good w ∧ v.tree w = t ∧ v.heard w = l

structure Host.Tame (h : Host ω) (v : View ω) : Prop where
  provider : ∀ t l, h.provider.Within (v.At t l) Fault.IsRejection
  sink : ∀ d {t l w}, v.At t l w →
    After (h.sink d) w (fun _ w' => v.At t (l ++ [d]) w') fun _ _ => False
  files : ∀ {t l w}, v.At t l w →
    After h.files w (fun u w' => u = t ∧ v.At t l w') fun _ _ => False
  setFiles : ∀ u {t l w}, v.At t l w → After (h.setFiles u) w (fun _ w' => v.At u l w')
    fun e w' => e.IsWriteFailure ∧ ∃ t', t.Extends t' ∧ v.At t' l w'
  setSpans : ∀ s {t l w}, v.At t l w → v.At t l (h.setSpans s w)

/-- A host that is as good as a tame one, but for faults of its provider that are no rejections. -/
structure Host.Orderly (h : Host ω) (v : View ω) (E : Fault → Prop) : Prop where
  provider : ∀ t l, h.provider.Within (v.At t l) fun f => f.IsRejection ∨ E f
  sink : ∀ d {t l w}, v.At t l w →
    After (h.sink d) w (fun _ w' => v.At t (l ++ [d]) w') fun _ _ => False
  files : ∀ {t l w}, v.At t l w →
    After h.files w (fun u w' => u = t ∧ v.At t l w') fun _ _ => False
  setFiles : ∀ u {t l w}, v.At t l w → After (h.setFiles u) w (fun _ w' => v.At u l w')
    fun e w' => e.IsWriteFailure ∧ ∃ t', t.Extends t' ∧ v.At t' l w'
  setSpans : ∀ s {t l w}, v.At t l w → v.At t l (h.setSpans s w)

theorem Host.Tame.orderly {h : Host ω} {v : View ω} (hh : h.Tame v) :
    h.Orderly v fun _ => False where
  provider t l := (hh.provider t l).mono fun _ hf => .inl hf
  sink := hh.sink
  files := hh.files
  setFiles := hh.setFiles
  setSpans := hh.setSpans

namespace World

def view (good : σ → Prop) : View (World σ) :=
  ⟨fun w => good w.memory, World.files, World.collected⟩

theorem host_tame {p : Provider σ} {good : σ → Prop} (hp : p.Within good Fault.IsRejection) :
    (host p).Tame (view good) where
  provider _ _ := hp.onPart (fun _ hw => hw.1) fun _ _ hw hs => ⟨hs, hw.2⟩
  sink d := by
    rintro t l w ⟨hgood, ht, hl⟩
    exact ⟨hgood, ht, congrArg (· ++ [d]) hl⟩
  files := by
    rintro t l w ⟨hgood, ht, hl⟩
    exact ⟨ht, hgood, ht, hl⟩
  setFiles u := by
    rintro t l w ⟨hgood, ht, hl⟩
    exact ⟨hgood, rfl, hl⟩
  setSpans s := by
    rintro t l w ⟨hgood, ht, hl⟩
    exact ⟨hgood, ht, hl⟩

end World

theorem Store.provider_within (s : Store) :
    Store.provider.Within (fun t => t = s) Fault.IsRejection where
  rejection r := ⟨r, rfl⟩
  get _ := fun _ hs => hs
  resolve _ := fun _ hs => hs

end Foundry
