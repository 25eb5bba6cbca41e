import Foundry.Pass

/-!
Worlds that passes work in: what a provider remembers, files, spans and collected diagnostics.
-/

namespace Foundry

structure World (σ : Type) where
  memory : σ
  files : FileTree
  spans : SpanLog
  collected : Diagnostics

namespace World

variable {σ : Type}

/-- A world with files in which nothing has happened. -/
def start (memory : σ) (files : FileTree) : World σ :=
  ⟨memory, files, [], []⟩

/-- Collects a diagnostic. -/
def collect (d : Diagnostic) : Query (World σ) Unit :=
  modify fun w => { w with collected := w.collected ++ [d] }

/-- A provider at work in a world that collects diagnostics. -/
def host (p : Provider σ) : Host (World σ) where
  provider := p.onPart World.memory fun m w => { w with memory := m }
  sink := collect
  files := do return (← get).files
  setFiles t := modify fun w => { w with files := t }
  spans := World.spans
  setSpans l w := { w with spans := l }

/-- Runs a step of a pass. -/
def step (s : Pass.Step (World σ) α) (p : Pass) (w : World σ) :
    Except Fault α × Pass × World σ :=
  s.run (p, w)

end World

end Foundry
