import Foundry.Factory.Plan

/-!
The text of a generated module.
-/

namespace Foundry.Factory

open Foundry.Text

def header : String := "# Generated by factorygen. Do not edit."

/-- The line of an import. -/
def Import.line (i : Import) : String :=
  let plain := s!"from {i.module} import {i.name}"
  match i.alias? with
  | some a => if a != "" && a != i.name then s!"{plain} as {a}" else plain
  | none => plain

/-- Quoted texts as a tuple. -/
def tupleText (items : List String) : String :=
  Value.tupled (items.map quoted)

/-- The lines of a branch. -/
def Branch.lines (b : Branch) : List String :=
  [s!"        if identifier == {quoted b.identifier}:",
   s!"            return {b.expression}"]

/-- Text between three double quotes. -/
def docText (s : String) : String :=
  "\"\"\"" ++ s ++ "\"\"\""

def lines (runtimeModule : String) (p : Plan) : List String :=
  let group := p.group.text
  let marked := ":class:\x60" ++ group ++ "\x60"
  [header,
   s!"# Group: {group}",
   docText s!"Factory for {marked} implementations.",
   "",
   s!"from {runtimeModule} import {errorName}"] ++
  p.imports.map Import.line ++
  ["",
   "",
   s!"class {p.factoryName}:",
   "    " ++ docText s!"Create {marked} instances by identifier.",
   "",
   s!"    group = {quoted group}",
   s!"    identifiers = {tupleText p.identifiers}",
   "",
   s!"    def create(self, identifier: str) -> {p.groupBound}:"] ++
  p.branches.flatMap Branch.lines ++
  [s!"        raise {errorName}(identifier, {quoted group})",
   "",
   "",
   s!"__all__ = [{quoted p.factoryName}]",
   ""]

/-- The text of a module that imports the error from the runtime module. -/
def render (runtimeModule : String) (p : Plan) : String :=
  join "\n" (lines runtimeModule p)

end Foundry.Factory
