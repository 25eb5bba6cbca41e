import Foundry.Proofs.Factory.Lines

/-!
The text of a plan is the program that was meant.
-/

namespace Foundry.Factory

open Foundry.Text

/-- A plan whose names can be read back from its text. -/
structure Plan.Legible (runtimeModule : String) (p : Plan) : Prop where
  runtime : IsPath runtimeModule ∧ segments runtimeModule ≠ directives
  imports : ∀ i ∈ p.imports,
    IsPath i.module ∧ segments i.module ≠ directives ∧ IsName i.name ∧ IsName i.bound ∧
      i.bound ≠ "__debug__"
  factoryName : IsName p.factoryName ∧ p.factoryName ≠ "__debug__"
  groupBound : IsPath p.groupBound
  bound : ∀ b ∈ p.branches, IsPath b.bound
  group : '\n' ∉ p.group.text.toList

def Branch.program (b : Branch) : List Line :=
  [.test b.identifier, .construct (segments b.bound)]

def Plan.program (runtimeModule : String) (p : Plan) : List Line :=
  [.silent, .silent, .silent, .silent, .imports (segments runtimeModule) errorName none] ++
  p.imports.map Import.read ++
  [.silent, .silent, .classHead p.factoryName, .silent, .silent, .group p.group.text,
   .identifiers p.identifiers, .silent, .createHead (segments p.groupBound)] ++
  p.branches.flatMap Branch.program ++
  [.refuse p.group.text, .silent, .silent, .exports p.factoryName, .silent]

variable {runtimeModule : String} {p : Plan}

/-! ### Lines -/

theorem isName_errorName : IsName errorName :=
  ⟨by decide, by decide⟩

/-- The import of the error is a line like those of the classes. -/
theorem readLine_runtime (h : IsPath runtimeModule) (hfuture : segments runtimeModule ≠ directives) :
    readLine ("from " ++ runtimeModule ++ " import " ++ errorName).toList =
      some (.imports (segments runtimeModule) errorName none) := by
  have hread := readLine_import (i := ⟨runtimeModule, errorName, none⟩) h hfuture isName_errorName
    isName_errorName (show errorName ≠ "__debug__" by decide)
  rw [Import.line_eq] at hread
  exact hread

theorem readLine_branch {b : Branch} (h : IsPath b.bound) :
    b.lines.map (fun l => readLine l.toList) = b.program.map some := by
  have hlines : b.lines = ["        if identifier == " ++ quoted b.identifier ++ ":",
      "            return " ++ (b.bound ++ "()")] := rfl
  rw [hlines, List.map_cons, List.map_cons, readLine_test, readLine_construct h]
  rfl

theorem lines_eq (runtimeModule : String) (p : Plan) :
    lines runtimeModule p =
      [header, "# Group: " ++ p.group.text,
       docText ("Factory for " ++ (":class:\x60" ++ p.group.text ++ "\x60") ++ " implementations."),
       "", "from " ++ runtimeModule ++ " import " ++ errorName] ++
      p.imports.map Import.line ++
      ["", "", "class " ++ p.factoryName ++ ":",
       "    " ++ docText ("Create " ++ (":class:\x60" ++ p.group.text ++ "\x60") ++
         " instances by identifier."),
       "", "    group = " ++ quoted p.group.text, "    identifiers = " ++ tupleText p.identifiers,
       "", "    def create(self, identifier: str) -> " ++ p.groupBound ++ ":"] ++
      p.branches.flatMap Branch.lines ++
      ["        raise " ++ errorName ++ "(identifier, " ++ quoted p.group.text ++ ")", "", "",
       "__all__ = [" ++ quoted p.factoryName ++ "]", ""] := rfl

theorem readLine_lines (h : p.Legible runtimeModule) :
    (lines runtimeModule p).map (fun l => readLine l.toList) =
      (p.program runtimeModule).map some := by
  have hheader : readLine header.toList = some .silent := readLine_comment _
  have hgroup : readLine ("# Group: " ++ p.group.text).toList = some .silent := by
    rw [String.toList_append]
    exact readLine_comment _
  have hdoc : ∀ s, readLine (docText s).toList = some .silent := fun s =>
    readLine_docText [] (fun _ hc => absurd hc List.not_mem_nil) s
  have hinner : ∀ s, readLine ("    " ++ docText s).toList = some .silent := by
    intro s
    rw [String.toList_append]
    exact readLine_docText "    ".toList (by simp [isGap]) s
  have himports : (p.imports.map Import.line).map (fun l => readLine l.toList) =
      (p.imports.map Import.read).map some := by
    rw [List.map_map, List.map_map]
    refine List.map_congr_left fun i hi => ?_
    obtain ⟨hm, hfuture, hname, hbound, hbind⟩ := h.imports i hi
    exact readLine_import hm hfuture hname hbound hbind
  have hbranches : (p.branches.flatMap Branch.lines).map (fun l => readLine l.toList) =
      (p.branches.flatMap Branch.program).map some := by
    rw [List.map_flatMap, List.map_flatMap]
    rw [List.flatMap_def, List.flatMap_def,
      List.map_congr_left fun b hb => readLine_branch (h.bound b hb)]
  rw [lines_eq]
  unfold Plan.program
  simp only [List.map_append, List.map_cons, List.map_nil, himports, hbranches, hheader, hgroup,
    hdoc, hinner, readLine_empty, readLine_runtime h.runtime.1 h.runtime.2,
    readLine_class h.factoryName.1 h.factoryName.2, readLine_group, readLine_identifiers,
    readLine_create h.groupBound, readLine_refuse, readLine_exports]

/-! ### One text -/

section LineEnds

variable {x : Char} (hx : x = '\n' ∨ x = '\r')

include hx

theorem lineEnd_notMem_join (items : List String) :
    x ∉ (join ", " (items.map quoted)).toList := by
  have hcomma : ∀ c ∈ ", ".toList, c ≠ x := by
    rcases hx with rfl | rfl <;> exact forall_mem_of_all (by decide)
  have hitems : ∀ p ∈ items.map quoted, ∀ c ∈ p.toList, c ≠ x := by
    intro p hp c hc
    obtain ⟨s, -, rfl⟩ := List.mem_map.1 hp
    exact ne_of_mem_of_not_mem hc (lineEnd_notMem_quoted hx s)
  exact fun h => forall_mem_join hcomma hitems x h rfl

theorem lineEnd_notMem_tupleText (items : List String) : x ∉ (tupleText items).toList := by
  have hquoted := lineEnd_notMem_quoted hx
  have hjoin := lineEnd_notMem_join hx items
  unfold tupleText
  rcases items with _ | ⟨s, _ | ⟨u, items⟩⟩
  · rcases hx with rfl | rfl <;> decide
  · rcases hx with rfl | rfl <;> simp [Value.tupled, hquoted]
  · rcases hx with rfl | rfl <;> simpa [Value.tupled] using hjoin

/-- No line holds a character that ends lines, except where the name of the group does. -/
theorem lineEnd_notMem_lines (h : p.Legible runtimeModule) (hgroup : x ∉ p.group.text.toList) :
    ∀ l ∈ lines runtimeModule p, x ∉ l.toList := by
  have hquoted := lineEnd_notMem_quoted hx
  have htuple := lineEnd_notMem_tupleText hx
  have hword : isIdentifierContinue x = false ∧ x ≠ '.' := by
    rcases hx with rfl | rfl <;> decide
  have hname : ∀ s, IsName s → x ∉ s.toList := fun s hs => hs.notMem hword.1
  have hpath : ∀ s, IsPath s → x ∉ s.toList := fun s hs => hs.notMem hword.1 hword.2
  have himports : ∀ l ∈ p.imports.map Import.line, x ∉ l.toList := by
    intro l hl
    obtain ⟨i, hi, rfl⟩ := List.mem_map.1 hl
    obtain ⟨hm, -, hn, hb, -⟩ := h.imports i hi
    rw [i.line_eq]
    rcases hx with rfl | rfl <;> split <;> simp [hpath _ hm, hname _ hn, hname _ hb]
  have hbranches : ∀ l ∈ p.branches.flatMap Branch.lines, x ∉ l.toList := by
    intro l hl
    obtain ⟨b, hb, hl⟩ := List.mem_flatMap.1 hl
    simp only [Branch.lines, List.mem_cons, List.not_mem_nil, or_false] at hl
    rcases hl with rfl | rfl
    · rcases hx with rfl | rfl <;> simp [toString, hquoted]
    · rcases hx with rfl | rfl <;> simp [toString, Branch.expression, hpath _ (h.bound b hb)]
  rw [lines_eq]
  simp only [List.forall_mem_append]
  refine ⟨⟨⟨⟨?_, himports⟩, ?_⟩, hbranches⟩, ?_⟩
  · rcases hx with rfl | rfl <;>
      simp [header, docText, errorName, hgroup, hpath _ h.runtime.1]
  · rcases hx with rfl | rfl <;>
      simp [docText, hgroup, hname _ h.factoryName.1, hpath _ h.groupBound, hquoted, htuple]
  · rcases hx with rfl | rfl <;> simp [errorName, hquoted]

end LineEnds

theorem carriage_notMem_render (h : p.Legible runtimeModule)
    (hgroup : '\r' ∉ p.group.text.toList) : '\r' ∉ (render runtimeModule p).toList := by
  have hlines := lineEnd_notMem_lines (.inr rfl) h hgroup
  have hchars : ∀ l ∈ lines runtimeModule p, ∀ c ∈ l.toList, c ≠ '\r' :=
    fun l hl c hc => ne_of_mem_of_not_mem hc (hlines l hl)
  exact fun hmem => forall_mem_join (forall_mem_of_all (by decide)) hchars '\r' hmem rfl

theorem readLines_of_map {ls : List (List Char)} {program : List Line}
    (h : ls.map readLine = program.map some) (n : Nat) :
    Generated.readLines n ls = .ok program := by
  induction ls generalizing program n with
  | nil =>
    rw [List.map_nil] at h
    rw [List.map_eq_nil_iff.1 h.symm]
    rfl
  | cons cs ls ih =>
    cases program with
    | nil => cases h
    | cons line program =>
      rw [List.map_cons, List.map_cons, List.cons.injEq] at h
      rw [Generated.readLines, h.1, ih h.2]
      rfl

theorem ofText_render (classes : Classes) (h : p.Legible runtimeModule) :
    Generated.ofText classes (render runtimeModule p) =
      (p.program runtimeModule).foldlM Generated.add (Generated.empty classes) := by
  have hsplit : splitList '\n' (render runtimeModule p).toList =
      (lines runtimeModule p).map String.toList :=
    splitList_join (show "\n".toList = ['\n'] from rfl) (by simp [lines])
      (lineEnd_notMem_lines (.inl rfl) h h.group)
  have hread := readLine_lines h
  have hmap : ((lines runtimeModule p).map String.toList).map readLine =
      (p.program runtimeModule).map some := by
    rw [List.map_map]
    exact hread
  rw [Generated.ofText, hsplit, readLines_of_map hmap]

end Foundry.Factory
