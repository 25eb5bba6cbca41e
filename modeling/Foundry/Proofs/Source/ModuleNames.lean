import Foundry.Discovery.Finder
import Foundry.Proofs.Files.Paths
import Foundry.Proofs.Files.Writing
import Foundry.Proofs.Text.Words

/-!
The module that a file below a root is named for. Where no name holds a dot besides the one of the
extension, the file lies where the module of its name belongs; where one does, it lies elsewhere.
-/

namespace Foundry

open Text

namespace Text

theorem dotted_concat (ps : List String) (p t : String) :
    dotted (ps ++ [p ++ t]) = dotted (ps ++ [p]) ++ t := by
  cases ps with
  | nil => rfl
  | cons q qs =>
    rw [dotted_append (List.cons_ne_nil q qs) (List.cons_ne_nil _ _),
      dotted_append (List.cons_ne_nil q qs) (List.cons_ne_nil _ _), String.append_assoc,
      String.append_assoc, String.append_assoc]
    rfl

end Text

namespace Discovery

variable {root : Path} {ds rel : List String} {b name : String}

theorem stripDots_dotted (hb : b ≠ "") (hdot : '.' ∉ b.toList) (ds : List String) :
    stripDots (dotted (ds ++ [b])) = dotted (ds ++ [b]) := by
  have hempty : b.toList ≠ [] := fun h => hb (String.toList_inj.1 h)
  obtain ⟨cs, c, hc⟩ : ∃ cs c, b.toList = cs ++ [c] :=
    ⟨_, _, (List.dropLast_concat_getLast hempty).symm⟩
  have hlast : ∃ ds', (dotted (ds ++ [b])).toList = ds' ++ [c] := by
    cases ds with
    | nil => exact ⟨cs, hc⟩
    | cons d ds =>
      refine ⟨(dotted (d :: ds) ++ ".").toList ++ cs, ?_⟩
      rw [dotted_append (List.cons_ne_nil d ds) (List.cons_ne_nil b []), String.toList_append,
        List.append_assoc, ← hc]
      rfl
  obtain ⟨ds', hds'⟩ := hlast
  have hne : (c == '.') = false := by
    rw [beq_eq_false_iff_ne]
    rintro rfl
    exact hdot (by rw [hc]; exact List.mem_append_right _ List.mem_cons_self)
  rw [stripDots, hds', List.reverse_concat, List.dropWhile_cons, hne, if_neg (by decide),
    List.reverse_cons, List.reverse_reverse, ← hds', String.ofList_toList]

/-- The module of a file by the names of its directories and its own name without extension. -/
def moduleOf (ds : List String) (b : String) : Option String :=
  if b = "__init__" then if ds = [] then none else some (dotted ds)
  else some (dotted (ds ++ [b]))

/-- A path below a root whose names hold no dot besides the one of the extension. -/
def Undotted (rel : List String) : Prop :=
  ∃ ds b, rel = ds ++ [b ++ ".py"] ∧ b ≠ "" ∧ '.' ∉ b.toList ∧ ∀ d ∈ ds, '.' ∉ d.toList

theorem not_startsWith_up (hdown : ∀ p ∈ rel, Path.IsDown p) (hrel : Undotted rel) :
    startsWith (join "/" rel) ".." = false := by
  obtain ⟨ds, b, rfl, hb, hdot, hds⟩ := hrel
  have hfirst : ∃ p ps, ds ++ [b ++ ".py"] = p :: ps ∧ p ≠ "" ∧ p.toList.head? ≠ some '.' := by
    cases ds with
    | nil =>
      refine ⟨b ++ ".py", [], rfl, by simp [hb], fun hhead => hdot ?_⟩
      have hempty : b.toList ≠ [] := fun h => hb (String.toList_inj.1 h)
      obtain ⟨c, cs, hc⟩ := List.exists_cons_of_ne_nil hempty
      rw [String.toList_append, hc] at hhead
      rw [hc]
      exact List.mem_of_head? hhead
    | cons d ds =>
      exact ⟨d, _, rfl, (hdown d List.mem_cons_self).1.ne_empty,
        fun hhead => hds d List.mem_cons_self (List.mem_of_head? hhead)⟩
  obtain ⟨p, ps, hps, hp, hhead⟩ := hfirst
  obtain ⟨c, rest, hc, htext⟩ := exists_first_char "/" ps hp
  have hc' : ('.' == c) = false := by
    rw [beq_eq_false_iff_ne]
    rintro rfl
    exact hhead hc
  rw [hps]
  simp [startsWith, startsWithList, htext, hc']

theorem segments_stem (hdot : '.' ∉ b.toList) (hds : ∀ d ∈ ds, '.' ∉ d.toList) :
    segments (dotted (ds ++ [b])) = ds ++ [b] := by
  refine segments_dotted_of_notMem (by simp) fun p hp => ?_
  rcases List.mem_append.1 hp with hp | hp
  · exact hds p hp
  · rwa [List.mem_singleton.1 hp]

section Below

variable {candidate base : String} (hpath : candidate ≠ "")
  (hup : startsWith (relative candidate base) ".." = false)

include hpath hup

theorem moduleName_of_stem {stem suffix : String}
    (htext : replace (relative candidate base) "/" "." = stem ++ suffix)
    (hwhole : stem ++ suffix ≠ "__init__.py")
    (hsuffix : [".__init__.py", ".py"].find? (endsWith (stem ++ suffix)) = some suffix)
    (hstrip : stripDots stem = stem) (hne : stem ≠ "") :
    moduleName candidate base = .ok (some stem) := by
  unfold moduleName
  simp only [beq_iff_eq, hpath, hup, htext, hwhole, hsuffix, takeText_append, hstrip, hne,
    Bool.false_eq_true, if_false]

theorem moduleName_packageFile
    (htext : replace (relative candidate base) "/" "." = dotted (ds ++ ["__init__"]) ++ ".py")
    (hds : ∀ d ∈ ds, d ≠ "" ∧ '.' ∉ d.toList) :
    moduleName candidate base = .ok (moduleOf ds "__init__") := by
  rw [moduleOf, if_pos rfl]
  by_cases hnil : ds = []
  · subst hnil
    rw [if_pos rfl]
    unfold moduleName
    simp only [beq_iff_eq, hpath, hup, htext, Bool.false_eq_true, if_false]
    rfl
  · -- the extension takes the whole name of the package file with it
    have hsplit : dotted (ds ++ ["__init__"]) ++ ".py" = dotted ds ++ ".__init__.py" := by
      rw [dotted_append hnil (List.cons_ne_nil _ [])]
      simp only [String.append_assoc]
      rfl
    have hstem : dotted ds ≠ "" :=
      dotted_ne_empty hnil fun hhead => (hds "" (List.mem_of_head? hhead)).1 rfl
    rw [if_neg hnil]
    rw [hsplit] at htext
    refine moduleName_of_stem hpath hup htext (fun hwhole => ?_) ?_ ?_ hstem
    · have hlength := congrArg String.length hwhole
      rw [String.length_append] at hlength
      have hsuffix : "__init__.py".length < ".__init__.py".length := by decide
      omega
    · rw [List.find?_cons_of_pos (endsWith_append _ _)]
    · obtain ⟨init, last, rfl⟩ : ∃ init last, ds = init ++ [last] :=
        ⟨_, _, (List.dropLast_concat_getLast hnil).symm⟩
      obtain ⟨hlast, hlastDot⟩ := hds last (List.mem_append_right _ List.mem_cons_self)
      exact stripDots_dotted hlast hlastDot init

theorem moduleName_plainFile
    (htext : replace (relative candidate base) "/" "." = dotted (ds ++ [b]) ++ ".py")
    (hinit : b ≠ "__init__") (hb : b ≠ "") (hdot : '.' ∉ b.toList)
    (hds : ∀ d ∈ ds, '.' ∉ d.toList) : moduleName candidate base = .ok (moduleOf ds b) := by
  have hlast : (segments (dotted (ds ++ [b]))).getLast? = some b := by
    rw [segments_stem hdot hds, List.getLast?_concat]
  rw [moduleOf, if_neg hinit]
  refine moduleName_of_stem hpath hup htext (fun hwhole => ?_) ?_ (stripDots_dotted hb hdot ds)
    (fun hempty => ?_)
  · have hstem : dotted (ds ++ [b]) = "__init__" :=
      (String.append_left_inj ".py").1 (hwhole.trans (by rfl))
    rw [hstem] at hlast
    exact hinit (Option.some.inj hlast).symm
  · rw [List.find?_cons_of_neg, List.find?_cons_of_pos (endsWith_append _ _)]
    intro hends
    obtain ⟨x, hx⟩ := endsWith_iff.1 hends
    have hstem : dotted (ds ++ [b]) = x ++ "." ++ "__init__" := by
      refine (String.append_left_inj ".py").1 (hx.trans ?_)
      simp only [String.append_assoc]
      rfl
    rw [hstem, segments_append] at hlast
    have hsegment : segments "__init__" = ["__init__"] := by decide
    rw [hsegment, List.getLast?_concat] at hlast
    exact hinit (Option.some.inj hlast).symm
  · rw [hempty] at hlast
    exact hb (Option.some.inj hlast).symm

end Below

/-- Below its root, a file whose names hold no other dot is named for these names. -/
theorem moduleName_undotted (hroot : root.Proper)
    (hdown : ∀ p ∈ ds ++ [b ++ ".py"], Path.IsDown p) (hb : b ≠ "") (hdot : '.' ∉ b.toList)
    (hds : ∀ d ∈ ds, '.' ∉ d.toList) :
    moduleName (root.append ⟨"", ds ++ [b ++ ".py"]⟩).text root.text = .ok (moduleOf ds b) := by
  have hpath : (root.append ⟨"", ds ++ [b ++ ".py"]⟩).text ≠ "" := by
    rw [Path.text]
    split
    · decide
    · rename_i h
      simpa using h
  have hup := not_startsWith_up hdown ⟨ds, b, rfl, hb, hdot, hds⟩
  have htext : replace (join "/" (ds ++ [b ++ ".py"])) "/" "." = dotted (ds ++ [b]) ++ ".py" := by
    rw [replace_join fun p hp => (hdown p hp).1.slash, dotted_concat]
  rw [← relative_append hroot hdown (by simp)] at hup htext
  by_cases hinit : b = "__init__"
  · subst hinit
    exact moduleName_packageFile hpath hup htext fun d hd =>
      ⟨(hdown d (List.mem_append_left _ hd)).1.ne_empty, hds d hd⟩
  · exact moduleName_plainFile hpath hup htext hinit hb hdot hds

/-! ### Where modules belong -/

/-- A file lies below a root where the module of a name belongs: under its own name, or as the
package file of a directory with that name. -/
def IsPlaceOf (rel : List String) (name : String) : Prop :=
  rel = Filer.partsOf name ∨ rel = segments name ++ [packageFile]

instance (rel : List String) (name : String) : Decidable (IsPlaceOf rel name) :=
  inferInstanceAs (Decidable (_ ∨ _))

theorem ne_empty_of_isDotted (h : Name.isDotted name = true) : ∀ p ∈ segments name, p ≠ "" := by
  rintro p hp rfl
  have hsegment := List.all_eq_true.1 h "" hp
  revert hsegment
  decide

theorem undotted_of_isPlaceOf (hdotted : Name.isDotted name = true) (h : IsPlaceOf rel name) :
    Undotted rel := by
  have hne := ne_empty_of_isDotted hdotted
  rcases h with rfl | rfl
  · have hlast := lastSegment_mem name
    exact ⟨_, _, rfl, hne _ hlast, notMem_of_mem_segments hlast,
      fun d hd => notMem_of_mem_segments (List.dropLast_subset _ hd)⟩
  · exact ⟨segments name, "__init__", rfl, by decide, by decide,
      fun d hd => notMem_of_mem_segments hd⟩

theorem isPlaceOf_of_undotted (hroot : root.Proper) (hdown : ∀ p ∈ rel, Path.IsDown p)
    (hname : moduleName (root.append ⟨"", rel⟩).text root.text = .ok (some name))
    (h : Undotted rel) : IsPlaceOf rel name := by
  obtain ⟨ds, b, rfl, hb, hdot, hds⟩ := h
  rw [moduleName_undotted hroot hdown hb hdot hds] at hname
  have hof : moduleOf ds b = some name := Except.ok.inj hname
  unfold moduleOf at hof
  by_cases hinit : b = "__init__"
  · by_cases hnil : ds = []
    · simp [hinit, hnil] at hof
    · rw [if_pos hinit, if_neg hnil] at hof
      obtain rfl := Option.some.inj hof
      exact .inr (by rw [segments_dotted_of_notMem hnil hds, hinit]; rfl)
  · rw [if_neg hinit] at hof
    obtain rfl := Option.some.inj hof
    refine .inl ?_
    rw [Filer.partsOf, segments_stem hdot hds, List.dropLast_concat, List.getLastD_concat]

end Discovery

end Foundry
