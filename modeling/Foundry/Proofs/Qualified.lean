import Foundry.Declaration
import Foundry.Proofs.Factory.Naming
import Foundry.Proofs.Text.Dotted

/-!
Qualified names as they are kept. A part is checked without the blanks around it and kept with them,
and a segment may end in a line end. The names that can be relied on, as imports and as places of
files, are therefore those without blanks: `well_formed_iff_no_blank`.
-/

namespace Foundry

open Text Name Factory

/-! ### Segments -/

namespace Text

theorem dropWhile_of_unblank {cs : List Char} (h : ∀ c ∈ cs, isBlank c = false) :
    cs.dropWhile isBlank = cs := by
  cases cs with
  | nil => rfl
  | cons c cs => rw [List.dropWhile_cons, h c List.mem_cons_self, if_neg (by decide)]

theorem strip_of_unblank {s : String} (h : ∀ c ∈ s.toList, isBlank c = false) : strip s = s := by
  have hback : ∀ c ∈ s.toList.reverse, isBlank c = false := fun c hc => h c (List.mem_reverse.1 hc)
  rw [strip, stripList, dropWhile_of_unblank h, dropWhile_of_unblank hback, List.reverse_reverse,
    String.ofList_toList]

theorem isBlank_of_isWordPart {c : Char} (h : isWordPart c = true) : isBlank c = false := by
  refine forall_ascii (P := fun c => isWordPart c = true → isBlank c = false) ?_ (isWordPart_lt h) h
  decide

end Text

namespace Name

/-- A plain word that is no keyword, or any plain word with a line end behind it. -/
theorem isSegment_iff {p : String} :
    isSegment p = true ↔
      IsPlain p ∨ ∃ w : String, isWord w.toList = true ∧ p = w ++ "\n" := by
  constructor
  · intro h
    rw [isSegment, isSegmentList, Bool.and_eq_true, Bool.or_eq_true, Bool.and_eq_true,
      Bool.not_eq_true'] at h
    rcases h.1 with hword | ⟨hlast, hword⟩
    · exact .inl ⟨hword, h.2⟩
    · obtain ⟨cs, hcs⟩ := List.getLast?_eq_some_iff.1 (beq_iff_eq.1 hlast)
      rw [hcs, List.dropLast_concat] at hword
      refine .inr ⟨String.ofList cs, by rwa [String.toList_ofList], ?_⟩
      rw [← String.toList_inj, hcs, String.toList_append, String.toList_ofList]
      rfl
  · rintro (h | ⟨w, hw, rfl⟩)
    · exact isSegment_of_isPlain h
    · have hfree : ∀ k ∈ keywords, '\n' ∉ k.toList := by decide
      have hkeyword : isKeyword (w ++ "\n") = false := by
        rw [isKeyword, ← Bool.not_eq_true, List.contains_iff_mem]
        exact fun hmem => hfree _ hmem (by simp)
      have hlist : (w ++ "\n").toList = w.toList ++ ['\n'] := by simp
      simp [isSegment, isSegmentList, hkeyword, hlist, hw]

/-- Among the texts that pass as parts, plain paths are those without blanks. -/
theorem isPlainPath_iff {s : String} (h : isDotted (strip s) = true) :
    IsPlainPath s ↔ ∀ c ∈ s.toList, isBlank c = false := by
  constructor
  · intro hplain c hc
    by_cases hdot : c = '.'
    · subst hdot
      decide
    · obtain ⟨p, hp, hmem⟩ := mem_splitList hc hdot
      have hword := (hplain (String.ofList p) (List.mem_map_of_mem hp)).1
      rw [String.toList_ofList] at hword
      exact isBlank_of_isWordPart ((isWord_iff.1 hword).2 c hmem)
  · intro hfree p hp
    rw [strip_of_unblank hfree] at h
    refine (isSegment_iff.1 (List.all_eq_true.1 h p hp)).resolve_right ?_
    rintro ⟨w, -, rfl⟩
    have hmem := mem_join "." hp (c := '\n') (by simp)
    rw [← dotted, dotted_segments] at hmem
    exact absurd (hfree '\n' hmem) (by decide)

end Name

namespace QualifiedName

/-! ### Names that were made -/

/-- The ways in which two values become a qualified name: given as they are, read off an object, or
as the name of a declaration. -/
inductive Made (module qualname : Value) : QualifiedName → Prop
  | given {n : QualifiedName} : ofValues? module qualname = .ok n → Made module qualname n
  | attributes {n : QualifiedName} :
    ofAttributes? module qualname = some n → Made module qualname n
  | declared {n : QualifiedName} {kind : Kind} {isPublic : Option Bool} {isAbstract : Bool}
    {interfaces : List String} {superclass : Option String} {bases : List String}
    {constructors : List Constructor} {marking : Option Marking} {location : Option Location} :
    ofValues? module qualname = .ok n →
    Made module qualname (Declaration.complete n kind isPublic isAbstract interfaces superclass
      bases constructors marking location).name

theorem ofValues?_of_ofAttributes? {module qualname : Value} {n : QualifiedName}
    (h : ofAttributes? module qualname = some n) : ofValues? module qualname = .ok n := by
  unfold ofAttributes? at h
  split at h
  · rename_i m q
    split at h
    · cases h
    · split at h
      · rename_i hn
        rw [← Option.some.inj h]
        exact hn
      · cases h
  · cases h

theorem Made.ofValues? {module qualname : Value} {n : QualifiedName} (h : Made module qualname n) :
    ofValues? module qualname = .ok n := by
  cases h with
  | given h => exact h
  | attributes h => exact ofValues?_of_ofAttributes? h
  | declared h => exact h

theorem text_of_part? {field t : String} {v : Value} (h : part? field v = .ok t) : v = .text t := by
  cases v with
  | text s => rw [eq_of_part? h]
  | _ => cases h

/-- The parts are kept as they were given, and pass the check without the blanks around them. -/
theorem kept_of_ofValues? {module qualname : Value} {n : QualifiedName}
    (h : QualifiedName.ofValues? module qualname = .ok n) :
    (module = .text n.module ∧ qualname = .text n.qualname) ∧
      ∀ s ∈ [n.module, n.qualname], isDotted (strip s) = true := by
  obtain ⟨hm, hq⟩ := parts_of_ofValues? h
  obtain rfl := text_of_part? hm
  obtain rfl := text_of_part? hq
  refine ⟨⟨rfl, rfl⟩, ?_⟩
  simp [isDotted_of_part? hm, isDotted_of_part? hq]

/-! ### Names that can be relied on -/

/-- Both parts are plain words joined by dots, and no keyword is among them. -/
structure WellFormed (n : QualifiedName) : Prop where
  module : IsPlainPath n.module
  qualname : IsPlainPath n.qualname

/-- What a well-formed name is used for. Of the lines that import its top-level name only those are
refused that would be directives to the compiler or would bind a constant of the language. -/
structure Usable (n : QualifiedName) : Prop where
  segments : segments n.text = segments n.module ++ segments n.qualname
  text : IsPlainPath n.text
  package : n.package = "" ∨ IsPlainPath n.package
  topLevel : IsPlain n.topLevel
  qualname : n.qualname = n.topLevel ∨
    ∃ rest, IsPlainPath rest ∧ n.qualname = n.topLevel ++ "." ++ rest
  simple : IsPlain n.simple
  ending : ∃ before, n.text = before ++ "." ++ n.simple
  line : readImport (Import.mk n.module n.topLevel none).line.toList =
    if n.module = "__future__" ∨ n.topLevel = "__debug__" then none
    else some (.imports (Text.segments n.module) n.topLevel none)

theorem segments_text (n : QualifiedName) :
    Text.segments n.text = Text.segments n.module ++ Text.segments n.qualname :=
  segments_append n.module n.qualname

theorem segments_qualname (n : QualifiedName) :
    Text.segments n.qualname = (Text.segments n.qualname).dropLast ++ [n.simple] :=
  (segments_dropLast_concat n.qualname).symm

theorem WellFormed.package {n : QualifiedName} (h : n.WellFormed) :
    n.package = "" ∨ IsPlainPath n.package := by
  rw [QualifiedName.package, beforeLastSegment]
  by_cases hnil : (Text.segments n.module).dropLast = []
  · rw [hnil]
    exact .inl rfl
  · refine .inr fun p hp => h.module p (List.dropLast_subset _ ?_)
    rwa [segments_dotted_of_notMem hnil fun p hp =>
      notMem_of_mem_segments (List.dropLast_subset _ hp)] at hp

theorem WellFormed.below_topLevel {n : QualifiedName} (h : n.WellFormed) :
    n.qualname = n.topLevel ∨
      ∃ rest, IsPlainPath rest ∧ n.qualname = n.topLevel ++ "." ++ rest := by
  have hcut := exists_segments n
  have hdotted := dotted_segments n.qualname
  rw [hcut] at hdotted
  cases htail : (Text.segments n.qualname).tail with
  | nil =>
    rw [htail] at hdotted
    exact .inl hdotted.symm
  | cons p ps =>
    rw [htail] at hcut hdotted
    have hmem : ∀ q ∈ p :: ps, q ∈ Text.segments n.qualname := fun q hq => by
      rw [hcut]
      exact List.mem_cons_of_mem _ hq
    refine .inr ⟨dotted (p :: ps), ?_, ?_⟩
    · rw [IsPlainPath, segments_dotted_of_notMem (List.cons_ne_nil p ps) fun q hq =>
        notMem_of_mem_segments (hmem q hq)]
      exact fun q hq => h.qualname q (hmem q hq)
    · rw [← dotted_cons (List.cons_ne_nil p ps)]
      exact hdotted.symm

theorem text_eq (n : QualifiedName) : ∃ before, n.text = before ++ "." ++ n.simple := by
  have hne : Text.segments n.module ++ (Text.segments n.qualname).dropLast ≠ [] := by
    simp [segments_ne_nil]
  refine ⟨dotted (Text.segments n.module ++ (Text.segments n.qualname).dropLast), ?_⟩
  have hlast : n.simple = dotted [n.simple] := rfl
  rw [hlast, ← dotted_append hne (List.cons_ne_nil _ []), List.append_assoc, ← segments_qualname,
    ← segments_text, dotted_segments]

theorem segments_eq_directives_iff {m : String} :
    Text.segments m = directives ↔ m = "__future__" := by
  refine ⟨fun h => Decidable.of_not_not fun hne => segments_ne_directives hne h, ?_⟩
  rintro rfl
  decide

theorem WellFormed.usable {n : QualifiedName} (h : n.WellFormed) : n.Usable where
  segments := segments_text n
  text := by
    intro p hp
    rw [segments_text, List.mem_append] at hp
    exact hp.elim (h.module p) (h.qualname p)
  package := h.package
  topLevel := h.qualname _ (by rw [exists_segments n]; exact List.mem_cons_self)
  qualname := h.below_topLevel
  simple := isPlain_simple h.qualname
  ending := text_eq n
  line := by
    have htop : IsPlain n.topLevel :=
      h.qualname _ (by rw [exists_segments n]; exact List.mem_cons_self)
    have hbound : (Import.mk n.module n.topLevel none).bound = n.topLevel := rfl
    rw [Import.line_eq, if_pos hbound, readImport_plain h.module.isPath htop.isName]
    simp only [segments_eq_directives_iff]

/-- A name that was made has its parts as they were given, and each segment of a part, the blanks
around the part aside, is a plain word that is no keyword or a plain word with a line end behind it.
It is well formed exactly when no blank is left in it, and a well-formed name is fit for all its
uses. -/
theorem well_formed_iff_no_blank {module qualname : Value} {n : QualifiedName}
    (h : Made module qualname n) :
    (module = .text n.module ∧ qualname = .text n.qualname) ∧
    (∀ s ∈ [n.module, n.qualname], ∀ p ∈ Text.segments (strip s),
      IsPlain p ∨ ∃ w : String, isWord w.toList = true ∧ p = w ++ "\n") ∧
    (n.WellFormed ↔ ∀ c ∈ n.module.toList ++ n.qualname.toList, isBlank c = false) ∧
    (n.WellFormed → n.Usable) := by
  obtain ⟨hkept, hdotted⟩ := kept_of_ofValues? h.ofValues?
  refine ⟨hkept, fun s hs p hp => isSegment_iff.1 (List.all_eq_true.1 (hdotted s hs) p hp), ?_,
    WellFormed.usable⟩
  rw [List.forall_mem_append, ← isPlainPath_iff (hdotted n.module (by simp)),
    ← isPlainPath_iff (hdotted n.qualname (by simp))]
  exact ⟨fun hn => ⟨hn.module, hn.qualname⟩, fun hn => ⟨hn.1, hn.2⟩⟩

/-- A nested class of an inner package. -/
theorem nested_name_well_formed :
    Made (.text "shop.drinks") (.text "Menu.Tea") ⟨"shop.drinks", "Menu.Tea"⟩ ∧
    Usable ⟨"shop.drinks", "Menu.Tea"⟩ ∧
    readImport "from shop.drinks import Menu".toList =
      some (.imports ["shop", "drinks"] "Menu" none) := by
  have hmade : Made (.text "shop.drinks") (.text "Menu.Tea") ⟨"shop.drinks", "Menu.Tea"⟩ :=
    .given (by rfl)
  obtain ⟨-, -, hiff, huse⟩ := well_formed_iff_no_blank hmade
  have husable := huse (hiff.2 (forall_mem_of_all (by decide)))
  exact ⟨hmade, husable, husable.line⟩

/-- Blanks around a part are kept, a line end may stand behind a segment, and a keyword passes with
it: the lines that import such names cannot be read. -/
theorem blanks_are_kept :
    ofValues? (.text " shop") (.text "Tea") = .ok ⟨" shop", "Tea"⟩ ∧
    ofValues? (.text "shop.if\n.drinks") (.text "Tea\n") = .ok ⟨"shop.if\n.drinks", "Tea\n"⟩ ∧
    ¬ WellFormed ⟨" shop", "Tea"⟩ ∧ ¬ WellFormed ⟨"shop.if\n.drinks", "Tea\n"⟩ ∧
    readImport (Import.mk "shop.if\n.drinks" "Tea\n" none).line.toList = none := by
  have hpadded : ¬ IsPlainPath " shop" := by decide
  have hbroken : ¬ IsPlainPath "shop.if\n.drinks" := by decide
  exact ⟨by rfl, by rfl, fun h => hpadded h.module, fun h => hbroken h.module, by decide⟩

end QualifiedName

end Foundry
