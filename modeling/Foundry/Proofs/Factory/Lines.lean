import Foundry.Proofs.Factory.Reading

/-!
Each line of a generated module is read back as what it was written for.
-/

namespace Foundry.Factory

open Foundry.Text

/-! ### Silent lines -/

theorem readSilent_of_dropWhile {cs rest : List Char} {c : Char}
    (h : cs.dropWhile isGap = c :: rest) (hcomment : c ≠ '#') (hquote : c ≠ '"') :
    readSilent cs = none := by
  have hquotes : startsWithList ['"', '"', '"'] (c :: rest) = false := by
    simp [startsWithList, Ne.symm hquote]
  simp [readSilent, h, hcomment, hquotes]

theorem readLine_of_readSilent {cs : List Char} (h : readSilent cs = some .silent) :
    readLine cs = some .silent := by
  simp only [readLine, List.findSome?_cons, h]

theorem readLine_comment (cs : List Char) : readLine ('#' :: cs) = some .silent := by
  refine readLine_of_readSilent ?_
  simp [readSilent, show isGap '#' = false by decide]

theorem readLine_empty : readLine "".toList = some .silent := by
  decide

/-- A text between three double quotes is silent wherever it stands in its line. -/
theorem readLine_docText (gaps : List Char) (hgaps : ∀ c ∈ gaps, isGap c = true) (s : String) :
    readLine (gaps ++ (docText s).toList) = some .silent := by
  have hdrop : (gaps ++ (docText s).toList).dropWhile isGap = (docText s).toList := by
    rw [List.dropWhile_append_of_pos hgaps]
    simp [docText, show isGap '"' = false by decide]
  have hstart : startsWithList ['"', '"', '"'] (docText s).toList = true := by
    simp [docText, startsWithList]
  have hend : startsWithList ['"', '"', '"'] (docText s).toList.reverse = true := by
    simp [docText, startsWithList]
  have hlen : 6 ≤ (docText s).toList.length := by
    simp [docText]
  refine readLine_of_readSilent ?_
  simp only [readSilent, hdrop, hstart, hend, decide_eq_true hlen, Bool.and_true, if_true]
  split <;> rfl

/-! ### Openings -/

/-- How the lines that say something open, with what reads them. -/
def openings : List (String × (List Char → Option Line)) :=
  [("from ", readImport), ("class ", readClass), ("    group = ", readGroup),
   ("    identifiers = (", readIdentifiers),
   ("    def create(self, identifier: str) -> ", readCreate),
   ("        if identifier == ", readTest), ("            return ", readConstruct),
   ("        raise UnknownIdentifierError(identifier, ", readRefuse), ("__all__ = [", readExports)]

/-- Texts that differ in a place that both have. -/
def Apart (p q : List Char) : Prop :=
  (p.zip q).any (fun e => e.1 != e.2) = true

instance (p q : List Char) : Decidable (Apart p q) :=
  inferInstanceAs (Decidable (_ = true))

theorem startsWithList_of_apart {p q : List Char} (h : Apart p q) (cs : List Char) :
    startsWithList p (q ++ cs) = false := by
  induction p generalizing q with
  | nil => cases h
  | cons c p ih =>
    cases q with
    | nil => cases h
    | cons d q =>
      rw [Apart, List.zip_cons_cons, List.any_cons, Bool.or_eq_true, bne_iff_ne] at h
      rw [List.cons_append, startsWithList, Bool.and_eq_false_iff, beq_eq_false_iff_ne]
      exact h.imp id ih

theorem openings_apart : openings.Pairwise fun a b => Apart a.1.toList b.1.toList := by
  decide

theorem read_of_startsWithList {o : String × (List Char → Option Line)} (ho : o ∈ openings)
    {cs : List Char} (h : startsWithList o.1.toList cs = false) : o.2 cs = none := by
  simp only [openings, List.mem_cons, List.not_mem_nil, or_false] at ho
  rcases ho with rfl | rfl | rfl | rfl | rfl | rfl | rfl | rfl | rfl
  · simp [readImport, expect_of_startsWithList h]
  · simp [readClass, expect_of_startsWithList h]
  · simp [readGroup, expect_of_startsWithList h]
  · simp [readIdentifiers, expect_of_startsWithList h]
  · simp [readCreate, expect_of_startsWithList h]
  · simp [readTest, expect_of_startsWithList h]
  · simp [readConstruct, expect_of_startsWithList h]
  · have hexpect := expect_of_startsWithList h
    unfold readRefuse
    exact congrArg (Option.bind · _) hexpect
  · simp [readExports, expect_of_startsWithList h]

theorem readSilent_of_opening {o : String × (List Char → Option Line)} (ho : o ∈ openings)
    (cs : List Char) : readSilent (o.1.toList ++ cs) = none := by
  simp only [openings, List.mem_cons, List.not_mem_nil, or_false] at ho
  rcases ho with rfl | rfl | rfl | rfl | rfl | rfl | rfl | rfl | rfl
  · exact readSilent_of_dropWhile (c := 'f') rfl (by decide) (by decide)
  · exact readSilent_of_dropWhile (c := 'c') rfl (by decide) (by decide)
  · exact readSilent_of_dropWhile (c := 'g') rfl (by decide) (by decide)
  · exact readSilent_of_dropWhile (c := 'i') rfl (by decide) (by decide)
  · exact readSilent_of_dropWhile (c := 'd') rfl (by decide) (by decide)
  · exact readSilent_of_dropWhile (c := 'i') rfl (by decide) (by decide)
  · exact readSilent_of_dropWhile (c := 'r') rfl (by decide) (by decide)
  · exact readSilent_of_dropWhile (c := 'r') rfl (by decide) (by decide)
  · exact readSilent_of_dropWhile (c := '_') rfl (by decide) (by decide)

/-- A line that opens in one of these ways is read by what stands beside its opening. -/
theorem readLine_of_opening {o : String × (List Char → Option Line)} (ho : o ∈ openings)
    {cs : List Char} {line : Line} (h : o.2 (o.1.toList ++ cs) = some line) :
    readLine (o.1.toList ++ cs) = some line := by
  obtain ⟨before, after, hsplit⟩ := List.append_of_mem ho
  have hbefore : ∀ a ∈ before, a.2 (o.1.toList ++ cs) = none := by
    intro a ha
    have hapart := openings_apart
    rw [hsplit, List.pairwise_append] at hapart
    have hao := hapart.2.2 a ha o List.mem_cons_self
    refine read_of_startsWithList ?_ (startsWithList_of_apart hao cs)
    rw [hsplit]
    exact List.mem_append_left _ ha
  have hreaders : readLine (o.1.toList ++ cs) =
      (readSilent :: openings.map Prod.snd).findSome? fun read => read (o.1.toList ++ cs) := rfl
  have hnone : (before.map Prod.snd).findSome? (fun read => read (o.1.toList ++ cs)) = none := by
    rw [List.findSome?_eq_none_iff]
    intro read hread
    obtain ⟨a, ha, rfl⟩ := List.mem_map.1 hread
    exact hbefore a ha
  rw [hreaders, List.findSome?_cons, readSilent_of_opening ho, hsplit, List.map_append,
    List.findSome?_append, hnone, List.map_cons, List.findSome?_cons, h]
  rfl

/-! ### Imports -/

theorem bindable_of_ne {name : String} (h : name ≠ "__debug__") : bindable name = some () := by
  rw [bindable, if_neg h]

theorem ends_nil : Ends [] := by
  intro c hc
  cases hc

/-- The line of an import as it is read. -/
def Import.read (i : Import) : Line :=
  .imports (segments i.module) i.name (if i.bound = i.name then none else some i.bound)

theorem Import.line_eq (i : Import) :
    i.line =
      if i.bound = i.name then "from " ++ i.module ++ " import " ++ i.name
      else "from " ++ i.module ++ " import " ++ i.name ++ " as " ++ i.bound := by
  unfold Import.line Import.bound
  cases i.alias? with
  | none => simp [toString]
  | some a =>
    by_cases hempty : a = ""
    · simp [hempty, toString]
    · by_cases hname : a = i.name <;> simp [hempty, hname, toString]

theorem ends_space (cs : List Char) : Ends (' ' :: cs) :=
  ends_of_cons (by decide) cs

/-- What the keyword of an import leaves of its line, and what it skips before the name. -/
theorem readDotted_import {m : String} (hm : IsPath m) (cs : List Char) :
    readDotted (m.toList ++ ' ' :: ("import ".toList ++ cs)) =
      some (segments m, "import ".toList ++ cs) :=
  readDotted_append hm (ends_space _) (by simp [isGap])

/-- Only directives and the constant of the language are refused. -/
theorem readImport_plain {m name : String} (hm : IsPath m) (hname : IsName name) :
    readImport ("from " ++ m ++ " import " ++ name).toList =
      if segments m = directives ∨ name = "__debug__" then none
      else some (.imports (segments m) name none) := by
  have htext : ("from " ++ m ++ " import " ++ name).toList =
      "from ".toList ++ (m.toList ++ ' ' :: ("import ".toList ++ (name.toList ++ []))) := by
    simp
  rw [htext]
  unfold readImport
  simp only [expect_append, Option.bind_eq_bind, Option.bind_some, readDotted_import hm]
  by_cases hfuture : segments m = directives
  · rw [if_pos hfuture, if_pos (.inl hfuture)]
    rfl
  · simp only [if_neg hfuture, Option.bind_some, readName_append hname ends_nil]
    by_cases hdebug : name = "__debug__"
    · rw [if_pos (.inr hdebug), hdebug]
      rfl
    · rw [if_neg (not_or.2 ⟨hfuture, hdebug⟩), bindable_of_ne hdebug]
      rfl

theorem readImport_renamed {m name other : String} (hm : IsPath m)
    (hfuture : segments m ≠ directives) (hname : IsName name) (hother : IsName other)
    (hbind : other ≠ "__debug__") :
    readImport ("from " ++ m ++ " import " ++ name ++ " as " ++ other).toList =
      some (.imports (segments m) name (some other)) := by
  have htext : ("from " ++ m ++ " import " ++ name ++ " as " ++ other).toList =
      "from ".toList ++ (m.toList ++ ' ' :: ("import ".toList ++
        (name.toList ++ ' ' :: ("as ".toList ++ (other.toList ++ []))))) := by
    simp
  have hgap : (' ' :: ("as ".toList ++ (other.toList ++ []))).dropWhile isGap =
      "as ".toList ++ (other.toList ++ []) := rfl
  rw [htext]
  unfold readImport
  simp only [expect_append, Option.bind_eq_bind, Option.bind_some, readDotted_import hm,
    if_neg hfuture, readName_append hname (ends_space _), hgap, readName_append hother ends_nil,
    bindable_of_ne hbind]
  rfl

theorem readLine_import {i : Import} (hm : IsPath i.module)
    (hfuture : segments i.module ≠ directives) (hname : IsName i.name) (hbound : IsName i.bound)
    (hbind : i.bound ≠ "__debug__") : readLine i.line.toList = some i.read := by
  have hopening : ∀ (s : String) (line : Line), readImport ("from " ++ s).toList = some line →
      readLine ("from " ++ s).toList = some line := by
    intro s line h
    rw [String.toList_append] at h ⊢
    exact readLine_of_opening (o := ("from ", readImport)) (by simp [openings]) h
  rw [i.line_eq, Import.read]
  by_cases h : i.bound = i.name
  · have hread := readImport_plain hm hname
    rw [if_neg (not_or.2 ⟨hfuture, h ▸ hbind⟩)] at hread
    rw [if_pos h, if_pos h]
    simp only [String.append_assoc] at hread ⊢
    exact hopening _ _ hread
  · have hread := readImport_renamed hm hfuture hname hbound hbind
    rw [if_neg h, if_neg h]
    simp only [String.append_assoc] at hread ⊢
    exact hopening _ _ hread

/-! ### The factory -/

theorem readLine_class {name : String} (h : IsName name) (hbind : name ≠ "__debug__") :
    readLine ("class " ++ name ++ ":").toList = some (.classHead name) := by
  have htext : ("class " ++ name ++ ":").toList = "class ".toList ++ (name.toList ++ [':']) := by
    simp
  rw [htext]
  refine readLine_of_opening (o := ("class ", readClass)) (by simp [openings]) ?_
  simp only [readClass, expect_append, Option.bind_eq_bind, Option.bind_some,
    readName_append h (ends_of_cons (c := ':') (by decide) []), bindable_of_ne hbind]
  rfl

theorem readLine_group (name : String) :
    readLine ("    group = " ++ quoted name).toList = some (.group name) := by
  have htext : ("    group = " ++ quoted name).toList =
      "    group = ".toList ++ ((quoted name).toList ++ []) := by simp
  rw [htext]
  refine readLine_of_opening (o := ("    group = ", readGroup)) (by simp [openings]) ?_
  simp only [readGroup, expect_append, Option.bind_eq_bind, Option.bind_some, readQuoted_quoted]
  rfl

theorem readLine_identifiers (items : List String) :
    readLine ("    identifiers = " ++ tupleText items).toList = some (.identifiers items) := by
  obtain ⟨cs, htuple, hitems⟩ := exists_tupleText items
  have htext : ("    identifiers = " ++ tupleText items).toList =
      "    identifiers = (".toList ++ cs := by
    rw [String.toList_append, htuple]
    simp
  rw [htext]
  refine readLine_of_opening (o := ("    identifiers = (", readIdentifiers)) (by simp [openings]) ?_
  simp only [readIdentifiers, expect_append, Option.bind_eq_bind, Option.bind_some, hitems]
  rfl

theorem readLine_create {s : String} (h : IsPath s) :
    readLine ("    def create(self, identifier: str) -> " ++ s ++ ":").toList =
      some (.createHead (segments s)) := by
  have htext : ("    def create(self, identifier: str) -> " ++ s ++ ":").toList =
      "    def create(self, identifier: str) -> ".toList ++ (s.toList ++ [':']) := by simp
  rw [htext]
  refine readLine_of_opening (o := ("    def create(self, identifier: str) -> ", readCreate))
    (by simp [openings]) ?_
  simp only [readCreate, expect_append, Option.bind_eq_bind, Option.bind_some,
    readDotted_append h (ends_of_cons (c := ':') (by decide) []) (by simp [isGap])]
  rfl

theorem readLine_test (identifier : String) :
    readLine ("        if identifier == " ++ quoted identifier ++ ":").toList =
      some (.test identifier) := by
  have htext : ("        if identifier == " ++ quoted identifier ++ ":").toList =
      "        if identifier == ".toList ++ ((quoted identifier).toList ++ [':']) := by simp
  rw [htext]
  refine readLine_of_opening (o := ("        if identifier == ", readTest)) (by simp [openings]) ?_
  simp only [readTest, expect_append, Option.bind_eq_bind, Option.bind_some, readQuoted_quoted]
  rfl

theorem readLine_construct {s : String} (h : IsPath s) :
    readLine ("            return " ++ (s ++ "()")).toList = some (.construct (segments s)) := by
  have htext : ("            return " ++ (s ++ "()")).toList =
      "            return ".toList ++ (s.toList ++ ['(', ')']) := by simp
  rw [htext]
  refine readLine_of_opening (o := ("            return ", readConstruct)) (by simp [openings]) ?_
  simp only [readConstruct, expect_append, Option.bind_eq_bind, Option.bind_some,
    readDotted_append h (ends_of_cons (c := '(') (by decide) [')']) (by simp [isGap])]
  rfl

theorem readLine_refuse (group : String) :
    readLine ("        raise " ++ errorName ++ "(identifier, " ++ quoted group ++ ")").toList =
      some (.refuse group) := by
  have htext : ("        raise " ++ errorName ++ "(identifier, " ++ quoted group ++ ")").toList =
      "        raise UnknownIdentifierError(identifier, ".toList ++
        ((quoted group).toList ++ [')']) := by
    simp [errorName]
  rw [htext]
  refine readLine_of_opening
    (o := ("        raise UnknownIdentifierError(identifier, ", readRefuse))
    (by simp [openings]) ?_
  have hopening : s!"        raise {errorName}(identifier, " =
      "        raise UnknownIdentifierError(identifier, " := rfl
  simp only [readRefuse, hopening, expect_append, Option.bind_eq_bind, Option.bind_some,
    readQuoted_quoted]
  rfl

theorem readLine_exports (name : String) :
    readLine ("__all__ = [" ++ quoted name ++ "]").toList = some (.exports name) := by
  have htext : ("__all__ = [" ++ quoted name ++ "]").toList =
      "__all__ = [".toList ++ ((quoted name).toList ++ [']']) := by simp
  rw [htext]
  refine readLine_of_opening (o := ("__all__ = [", readExports)) (by simp [openings]) ?_
  simp only [readExports, expect_append, Option.bind_eq_bind, Option.bind_some, readQuoted_quoted]
  rfl

end Foundry.Factory
