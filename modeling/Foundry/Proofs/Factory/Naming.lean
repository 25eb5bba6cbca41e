import Foundry.Filer
import Foundry.Proofs.Config
import Foundry.Proofs.Factory.Resolution
import Foundry.Proofs.Text.Snake

/-!
The names that an accepted configuration gives to the module and the class of a factory. The
suffixes are checked alone, as continuations of identifiers of any script, and are then written
behind a name. The result is a legal name exactly when the suffix of modules is made of plain word
characters and no reserved word comes out: `legal_names_iff` for one group, and for all groups.
-/

namespace Foundry

open Text

namespace Name

/-! ### Words without capitals -/

/-- The first letter as a capital. -/
def capitalized (s : String) : String :=
  takeText (upper s) 1 ++ dropText s 1

/-- A word without capitals is the snake case of a plain word: of itself, or, where it is reserved,
of the word with a capital in front. -/
theorem exists_snake {w : String} (hw : IsSmall w) :
    ∃ v, Factory.IsPlain v ∧ snake v = w := by
  by_cases hk : isKeyword w = true
  · have hall : ∀ k ∈ keywords, IsSmall k →
        Factory.IsPlain (capitalized k) ∧ snake (capitalized k) = k := by
      decide +kernel
    exact ⟨capitalized w, hall w (List.contains_iff_mem.1 hk) hw⟩
  · exact ⟨w, ⟨hw.1, Bool.eq_false_iff.2 hk⟩, snake_of_isSmall hw⟩

/-! ### Dotted names of pieces -/

theorem isDotted_append (p q : String) :
    isDotted (p ++ "." ++ q) = (isDotted p && isDotted q) := by
  rw [isDotted, segments_append, List.all_append]
  rfl

theorem isSegment_of_isPlain {s : String} (h : Factory.IsPlain s) : isSegment s = true := by
  rw [isSegment, isSegmentList, h.1, h.2]
  rfl

theorem isDotted_dropLast {m : String} (h : Factory.IsPlainPath m)
    (hne : beforeLastSegment m ≠ "") : isDotted (beforeLastSegment m) = true := by
  have hnil : (segments m).dropLast ≠ [] := fun hnil => hne (by rw [beforeLastSegment, hnil]; rfl)
  have hcut := segments_dotted_of_notMem hnil fun p hp =>
    notMem_of_mem_segments (List.dropLast_subset _ hp)
  rw [isDotted, beforeLastSegment, hcut, List.all_eq_true]
  exact fun p hp => isSegment_of_isPlain (h p (List.dropLast_subset _ hp))

/-- A word with continuing characters behind it is one segment: it has no dot, and no line end
either. -/
theorem isDotted_leaf {w suffix : String} (hw : isWord w.toList = true)
    (hs : ∀ c ∈ suffix.toList, isIdentifierContinue c = true) :
    isDotted (w ++ suffix) = true ↔
      (∀ c ∈ suffix.toList, isWordPart c = true) ∧ isKeyword (w ++ suffix) = false := by
  have hcont : ∀ c ∈ (w ++ suffix).toList, isIdentifierContinue c = true := by
    intro c hc
    rw [String.toList_append] at hc
    rcases List.mem_append.1 hc with hc | hc
    · have hpart := (isWord_iff.1 hw).2 c hc
      rw [isIdentifierContinue, if_pos (isWordPart_lt hpart)]
      exact hpart
    · exact hs c hc
  have hfree : ∀ c, isIdentifierContinue c = false → c ∉ (w ++ suffix).toList := by
    intro c hc hmem
    rw [hcont c hmem] at hc
    cases hc
  have hend : ((w ++ suffix).toList.getLast? == some '\n') = false := by
    rw [beq_eq_false_iff_ne]
    exact fun hlast => hfree '\n' (by decide) (List.mem_of_getLast? hlast)
  rw [isDotted, segments_of_notMem (hfree '.' (by decide)), List.all_cons, List.all_nil,
    Bool.and_true, isSegment, isSegmentList, hend, Bool.false_and, Bool.or_false,
    Bool.and_eq_true, Bool.not_eq_true', String.toList_append, isWord_append hw]

end Name

namespace Factory

open Name

variable {n : Naming} {c : Config} {s : Settings} {group : QualifiedName}

/-- The names of a factory can be used: the module has a file, and the class can be written. -/
structure Naming.Legal (n : Naming) (group : QualifiedName) : Prop where
  module : isDotted (n.moduleName group) = true
  file : ∀ f : Filer, ∃ p, f.pathFor (n.moduleName group) = .ok p
  factory : IsName (n.factoryName group)

theorem isPlain_simple (h : IsPlainPath group.qualname) : IsPlain group.simple :=
  h _ (lastSegment_mem group.qualname)

theorem exists_pathFor_iff {f : Filer} {module : String} :
    (∃ p, f.pathFor module = .ok p) ↔ isDotted module = true := by
  unfold Filer.pathFor
  by_cases h : isDotted module = true <;> simp [h]

end Factory

namespace Config

open Name Factory

variable {c : Config} {group : QualifiedName}

theorem Checked.continues_moduleSuffix (hc : c.Checked) :
    ∀ x ∈ c.moduleSuffix.toList, isIdentifierContinue x = true := by
  rcases hc.moduleSuffix with h | h
  · rw [h]
    exact fun x hx => nomatch hx
  · unfold isIdentifier at h
    rw [String.toList_append] at h
    exact List.all_eq_true.1 (Bool.and_eq_true_iff.1 h).2

theorem Checked.continues_factorySuffix (hc : c.Checked) :
    ∀ x ∈ c.factorySuffix.toList, isIdentifierContinue x = true := by
  have h := hc.factorySuffix
  unfold isIdentifier at h
  split at h
  · cases h
  · rename_i x xs hxs
    rw [Bool.and_eq_true, List.all_eq_true] at h
    rw [hxs]
    exact List.forall_mem_cons.2 ⟨isIdentifierContinue_of_start h.1, h.2⟩

theorem Checked.isDotted_moduleName (hc : c.Checked) (hm : IsPlainPath group.module)
    (hq : IsPlainPath group.qualname) :
    isDotted (c.naming.moduleName group) = true ↔
      (∀ x ∈ c.moduleSuffix.toList, isWordPart x = true) ∧
        isKeyword (snake group.simple ++ c.moduleSuffix) = false := by
  have hpackage : c.naming.package.getD group.package ≠ "" →
      isDotted (c.naming.package.getD group.package) = true := by
    intro hne
    cases hp : c.generatedPackage with
    | none =>
      rw [naming, hp] at hne ⊢
      exact isDotted_dropLast hm hne
    | some p =>
      rw [naming, hp]
      exact (hc.package p hp).2
  rw [← isDotted_leaf (isSmall_snake (isPlain_simple hq).1).1 hc.continues_moduleSuffix]
  rw [Naming.moduleName]
  by_cases hempty : c.naming.package.getD group.package = ""
  · simp only [hempty]
    rfl
  · simp only [beq_iff_eq, hempty, if_false]
    rw [isDotted_append, hpackage hempty, Bool.true_and]
    rfl

theorem Checked.isIdentifier_factoryName (hc : c.Checked) (hq : IsPlainPath group.qualname) :
    isIdentifier (c.naming.factoryName group) = true := by
  have hid := (isPlain_simple hq).isName.identifier
  unfold isIdentifier at hid ⊢
  rw [Naming.factoryName, String.toList_append]
  split at hid
  · cases hid
  · rename_i x xs hxs
    rw [Bool.and_eq_true, List.all_eq_true] at hid
    simp only [hxs, List.cons_append, Bool.and_eq_true, List.all_eq_true, List.forall_mem_append]
    exact ⟨hid.1, hid.2, hc.continues_factorySuffix⟩

theorem Checked.legal_iff (hc : c.Checked) (hm : IsPlainPath group.module)
    (hq : IsPlainPath group.qualname) :
    c.naming.Legal group ↔
      (∀ x ∈ c.moduleSuffix.toList, isWordPart x = true) ∧
        isKeyword (snake group.simple ++ c.moduleSuffix) = false ∧
        isKeyword (group.simple ++ c.factorySuffix) = false := by
  have hmodule := hc.isDotted_moduleName hm hq
  constructor
  · rintro ⟨hdotted, -, hname⟩
    exact ⟨(hmodule.1 hdotted).1, (hmodule.1 hdotted).2, hname.free⟩
  · rintro ⟨hparts, hleaf, hfactory⟩
    have hdotted := hmodule.2 ⟨hparts, hleaf⟩
    exact ⟨hdotted, fun f => exists_pathFor_iff.2 hdotted,
      hc.isIdentifier_factoryName hq, hfactory⟩

/-- A group in a module of its own, with one name. -/
theorem isPlainPath_of_isPlain {v : String} (hv : IsPlain v) : IsPlainPath v := by
  have hdot := hv.isName.notMem (c := '.') (by decide)
  intro w hw
  rw [segments_of_notMem hdot] at hw
  rwa [List.mem_singleton.1 hw]

/-- The suffixes that are safe behind every name: of modules, plain characters that no reserved
word ends in behind a word without capitals; of classes, what no reserved word ends in behind a
plain word. -/
theorem Checked.always_legal_iff (hc : c.Checked) :
    (∀ group : QualifiedName, IsPlainPath group.module → IsPlainPath group.qualname →
      c.naming.Legal group) ↔
      (∀ x ∈ c.moduleSuffix.toList, isWordPart x = true) ∧
        (∀ k ∈ keywords, ∀ w, IsSmall w → k ≠ w ++ c.moduleSuffix) ∧
        (∀ k ∈ keywords, ∀ w, IsPlain w → k ≠ w ++ c.factorySuffix) := by
  have hfree : ∀ s, isKeyword s = false ↔ ∀ k ∈ keywords, k ≠ s := by
    intro s
    rw [isKeyword, ← Bool.not_eq_true, List.contains_iff_mem]
    exact ⟨fun hs k hk hks => hs (hks ▸ hk), fun hs hk => hs s hk rfl⟩
  constructor
  · intro hall
    -- a word is tried as the only class of a module
    have htried : ∀ v, IsPlain v → (∀ x ∈ c.moduleSuffix.toList, isWordPart x = true) ∧
        isKeyword (snake v ++ c.moduleSuffix) = false ∧
        isKeyword (v ++ c.factorySuffix) = false := by
      intro v hv
      have hpath := isPlainPath_of_isPlain hv
      have hm : IsPlainPath "m" := by decide
      have hlegal := (@Checked.legal_iff c ⟨"m", v⟩ hc hm hpath).1 (hall ⟨"m", v⟩ hm hpath)
      have hsimple : QualifiedName.simple ⟨"m", v⟩ = v := by
        rw [QualifiedName.simple, Name.simple, lastSegment,
          segments_of_notMem (hv.isName.notMem (c := '.') (by decide))]
        rfl
      rwa [hsimple] at hlegal
    refine ⟨(htried "A" (by decide)).1, fun k hk w hw hkw => ?_, fun k hk w hw hkw => ?_⟩
    · obtain ⟨v, hv, rfl⟩ := exists_snake hw
      exact (hfree _).1 (htried v hv).2.1 k hk hkw
    · exact (hfree _).1 (htried w hw).2.2 k hk hkw
  · rintro ⟨hparts, hleaf, hfactory⟩ group hm hq
    have hsimple := isPlain_simple hq
    rw [hc.legal_iff hm hq, hfree, hfree]
    exact ⟨hparts, fun k hk => hleaf k hk _ (isSmall_snake hsimple.1),
      fun k hk => hfactory k hk _ hsimple⟩

/-- No reserved word ends in the suffixes that are given where the settings say nothing. -/
theorem Checked.legal_of_standard (hc : c.Checked) (hfactory : c.factorySuffix = "Factory")
    (hmodule : c.moduleSuffix = "_factory") (hm : IsPlainPath group.module)
    (hq : IsPlainPath group.qualname) : c.naming.Legal group := by
  have hend : ∀ k ∈ keywords, ∀ w t : String, 'y' ∈ t.toList → 'o' ∈ t.toList → k ≠ w ++ t := by
    have hboth : ∀ k ∈ keywords, 'y' ∈ k.toList → 'o' ∉ k.toList := by decide
    intro k hk w t hy ho hkw
    have hmem : ∀ x ∈ t.toList, x ∈ k.toList := by
      intro x hx
      rw [hkw, String.toList_append]
      exact List.mem_append_right _ hx
    exact hboth k hk (hmem 'y' hy) (hmem 'o' ho)
  refine hc.always_legal_iff.2 ⟨?_, fun k hk w _ => ?_, fun k hk w _ => ?_⟩ group hm hq
  · rw [hmodule]
    exact forall_mem_of_all (by decide)
  · rw [hmodule]
    exact hend k hk w _ (by decide) (by decide)
  · rw [hfactory]
    exact hend k hk w _ (by decide) (by decide)

/-- Accepted settings give a group legal names exactly when the suffix of modules is made of plain
word characters and neither name is reserved, and give them to every group exactly when the
suffixes are safe behind every name. -/
theorem legal_names_iff {k : Coercions} {s : Settings} {c : Config}
    (hs : ofSettings k s = .ok c) :
    (∀ group : QualifiedName, IsPlainPath group.module → IsPlainPath group.qualname →
      (c.naming.Legal group ↔
        (∀ x ∈ c.moduleSuffix.toList, isWordPart x = true) ∧
          isKeyword (snake group.simple ++ c.moduleSuffix) = false ∧
          isKeyword (group.simple ++ c.factorySuffix) = false)) ∧
    ((∀ group : QualifiedName, IsPlainPath group.module → IsPlainPath group.qualname →
      c.naming.Legal group) ↔
        (∀ x ∈ c.moduleSuffix.toList, isWordPart x = true) ∧
          (∀ k ∈ keywords, ∀ w, IsSmall w → k ≠ w ++ c.moduleSuffix) ∧
          (∀ k ∈ keywords, ∀ w, IsPlain w → k ≠ w ++ c.factorySuffix)) :=
  ⟨fun _ hm hq => (checked_of_ofSettings hs).legal_iff hm hq,
    (checked_of_ofSettings hs).always_legal_iff⟩

def makerSettings : Settings :=
  Settings.ofLayers [Ordered.ofList [("GENERATED_PACKAGE", .text " shop.made "),
    ("FACTORY_SUFFIX", .text "Maker"), ("MODULE_SUFFIX", .text "_maker")]]

def makerConfig : Config :=
  { standard with
    generatedPackage := some "shop.made", factorySuffix := "Maker", moduleSuffix := "_maker" }

/-- A nested class of an inner package, under settings that change both suffixes. -/
theorem legal_names_of_makers :
    ofSettings .lax makerSettings = .ok makerConfig ∧ IsPlainPath "shop.drinks" ∧
    IsPlainPath "Menu.HotDrink" ∧ makerConfig.naming.Legal ⟨"shop.drinks", "Menu.HotDrink"⟩ ∧
    makerConfig.naming.moduleName ⟨"shop.drinks", "Menu.HotDrink"⟩ =
      "shop.made.hot_drink_maker" := by
  have hs : ofSettings .lax makerSettings = .ok makerConfig := by rfl
  have hm : IsPlainPath "shop.drinks" := by decide
  have hq : IsPlainPath "Menu.HotDrink" := by decide
  have hparts : ∀ x ∈ makerConfig.moduleSuffix.toList, isWordPart x = true :=
    forall_mem_of_all (by decide)
  exact ⟨hs, hm, hq, ((legal_names_iff hs).1 ⟨"shop.drinks", "Menu.HotDrink"⟩ hm hq).2
    ⟨hparts, by decide, by decide⟩, by decide⟩

def accentedSettings : Settings :=
  Settings.ofLayers [Ordered.ofList [("MODULE_SUFFIX", .text "_ä")]]

def clippedSettings : Settings :=
  Settings.ofLayers [Ordered.ofList [("FACTORY_SUFFIX", .text "f")]]

def accentedConfig : Config :=
  { standard with moduleSuffix := "_ä" }

def clippedConfig : Config :=
  { standard with factorySuffix := "f" }

/-- An accented suffix is accepted and then refused behind every name; a suffix of one letter
makes a reserved word of a class. -/
theorem accepted_suffixes_illegal :
    ofSettings .lax accentedSettings = .ok accentedConfig ∧
    ofSettings .lax clippedSettings = .ok clippedConfig ∧
    IsPlainPath "shop.menu" ∧ IsPlainPath "Drink" ∧ IsPlainPath "i" ∧
    (∀ f : Filer, f.pathFor (accentedConfig.naming.moduleName ⟨"shop.menu", "Drink"⟩) =
      .error (.invalidModule "shop.drink_ä")) ∧
    isKeyword (clippedConfig.naming.factoryName ⟨"shop.menu", "i"⟩) = true := by
  refine ⟨by rfl, by rfl, by decide, by decide, by decide, fun f => ?_, by decide⟩
  have hname : accentedConfig.naming.moduleName ⟨"shop.menu", "Drink"⟩ = "shop.drink_ä" := by
    decide
  have hdotted : ¬ isDotted "shop.drink_ä" = true := by decide
  rw [hname, Filer.pathFor, if_neg hdotted]

end Config

end Foundry
