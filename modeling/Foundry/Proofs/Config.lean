import Foundry.Config

/-!
What the settings guarantee once they are accepted. The defaults pass the checks of their fields,
and each field that is read passes its own, so every accepted configuration passes them all.
-/

namespace Foundry

open Text

/-- What the checks of the fields ask for, taken together. -/
structure Config.Checked (c : Config) : Prop where
  package : ∀ p, c.generatedPackage = some p → p ≠ "" ∧ Name.isDotted p = true
  factorySuffix : isIdentifier c.factorySuffix = true
  moduleSuffix : c.moduleSuffix = "" ∨ isIdentifier ("m" ++ c.moduleSuffix) = true
  depth : 1 ≤ c.maxSuperclassDepth
  annotations : c.annotationNames ≠ [] ∧ ∀ n ∈ c.annotationNames, Name.isDotted n = true
  runtime : c.runtimeModule ≠ "" ∧ Name.isDotted c.runtimeModule = true

namespace Reading

variable {k : Coercions} {name s : String} {v : Value}

theorem bind_ok {α β : Type} {x : Reading α} {f : α → Reading β} {b : β}
    (h : x >>= f = .ok b) : ∃ a, x = .ok a ∧ f a = .ok b := by
  cases x with
  | error e => cases h
  | ok a => exact ⟨a, rfl, h⟩

theorem dottedModule_ok (h : dottedModule k name v = .ok s) :
    s ≠ "" ∧ Name.isDotted s = true := by
  obtain ⟨t, -, h⟩ := bind_ok h
  simp only at h
  split at h
  · rename_i hdotted
    obtain rfl := Except.ok.inj h
    rw [Bool.and_eq_true, bne_iff_ne] at hdotted
    exact hdotted
  · cases h

theorem package_ok {p : Option String} (h : package k name v = .ok p) :
    ∀ s, p = some s → s ≠ "" ∧ Name.isDotted s = true := by
  rintro s rfl
  have hread : (dottedModule k name v).map some = .ok (some s) := by
    cases v with
    | none => cases Except.ok.inj h
    | _ => exact h
  cases hd : dottedModule k name v with
  | error e =>
    rw [hd] at hread
    cases hread
  | ok t =>
    rw [hd] at hread
    obtain rfl := Option.some.inj (Except.ok.inj hread)
    exact dottedModule_ok hd

theorem classSuffix_ok (h : classSuffix k name v = .ok s) : isIdentifier s = true := by
  obtain ⟨t, -, h⟩ := bind_ok h
  split at h
  · rename_i hid
    obtain rfl := Except.ok.inj h
    exact hid
  · cases h

theorem moduleSuffix_ok (h : moduleSuffix k name v = .ok s) :
    s = "" ∨ isIdentifier ("m" ++ s) = true := by
  obtain ⟨t, -, h⟩ := bind_ok h
  split at h
  · rename_i hid
    obtain rfl := Except.ok.inj h
    rw [Bool.or_eq_true, beq_iff_eq] at hid
    exact hid
  · cases h

theorem positive_ok {n : Nat} (h : positive k name v = .ok n) : 1 ≤ n := by
  obtain ⟨i, -, h⟩ := bind_ok h
  split at h
  · cases h
  · obtain rfl := Except.ok.inj h
    omega

theorem annotationNames_ok {names : List String} (h : annotationNames k name v = .ok names) :
    names ≠ [] ∧ ∀ n ∈ names, Name.isDotted n = true := by
  obtain ⟨ns, -, h⟩ := bind_ok h
  split at h
  · cases h
  · rename_i hne
    simp only at h
    split at h
    · rename_i hbad
      obtain rfl := Except.ok.inj h
      rw [List.isEmpty_iff, List.filter_eq_nil_iff] at hbad
      exact ⟨fun hnil => hne (by rw [hnil]; rfl), fun n hn => by simpa using hbad n hn⟩
    · cases h

end Reading

namespace Config

theorem checked_standard : standard.Checked where
  package := by
    intro p h
    cases h
  factorySuffix := by decide
  moduleSuffix := .inr (by decide)
  depth := by decide
  annotations := ⟨by decide, by decide⟩
  runtime := ⟨by decide, by decide⟩

theorem Checked.of_field {α : Type} {name : String} {read : String → Value → Reading α}
    {store : α → Config → Config} {v : Value} {c c' : Config}
    (hstore : ∀ a, read name v = .ok a → (store a c).Checked)
    (h : (field name read store).2 v c = .ok c') : c'.Checked := by
  change (read name v).map (fun a => store a c) = .ok c' at h
  cases hr : read name v with
  | error e =>
    rw [hr] at h
    cases h
  | ok a =>
    rw [hr] at h
    rw [← Except.ok.inj h]
    exact hstore a hr

/-- A field that was read satisfies its own check and keeps what the others satisfy. -/
theorem Checked.read {k : Coercions} {f : String × (Value → Config → Reading Config)}
    (hf : f ∈ fields k) {v : Value} {c c' : Config} (hc : c.Checked) (h : f.2 v c = .ok c') :
    c'.Checked := by
  simp only [fields, List.mem_cons, List.not_mem_nil, or_false] at hf
  rcases hf with rfl | rfl | rfl | rfl | rfl | rfl | rfl | rfl | rfl | rfl | rfl
  · exact .of_field (fun _ _ => { hc with }) h
  · exact .of_field (fun _ ha => { hc with package := Reading.package_ok ha }) h
  · exact .of_field (fun _ ha => { hc with factorySuffix := Reading.classSuffix_ok ha }) h
  · exact .of_field (fun _ ha => { hc with moduleSuffix := Reading.moduleSuffix_ok ha }) h
  · exact .of_field (fun _ _ => { hc with }) h
  · exact .of_field (fun _ ha => { hc with depth := Reading.positive_ok ha }) h
  · exact .of_field (fun _ ha => { hc with annotations := Reading.annotationNames_ok ha }) h
  · exact .of_field (fun _ _ => { hc with }) h
  · exact .of_field (fun _ _ => { hc with }) h
  · exact .of_field (fun _ _ => { hc with }) h
  · exact .of_field (fun _ ha => { hc with runtime := Reading.dottedModule_ok ha }) h

theorem Checked.readFields {k : Coercions} {values : Attributes}
    {fs : List (String × (Value → Config → Reading Config))} (hfs : ∀ f ∈ fs, f ∈ fields k)
    {c : Config} (hc : c.Checked) : (readFields values fs c).1.Checked := by
  induction fs generalizing c with
  | nil => exact hc
  | cons f fs ih =>
    have hrest := fun g hg => hfs g (List.mem_cons_of_mem f hg)
    rw [Config.readFields]
    split
    · exact ih hrest hc
    · split
      · rename_i hread
        exact ih hrest (hc.read (hfs f List.mem_cons_self) hread)
      · exact ih hrest hc

theorem checked_of_ofSettings {k : Coercions} {s : Settings} {c : Config}
    (h : ofSettings k s = .ok c) : c.Checked := by
  have hfields : (readFields (payload s) (fields k) standard).1.Checked :=
    checked_standard.readFields fun _ hf => hf
  unfold ofSettings at h
  simp only at h
  split at h
  · rw [← Except.ok.inj h]
    exact hfields
  · cases h

end Config

end Foundry
