import Foundry.Extraction

/-!
Markers as extraction reads them. What is wrong with a marker is said with the text of its
identifier or of its type. Neither need have one, and then the declaration is not even rejected.
-/

namespace Foundry

open Text

/-! ### Numbers without a text -/

theorem Value.reprInt_of_le {n : Int} (h : Nat.pow 10 digitLimit ≤ n.natAbs) :
    reprInt n = .error .tooLong := by
  rw [reprInt, if_neg (Nat.not_lt.2 h)]

/-- The least whole number without a text. -/
def Value.enormous : Value := .int (Nat.pow 10 digitLimit)

theorem Value.repr_enormous : enormous.repr = .error .tooLong := by
  rw [enormous, repr]
  exact reprInt_of_le (Nat.le_of_eq (Int.natAbs_natCast _).symm)

/-! ### Refusals -/

def Fault.IsRejection (f : Fault) : Prop :=
  ∃ r, f = .rejected r

/-- Why a text is missing, if it is. -/
def Unshown.of? : Except Unshown String → Option Unshown
  | .ok _ => none
  | .error u => some u

/-- What is raised in place of a rejection for a marker: the rejection has the text of its
identifier, when that is no text itself, or that of its type, and neither need have one. -/
def Marking.unshown? (a : Marking) : Option Unshown :=
  match a.identifier with
  | .expression _ => none
  | .none => none
  | .text s => if strip s == "" then none else Unshown.of? (describeType a.type)
  | v => Unshown.of? v.repr

/-- A declaration with a marker that can be rejected for whatever is wrong with it. -/
def Declaration.IsWorded (d : Declaration) : Prop :=
  ∃ a, d.marking = some a ∧ a.unshown? = none

instance (d : Declaration) : Decidable d.IsWorded :=
  match hd : d.marking with
  | none => isFalse fun ⟨_, ha, _⟩ => nomatch hd.symm.trans ha
  | some a => decidable_of_iff (a.unshown? = none)
      ⟨fun h => ⟨a, hd, h⟩, fun ⟨_, hb, h⟩ => Option.some.inj (hb.symm.trans hd) ▸ h⟩

/-- Why a declaration cannot even be rejected: it has no marker, or its marker has no text. -/
inductive Declaration.Bars (d : Declaration) : Fault → Prop
  | unmarked : d.marking = none → Bars d (.unmarked d.qualifiedName)
  | unshown {a : Marking} {u : Unshown} :
    d.marking = some a → a.unshown? = some u → Bars d (.unshown u)

theorem Declaration.Bars.not_isWorded {d : Declaration} {f : Fault} (h : d.Bars f) :
    ¬ d.IsWorded := by
  rintro ⟨a, ha, hnone⟩
  cases h with
  | unmarked hd => cases hd.symm.trans ha
  | unshown hd hu =>
    obtain rfl := Option.some.inj (hd.symm.trans ha)
    cases hu.symm.trans hnone

/-- A type is refused in words, or with what is raised when they are asked for. -/
theorem unresolved_cases (owner : Option Declaration) (type : Value) (cause : Option String) :
    Unshown.of? (describeType type) = none ∧ (unresolved owner type cause).IsRejection ∨
      ∃ u, Unshown.of? (describeType type) = some u ∧ unresolved owner type cause = .unshown u := by
  unfold unresolved
  cases describeType type with
  | ok shown => exact .inl ⟨rfl, _, rfl⟩
  | error u => exact .inr ⟨u, rfl, rfl⟩

/-- An identifier that is no text is refused in words, or with what is raised for its own. -/
theorem notText_cases (owner : Declaration) (v : Value) :
    (∃ r, notText owner v = .rejected r) ∧ Unshown.of? v.repr = none ∨
      ∃ u, notText owner v = .unshown u ∧ Unshown.of? v.repr = some u := by
  unfold notText
  cases v.repr with
  | ok shown => exact .inl ⟨⟨_, rfl⟩, rfl⟩
  | error u => exact .inr ⟨u, rfl, rfl⟩

theorem identifierOf_cases (d : Declaration) (a : Marking) :
    (∃ s, a.identifier = .text s ∧ strip s ≠ "" ∧ identifierOf d a.identifier = .ok s ∧
      a.unshown? = Unshown.of? (describeType a.type)) ∨
    ∃ f, identifierOf d a.identifier = .error f ∧
      ((∃ r, f = .rejected r) ∧ a.unshown? = none ∨
        ∃ u, f = .unshown u ∧ a.unshown? = some u) := by
  obtain ⟨v, type⟩ := a
  cases v with
  | text s =>
    by_cases hs : strip s = ""
    · exact .inr ⟨.rejected (.identifierBlank d), by simp [identifierOf, hs],
        .inl ⟨⟨_, rfl⟩, by simp [Marking.unshown?, hs]⟩⟩
    · exact .inl ⟨s, rfl, hs, by simp [identifierOf, hs], by simp [Marking.unshown?, hs]⟩
  | expression source => exact .inr ⟨_, rfl, .inl ⟨⟨_, rfl⟩, rfl⟩⟩
  | none => exact .inr ⟨_, rfl, .inl ⟨⟨_, rfl⟩, rfl⟩⟩
  | _ => exact .inr ⟨_, rfl, notText_cases d _⟩

theorem unshown?_enormous (type : Value) :
    (⟨Value.enormous, type⟩ : Marking).unshown? = some .tooLong :=
  congrArg Unshown.of? Value.repr_enormous

end Foundry
