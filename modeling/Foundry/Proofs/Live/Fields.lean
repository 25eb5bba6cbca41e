import Foundry.Live.DataClass
import Foundry.Proofs.Live.Classes
import Foundry.Proofs.Source.Fields

/-!
Fields of running data classes: what class bodies bind for them, what making a data class adds to a
class, and how many arguments the constructor that is made cannot do without.
-/

namespace Foundry.Live

open Foundry.Source (Definition FieldRole Index Param Params)

/-! ### What a class body binds -/

/-- What a description of a field says. -/
def Field.role (f : Field) : FieldRole :=
  if f.isInitial && f.isArgument then if f.hasDefault then .optional else .required else .leftOut

/-- Whether the argument for a field has a default, if the constructor takes one. -/
def Field.argument? (f : Field) : Option Bool :=
  f.role.argument?

/-- The constructor cannot do without the field. -/
def Field.isRequired (f : Field) : Bool :=
  f.argument? == some false

/-- What a class gives out for an attribute. -/
def given : Object → Object
  | .wrapped "staticmethod" inner => inner
  | .wrapped "classmethod" _ => .thing "method"
  | o => o

/-- What the value says that a class gives out under the name of a field. -/
def roleOf : Option Object → FieldRole
  | none => .bare
  | some (.field f) => f.role
  | some _ => .optional

/-- What stands behind the annotated names of a class, the mark for fields by name left out. -/
def declaredHints (hints : List (String × Object)) : List (String × HintRole) :=
  (hints.map fun e => (e.1, HintRole.of e.2)).filter fun e => decide (e.2 ≠ .namedOnly)

theorem declaredHints_cons (e : String × Object) (rest : List (String × Object)) :
    declaredHints (e :: rest) =
      if HintRole.of e.2 ≠ .namedOnly then (e.1, HintRole.of e.2) :: declaredHints rest
      else declaredHints rest := by
  unfold declaredHints
  rw [List.map_cons, List.filter_cons]
  simp

/-- What stands behind a name that a class annotates. -/
def hintAt (own : Names) (n : String) : Option HintRole :=
  Ordered.lastGiven n (declaredHints (Heap.hintsOf own))

/-- What a class body says of a field by the names it bound. -/
def bodyRole (own : Names) (n : String) : Option FieldRole :=
  match hintAt own n with
  | none => none
  | some .classVariable => none
  | some _ => some (roleOf ((own.get? n).map given))

/-- Whether the constructor takes an argument for an annotated name, and with a default. -/
def HintRole.argument? (found : Option Object) : HintRole → Option Bool
  | .classVariable => none
  | _ => (roleOf found).argument?

namespace Heap

variable {x : Index} {h h' : Heap} {p q : Nat} {n : String} {c : Class}

theorem member?_eq (h : Heap) (p : Nat) (n : String) :
    h.member? p n = (h.rawAttribute p n).map fun found => given found.2 := by
  unfold member?
  split
  · rename_i hfound
    rw [hfound]
    rfl
  · rename_i hfound
    rw [hfound]
    rfl
  · rename_i q o hstatic hclass hfound
    rw [hfound, Option.map_some]
    cases o with
    | wrapped kind inner =>
      unfold given
      dsimp only
      split
      · rename_i heq
        exact absurd heq (hstatic _)
      · rename_i heq
        exact absurd heq (hclass _)
      · rfl
    | _ => rfl
  · rename_i hnone
    rw [hnone]
    rfl

theorem argument?_fieldOf {role : HintRole} {namedOnly : Bool} {f : Field}
    (hf : h.fieldOf p n role namedOnly = .ok f) (hrole : role ≠ .namedOnly) :
    f.argument? = role.argument? (h.member? p n) := by
  unfold fieldOf at hf
  cases hmember : h.member? p n with
  | none =>
    rw [hmember] at hf
    obtain rfl := Except.ok.inj hf
    cases role with
    | namedOnly => exact absurd rfl hrole
    | _ => rfl
  | some o =>
    rw [hmember] at hf
    cases o with
    | field g =>
      obtain rfl := Except.ok.inj hf
      cases role with
      | namedOnly => exact absurd rfl hrole
      | classVariable =>
        simp [Field.argument?, Field.role, HintRole.argument?, FieldRole.argument?]
      | stored => rfl
      | argument => rfl
    | _ =>
      cases role with
      | namedOnly => exact absurd rfl hrole
      | stored =>
        dsimp only at hf
        split at hf
        · cases hf
        · obtain rfl := Except.ok.inj hf
          rfl
      | _ =>
        obtain rfl := Except.ok.inj hf
        rfl

theorem lastGiven_ownFields {namedOnly : Bool} {hints : List (String × Object)}
    {own : List (String × Field)} (hown : h.ownFields p namedOnly hints = .ok own) :
    (Ordered.lastGiven n own).map Field.argument? =
      (Ordered.lastGiven n (declaredHints hints)).map (HintRole.argument? (h.member? p n)) := by
  induction hints generalizing namedOnly own with
  | nil =>
    obtain rfl := Except.ok.inj hown
    rfl
  | cons e rest ih =>
    obtain ⟨name, hint⟩ := e
    unfold ownFields at hown
    rw [declaredHints_cons]
    by_cases hrole : HintRole.of hint = .namedOnly
    · rw [if_neg (not_not_intro hrole)]
      rw [hrole] at hown
      exact ih hown
    · rw [if_pos hrole]
      split at hown
      · rename_i hnamed
        exact absurd hnamed hrole
      · split at hown
        · cases hown
        · rename_i f hf
          cases hrest : h.ownFields p namedOnly rest with
          | error fault =>
            rw [hrest] at hown
            cases hown
          | ok others =>
            rw [hrest] at hown
            obtain rfl := Except.ok.inj hown
            rw [Ordered.lastGiven_cons, Ordered.lastGiven_cons, Option.map_or, Option.map_or,
              ih hrest]
            by_cases hn : name = n
            · subst hn
              rw [if_pos rfl, if_pos rfl, Option.map_some, Option.map_some,
                argument?_fieldOf hf hrole]
            · rw [if_neg hn, if_neg hn]
              rfl

/-! ### Making a data class -/

/-- The fields that a class takes over from the classes behind it. -/
def inheritedFields (h : Heap) (order : List Nat) : Ordered String Field :=
  Ordered.overlay (order.map h.fieldsFrom)

theorem mergeFields_eq (h : Heap) (p : Nat) (own : List (String × Field)) :
    h.mergeFields p own = (h.inheritedFields (h.order p).tail).insertAll own := by
  unfold mergeFields inheritedFields Ordered.overlay
  rw [← List.map_reverse, List.foldl_map]

/-- The constructor that is made from fields. -/
def fieldConstructor (c : Class) (fields : Ordered String Field) : Function :=
  libraryFunction c.module (c.qualname ++ ".__init__") (constructorParams (argumentsOf fields))

/-- The attributes of a class that is made a data class, and the heap with its constructor. -/
def withConstructor (h : Heap) (c : Class) (o : DataOptions) (fields : Ordered String Field) :
    Names × Heap :=
  if o.makesConstructor && !(withoutFields c.attributes).contains "__init__" then
    ((withoutFields c.attributes).insert "__init__" (.function h.functions.size),
      (h.addFunction (fieldConstructor c fields)).2)
  else (withoutFields c.attributes, h)

theorem makeDataClass_eq_ok {o : DataOptions} (hc : h.class? p = some c)
    (hmake : h.makeDataClass p o = .ok h') :
    ∃ own, h.ownFields p o.namedOnly (hintsOf c.attributes) = .ok own ∧
      h' = (h.withConstructor c o (h.mergeFields p own)).2.updateClass p fun c' =>
        { c' with
          attributes := (h.withConstructor c o (h.mergeFields p own)).1
          fields := some (h.mergeFields p own) } := by
  unfold makeDataClass at hmake
  rw [hc] at hmake
  dsimp only at hmake
  cases hown : h.ownFields p o.namedOnly (hintsOf c.attributes) with
  | error f =>
    rw [hown] at hmake
    cases hmake
  | ok own =>
    rw [hown] at hmake
    refine ⟨own, rfl, ?_⟩
    cases hstray : stray? c.attributes with
    | some n =>
      rw [hstray] at hmake
      cases hmake
    | none =>
      rw [hstray] at hmake
      dsimp only [Bind.bind, Except.bind] at hmake
      split at hmake
      · split at hmake
        · cases hmake
        · exact (Except.ok.inj hmake).symm
      · exact (Except.ok.inj hmake).symm

theorem class?_updateClass (h : Heap) (p q : Nat) (f : Class → Class) :
    (h.updateClass p f).class? q = if p = q then (h.class? q).map f else h.class? q :=
  Array.getElem?_modify

theorem withoutFields_get?_none {own : Names} (hn : own.get? n = none) :
    (withoutFields own).get? n = none := by
  rw [withoutFields, Ordered.get?_filterMap, hn, Option.bind_none]

/-! ### The constructor -/

theorem requiredAfterFirst_constructorParams (fields : Ordered String Field) :
    requiredAfterFirst (constructorParams (argumentsOf fields)) =
      some (fields.values.filter Field.isRequired).length := by
  have hlacking : ∀ l : List (String × Field), ((l.map fun e =>
      Param.mk e.1 none (if e.2.hasDefault then some (.constant .none) else none)).filter
        fun p => p.default.isNone).length = (l.filter fun e => !e.2.hasDefault).length := by
    intro l
    rw [List.filter_map, List.length_map]
    congr 2
    funext e
    cases he : e.2.hasDefault with
    | true => simp [Param.default, he]
    | false => simp [Param.default, he]
  have hrequired : ∀ f : Field,
      (!f.hasDefault && (f.isInitial && f.isArgument)) = f.isRequired := by
    rintro ⟨hasDefault, fromFactory, isInitial, isNamedOnly, isStored, isArgument⟩
    cases hasDefault <;> cases isInitial <;> cases isArgument <;> rfl
  have hall : ((argumentsOf fields).filter fun e => !e.2.hasDefault).length =
      (fields.values.filter Field.isRequired).length := by
    rw [argumentsOf, List.filter_filter, Ordered.values, List.filter_map, List.length_map]
    congr 2
    funext e
    exact hrequired e.2
  -- Arguments that are given by name only and the others are counted apart.
  have hsplit := List.length_eq_length_filter_add
    (l := (argumentsOf fields).filter fun e => !e.2.hasDefault) fun e => !e.2.isNamedOnly
  simp only [Bool.not_not] at hsplit
  rw [List.filter_comm, List.filter_comm (fun e : String × Field => e.2.isNamedOnly)] at hsplit
  rw [← hall, hsplit, ← hlacking, ← hlacking]
  rfl

end Heap

end Foundry.Live
