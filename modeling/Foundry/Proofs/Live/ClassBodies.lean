import Foundry.Proofs.Live.Decorated
import Foundry.Proofs.Live.Execution

/-!
Bodies of data classes as they are executed: fields that are annotated, with a default or a call
that describes them, and methods. The names that such a body binds say of each field what its source
says.
-/

namespace Foundry.Live

open Foundry.Source (Definition Expr FieldRole Index Keyword Stmt)

variable {x : Index} {d : Definition} {module : String} {known : String → Option Object}

/-! ### Expressions that are looked up -/

/-- What an expression stands for that is a constant, a known name, or a type with an argument. -/
def plainObject? (known : String → Option Object) : Expr → Option Object
  | .constant c => some (.value (Index.constantValue c))
  | .name n => known n
  | .subscript (.name n) (.name k) =>
    match known n, known k with
    | some (.tool t), some _ => some (.subscripted (.tool t))
    | _, _ => none
  | _ => none

/-- What the keywords of a call stand for. -/
def plainKeywords? (known : String → Option Object) : List Keyword → Option (List (String × Object))
  | [] => some []
  | .mk (some n) e :: rest =>
    match plainObject? known e, plainKeywords? known rest with
    | some o, some others => some ((n, o) :: others)
    | _, _ => none
  | .mk none _ :: _ => none

/-! ### Keywords as they are written and as they are given -/

/-- The value that is written last under a name. -/
def writtenOption (keywords : List Keyword) (n : String) : Option Expr :=
  ((keywords.filter fun k => k.name == some n).getLast?).map (·.value)

theorem writtenOption_cons (k : Keyword) (rest : List Keyword) (n : String) :
    writtenOption (k :: rest) n =
      (writtenOption rest n).or (if k.name = some n then some k.value else none) := by
  unfold writtenOption
  rw [List.filter_cons]
  by_cases hn : k.name = some n
  · simp [hn, List.getLast?_cons]
  · simp [hn]

theorem writtenOption_eq_none {keywords : List Keyword} {n : String}
    (hn : some n ∉ keywords.map Keyword.name) : writtenOption keywords n = none := by
  induction keywords with
  | nil => rfl
  | cons k rest ih =>
    rw [List.map_cons, List.mem_cons, not_or] at hn
    rw [writtenOption_cons, ih hn.2, if_neg (Ne.symm hn.1), Option.none_or]

/-- An option is tested among all keywords, where no name is given twice. -/
theorem any_option {keywords : List Keyword} {n : String} {p : Expr → Bool}
    (hdistinct : (keywords.map Keyword.name).Nodup) :
    (keywords.any fun k => k.name == some n && p k.value) =
      ((writtenOption keywords n).map p).getD false := by
  induction keywords with
  | nil => rfl
  | cons k rest ih =>
    rw [List.map_cons, List.nodup_cons] at hdistinct
    have hrest := ih hdistinct.2
    rw [List.any_cons, writtenOption_cons]
    by_cases hn : k.name = some n
    · rw [writtenOption_eq_none (hn ▸ hdistinct.1)] at hrest ⊢
      rw [hrest, if_pos hn, beq_iff_eq.2 hn, Bool.true_and, Option.none_or]
      exact Bool.or_false _
    · rw [if_neg hn, Option.or_none, beq_false_of_ne hn, Bool.false_and, Bool.false_or, hrest]

theorem plainKeywords_cons {k : Keyword} {rest : List Keyword} {named : List (String × Object)}
    (h : plainKeywords? known (k :: rest) = some named) :
    ∃ n o others, k.name = some n ∧ plainObject? known k.value = some o ∧
      plainKeywords? known rest = some others ∧ named = (n, o) :: others := by
  obtain ⟨n, e⟩ := k
  cases n with
  | none => cases h
  | some n =>
    unfold plainKeywords? at h
    split at h
    · rename_i o others ho hothers
      exact ⟨n, o, others, rfl, ho, hothers, (Option.some.inj h).symm⟩
    · cases h

theorem map_name_of_plainKeywords {keywords : List Keyword} {named : List (String × Object)}
    (hkeywords : plainKeywords? known keywords = some named) :
    keywords.map Keyword.name = named.map fun e => some e.1 := by
  induction keywords generalizing named with
  | nil =>
    obtain rfl := Option.some.inj hkeywords
    rfl
  | cons k rest ih =>
    obtain ⟨n, o, others, hn, -, hothers, rfl⟩ := plainKeywords_cons hkeywords
    rw [List.map_cons, List.map_cons, ih hothers, hn]

theorem nodup_name_of_plainKeywords {keywords : List Keyword} {named : List (String × Object)}
    (hkeywords : plainKeywords? known keywords = some named)
    (hdistinct : (named.map Prod.fst).Nodup) : (keywords.map Keyword.name).Nodup := by
  have hnames : (named.map fun e => some e.1) = (named.map Prod.fst).map some := by
    rw [List.map_map]
    rfl
  rw [map_name_of_plainKeywords hkeywords, hnames]
  exact hdistinct.map fun _ _ h => Option.some.inj h

/-- What a call is given under a name is what is written there, where no name is given twice. -/
theorem lookup_of_plainKeywords {keywords : List Keyword} {named : List (String × Object)}
    (hkeywords : plainKeywords? known keywords = some named)
    (hdistinct : (named.map Prod.fst).Nodup) (n : String) :
    named.lookup n = (writtenOption keywords n).bind (plainObject? known) := by
  induction keywords generalizing named with
  | nil =>
    obtain rfl := Option.some.inj hkeywords
    rfl
  | cons k rest ih =>
    obtain ⟨k', o, others, hname, ho, hothers, rfl⟩ := plainKeywords_cons hkeywords
    rw [List.map_cons, List.nodup_cons] at hdistinct
    rw [writtenOption_cons]
    by_cases hn : n = k'
    · subst hn
      have hnone : writtenOption rest n = none := by
        refine writtenOption_eq_none fun hmem => hdistinct.1 ?_
        rw [map_name_of_plainKeywords hothers] at hmem
        obtain ⟨e', he', hsame⟩ := List.mem_map.1 hmem
        exact List.mem_map.2 ⟨e', he', Option.some.inj hsame⟩
      rw [hnone, Option.none_or, if_pos hname, Option.bind_some, List.lookup_cons_self]
      exact ho.symm
    · have hne : k.name ≠ some n := fun heq =>
        hn (Option.some.inj (heq.symm.trans hname))
      rw [if_neg hne, Option.or_none, List.lookup_cons, beq_false_of_ne hn]
      exact ih hothers hdistinct.2

theorem exists_plainObject {keywords : List Keyword} {named : List (String × Object)} {k : Keyword}
    (hkeywords : plainKeywords? known keywords = some named) (hk : k ∈ keywords) :
    ∃ o, plainObject? known k.value = some o := by
  induction keywords generalizing named with
  | nil => cases hk
  | cons k' rest ih =>
    obtain ⟨-, o, others, -, ho, hothers, -⟩ := plainKeywords_cons hkeywords
    rcases List.mem_cons.1 hk with rfl | hk
    · exact ⟨o, ho⟩
    · exact ih hothers hk

theorem isSome_lookup_of_plainKeywords {keywords : List Keyword} {named : List (String × Object)}
    (hkeywords : plainKeywords? known keywords = some named)
    (hdistinct : (named.map Prod.fst).Nodup) (n : String) :
    (named.lookup n).isSome = (writtenOption keywords n).isSome := by
  rw [lookup_of_plainKeywords hkeywords hdistinct]
  cases hwritten : writtenOption keywords n with
  | none => rfl
  | some e =>
    obtain ⟨k, hk, rfl⟩ := Option.map_eq_some_iff.1 hwritten
    obtain ⟨o, ho⟩ :=
      exists_plainObject hkeywords (List.mem_of_mem_filter (List.mem_of_getLast? hk))
    rw [Option.bind_some, ho]
    rfl

/-- The truth value of an option is written as it is given. -/
theorem option_of_plainKeywords {keywords : List Keyword} {named : List (String × Object)}
    {n : String} (hkeywords : plainKeywords? known keywords = some named)
    (hdistinct : (named.map Prod.fst).Nodup)
    (hbool : ∀ e, writtenOption keywords n = some e → ∃ b, e = .constant (.bool b)) :
    option named n true = !((writtenOption keywords n).map Index.isFalse).getD false := by
  unfold option
  rw [lookup_of_plainKeywords hkeywords hdistinct]
  cases hwritten : writtenOption keywords n with
  | none => rfl
  | some e =>
    obtain ⟨b, rfl⟩ := hbool e hwritten
    cases b with
    | true => rfl
    | false => rfl

/-! ### Annotated fields -/

/-- The value behind an annotated name, if there is one, as the class body binds it. A call describes
the field by keywords, each of which is plain and the one that leaves the field out a truth value. -/
inductive FieldValue (x : Index) (module : String) (known : String → Option Object) :
    Option Expr → Option Object → Prop
  | bare : FieldValue x module known none none
  | constant (c : Source.Constant) :
    FieldValue x module known (some (.constant c)) (some (.value (Index.constantValue c)))
  | described {f : String} {keywords : List Keyword} {named : List (String × Object)} :
    known f = some (.tool .field) → x.resolveExpr module (.name f) = some "dataclasses.field" →
    plainKeywords? known keywords = some named → (named.map Prod.fst).Nodup →
    (∀ e, writtenOption keywords "init" = some e → ∃ b, e = .constant (.bool b)) →
    FieldValue x module known (some (.call (.name f) [] keywords))
      (some (.field (fieldOfArguments named)))

/-- What a value says of a field is what is bound for it. -/
theorem FieldValue.role {value : Option Expr} {o? : Option Object}
    (hv : FieldValue x module known value o?) :
    roleOf (o?.map given) = x.roleOfValue module value := by
  cases hv with
  | bare => rfl
  | constant c => rfl
  | @described f keywords named _ hf hkeywords hdistinct hinit =>
    have hrole : x.roleOfValue module (some (.call (.name f) [] keywords)) =
        Index.roleOfOptions keywords := by
      rw [Index.roleOfValue, hf]
      rfl
    have hoptions : Index.roleOfOptions keywords =
        if ((writtenOption keywords "init").map Index.isFalse).getD false then .leftOut
        else if (writtenOption keywords "default").isSome ||
          (writtenOption keywords "default_factory").isSome then .optional
        else .required := rfl
    have hinitial := option_of_plainKeywords hkeywords hdistinct hinit
    have hbound : roleOf (some (given (.field (fieldOfArguments named)))) =
        (fieldOfArguments named).role := rfl
    rw [hrole, hoptions, Option.map_some, hbound, Field.role, fieldOfArguments, hinitial,
      isSome_lookup_of_plainKeywords hkeywords hdistinct,
      isSome_lookup_of_plainKeywords hkeywords hdistinct]
    cases ((writtenOption keywords "init").map Index.isFalse).getD false <;> rfl

/-- What an annotation stands for; the source tells those that declare no field. -/
structure FieldHint (x : Index) (module : String) (known : String → Option Object) (hint : Expr)
    (o : Object) : Prop where
  stands : plainObject? known hint = some o
  fieldless : x.isFieldless module hint =
    decide (HintRole.of o = .classVariable ∨ HintRole.of o = .namedOnly)

/-- The names of a class after a name got a value, if it got one. -/
def withValue (own : Names) (n : String) : Option Object → Names
  | some o => own.insert n o
  | none => own

/-- The names of a class after a name was annotated. -/
def withField (own : Names) (n : String) (o? : Option Object) (hint : Object) : Names :=
  (withValue own n o?).insert "__annotations__"
    (.hints ((Heap.hintsOf (withValue own n o?)).filter (fun e => e.1 != n) ++ [(n, hint)]))

section Names

variable {own : Names} {n k : String} {o : Object} {o? : Option Object} {hint : Object}

theorem get?_withField (hk : k ≠ "__annotations__") :
    (withField own n o? hint).get? k = if k = n then o?.or (own.get? k) else own.get? k := by
  rw [withField, Ordered.get?_insert_of_ne _ _ hk]
  cases o? with
  | none => rw [withValue, Option.none_or, ite_self]
  | some o =>
    rw [withValue]
    by_cases hn : k = n
    · rw [if_pos hn, hn, Ordered.get?_insert_self, Option.some_or]
    · rw [if_neg hn, Ordered.get?_insert_of_ne _ _ hn]

theorem hintsOf_insert (hn : n ≠ "__annotations__") :
    Heap.hintsOf (own.insert n o) = Heap.hintsOf own := by
  unfold Heap.hintsOf
  rw [Ordered.get?_insert_of_ne _ _ hn.symm]

theorem hintAt_insert (hn : n ≠ "__annotations__") : hintAt (own.insert n o) k = hintAt own k := by
  rw [hintAt, hintAt, hintsOf_insert hn]

theorem lastGiven_declaredHints_cons (e : String × Object) (rest : List (String × Object)) :
    Ordered.lastGiven k (declaredHints (e :: rest)) =
      (Ordered.lastGiven k (declaredHints rest)).or
        (if e.1 = k ∧ HintRole.of e.2 ≠ .namedOnly then some (HintRole.of e.2) else none) := by
  rw [declaredHints_cons]
  by_cases hrole : HintRole.of e.2 = .namedOnly
  · rw [if_neg (not_not_intro hrole), if_neg fun h => h.2 hrole, Option.or_none]
  · rw [if_pos hrole, Ordered.lastGiven_cons]
    simp [hrole]

theorem lastGiven_declaredHints_filter (hints : List (String × Object)) :
    Ordered.lastGiven k (declaredHints (hints.filter fun e => e.1 != n)) =
      if k = n then none else Ordered.lastGiven k (declaredHints hints) := by
  induction hints with
  | nil => exact (ite_self _).symm
  | cons e rest ih =>
    rw [List.filter_cons, lastGiven_declaredHints_cons]
    by_cases hk : k = n
    · subst hk
      rw [if_pos rfl] at ih ⊢
      by_cases he : e.1 = k
      · simp [he, ih]
      · simp [he, lastGiven_declaredHints_cons, ih]
    · rw [if_neg hk] at ih ⊢
      by_cases he : e.1 = n
      · have hne : e.1 ≠ k := fun h => hk (h.symm.trans he)
        simp [he, ih, Ne.symm hk]
      · simp [he, lastGiven_declaredHints_cons, ih]

theorem hintAt_withField (hn : n ≠ "__annotations__") :
    hintAt (withField own n o? hint) k =
      if k = n then if HintRole.of hint = .namedOnly then none else some (HintRole.of hint)
      else hintAt own k := by
  have hvalued : Heap.hintsOf (withValue own n o?) = Heap.hintsOf own := by
    cases o? with
    | none => rfl
    | some o => exact hintsOf_insert hn
  have hhints : Heap.hintsOf (withField own n o? hint) =
      (Heap.hintsOf own).filter (fun e => e.1 != n) ++ [(n, hint)] := by
    rw [withField, hvalued, Heap.hintsOf, Ordered.get?_insert_self]
  have happend : ∀ hints more : List (String × Object), declaredHints (hints ++ more) =
      declaredHints hints ++ declaredHints more := by
    intro hints more
    rw [declaredHints, List.map_append, List.filter_append]
    rfl
  have hlast : Ordered.lastGiven k (declaredHints [(n, hint)]) =
      if n = k ∧ HintRole.of hint ≠ .namedOnly then some (HintRole.of hint) else none := by
    rw [lastGiven_declaredHints_cons]
    exact Option.none_or
  rw [hintAt, hhints, happend, Ordered.lastGiven_append, lastGiven_declaredHints_filter, hlast]
  by_cases hk : k = n
  · subst hk
    by_cases hrole : HintRole.of hint = .namedOnly
    · simp [hrole]
    · simp [hrole]
  · simp [hk, Ne.symm hk, hintAt]

theorem bodyRole_insert (hn : n ≠ "__annotations__") (hnone : hintAt own n = none) :
    bodyRole (own.insert n o) k = bodyRole own k := by
  unfold bodyRole
  rw [hintAt_insert hn]
  by_cases hk : k = n
  · rw [hk, hnone]
  · rw [Ordered.get?_insert_of_ne _ _ hk]

/-- What a class body says of its fields after another one was annotated. -/
theorem bodyRole_withField {value : Option Expr} {e : Expr} (hn : n ≠ "__annotations__")
    (hk : k ≠ "__annotations__") (hnone : own.get? n = none) (hh : FieldHint x module known e hint)
    (hv : FieldValue x module known value o?) :
    bodyRole (withField own n o? hint) k =
      if k = n then ((x.fieldIn module (.annotated (.name n) e value)).map Prod.snd)
      else bodyRole own k := by
  unfold bodyRole
  rw [hintAt_withField hn, get?_withField hk]
  by_cases hkn : k = n
  · have hfield : x.fieldIn module (.annotated (.name n) e value) =
        if x.isFieldless module e then none else some (n, x.roleOfValue module value) := rfl
    subst hkn
    rw [if_pos rfl, if_pos rfl, if_pos rfl, hnone, Option.or_none, hfield, hh.fieldless, ← hv.role]
    cases HintRole.of hint <;> rfl
  · rw [if_neg hkn, if_neg hkn, if_neg hkn]

end Names

/-! ### Members of a class body -/

/-- The name that a statement of a class body binds. -/
def memberName? : Stmt → Option String
  | .annotated (.name n) _ _ => some n
  | .functionDef _ _ n _ _ _ => some n
  | _ => none

/-- The names that a class body binds. -/
def memberNames (body : List Stmt) : List String :=
  body.filterMap memberName?

theorem memberNames_field (n : String) (hint : Expr) (value : Option Expr) (body : List Stmt) :
    memberNames (.annotated (.name n) hint value :: body) = n :: memberNames body := rfl

theorem memberNames_method (marker : String) (k : Method) (body : List Stmt) :
    memberNames (k.statement marker :: body) = k.name :: memberNames body := rfl

/-- Statements that annotate a field, make a method or do nothing. -/
inductive Member (x : Index) (module : String) (known : String → Option Object) : Stmt → Prop
  | pass : Member x module known .pass
  | field {n : String} {hint : Expr} {value : Option Expr} {o : Object} {o? : Option Object} :
    FieldHint x module known hint o → FieldValue x module known value o? →
    Member x module known (.annotated (.name n) hint value)
  | method {marker : String} {k : Method} : k.IsPlain →
    (k.isAbstract = true → known marker = some (.tool .abstractMethod)) →
    (k.name = "__init__" → k.isAbstract = false) → Member x module known (k.statement marker)

/-- Members are bound one after another. -/
inductive BindsMembers (x : Index) (module : String) (known : String → Option Object) :
    List Stmt → Names → Names → Prop
  | nil {own : Names} : BindsMembers x module known [] own own
  | pass {body : List Stmt} {start own : Names} : BindsMembers x module known body start own →
    BindsMembers x module known (.pass :: body) start own
  | field {body : List Stmt} {start own : Names} {n : String} {hint : Expr} {value : Option Expr}
      {o : Object} {o? : Option Object} : FieldHint x module known hint o →
    FieldValue x module known value o? →
    BindsMembers x module known body (withField start n o? o) own →
    BindsMembers x module known (.annotated (.name n) hint value :: body) start own
  | method {body : List Stmt} {start own : Names} {marker : String} {k : Method} {p : Nat} :
    BindsMembers x module known body (start.insert k.name (.function p)) own →
    BindsMembers x module known (k.statement marker :: body) start own

namespace BindsMembers

variable {body : List Stmt} {start own : Names} {n : String}

theorem get?_of_notMem (hb : BindsMembers x module known body start own)
    (hn : n ∉ memberNames body) (hne : n ≠ "__annotations__") :
    own.get? n = start.get? n := by
  induction hb with
  | nil => rfl
  | pass _ ih => exact ih hn
  | @field body start own k _ _ _ o? _ _ _ ih =>
    rw [memberNames_field, List.mem_cons, not_or] at hn
    rw [ih hn.2, get?_withField hne, if_neg hn.1]
  | method _ ih =>
    rw [memberNames_method, List.mem_cons, not_or] at hn
    rw [ih hn.2, Ordered.get?_insert_of_ne _ _ hn.1]

theorem hintAt_of_notMem (hb : BindsMembers x module known body start own)
    (hn : n ∉ memberNames body) (hreserved : "__annotations__" ∉ memberNames body) :
    hintAt own n = hintAt start n := by
  induction hb with
  | nil => rfl
  | pass _ ih => exact ih hn hreserved
  | field _ _ _ ih =>
    rw [memberNames_field, List.mem_cons, not_or] at hn hreserved
    rw [ih hn.2 hreserved.2, hintAt_withField (Ne.symm hreserved.1), if_neg hn.1]
  | method _ ih =>
    rw [memberNames_method, List.mem_cons, not_or] at hn hreserved
    rw [ih hn.2 hreserved.2, hintAt_insert (Ne.symm hreserved.1)]

/-- The names that are still to be bound are in no use. -/
def Unused (own : Names) (ns : List String) : Prop :=
  ∀ n ∈ ns, own.get? n = none ∧ hintAt own n = none ∧ n ≠ "__annotations__"

theorem Unused.withField {o : Object} {o? : Option Object} {ns : List String}
    (hu : Unused own (n :: ns)) (hn : n ∉ ns) : Unused (withField own n o? o) ns := by
  intro k hk
  obtain ⟨hget, hhint, hne⟩ := hu k (List.mem_cons_of_mem n hk)
  have hkn : k ≠ n := fun heq => hn (heq ▸ hk)
  rw [get?_withField hne, hintAt_withField (hu n List.mem_cons_self).2.2, if_neg hkn, if_neg hkn]
  exact ⟨hget, hhint, hne⟩

theorem Unused.insert {o : Object} {ns : List String} (hu : Unused own (n :: ns)) (hn : n ∉ ns) :
    Unused (own.insert n o) ns := by
  intro k hk
  obtain ⟨hget, hhint, hne⟩ := hu k (List.mem_cons_of_mem n hk)
  have hkn : k ≠ n := fun heq => hn (heq ▸ hk)
  rw [Ordered.get?_insert_of_ne _ _ hkn, hintAt_insert (hu n List.mem_cons_self).2.2]
  exact ⟨hget, hhint, hne⟩

/-- What a class body says of a field by the names it bound is what its source says. -/
theorem bodyRole_eq (hb : BindsMembers x module known body start own)
    (hdistinct : (memberNames body).Nodup)
    (hunused : Unused start (memberNames body)) (hn : n ≠ "__annotations__") :
    bodyRole own n =
      (Ordered.lastGiven n (body.filterMap (x.fieldIn module))).or (bodyRole start n) := by
  induction hb with
  | nil => rfl
  | pass _ ih => exact ih hdistinct hunused
  | @field body start own k hint value o o? hh hv _ ih =>
    rw [memberNames_field] at hdistinct hunused
    obtain ⟨hnone, hhint, hk⟩ := hunused k List.mem_cons_self
    rw [List.nodup_cons] at hdistinct
    rw [ih hdistinct.2 (hunused.withField hdistinct.1), bodyRole_withField hk hn hnone hh hv,
      Ordered.lastGiven_filterMap_cons, Option.or_assoc]
    have hfield : x.fieldIn module (.annotated (.name k) hint value) =
        if x.isFieldless module hint then none else some (k, x.roleOfValue module value) := rfl
    have hbare : bodyRole start k = none := by rw [bodyRole, hhint]
    congr 1
    rw [hfield]
    by_cases hnk : n = k
    · subst hnk
      cases x.isFieldless module hint with
      | true => simp [hbare]
      | false => simp
    · cases x.isFieldless module hint with
      | true => simp [hnk]
      | false => simp [hnk, Ne.symm hnk]
  | @method body start own marker k p _ ih =>
    have hfield : x.fieldIn module (k.statement marker) = none := rfl
    rw [memberNames_method] at hdistinct hunused
    obtain ⟨-, hhint, hk⟩ := hunused k.name List.mem_cons_self
    rw [List.nodup_cons] at hdistinct
    rw [ih hdistinct.2 (hunused.insert hdistinct.1), bodyRole_insert hk hhint,
      List.filterMap_cons_none hfield]

/-- What a class body annotates as a variable of the class is annotated so in its source. -/
theorem mem_classVariables (hb : BindsMembers x module known body start own)
    (hdistinct : (memberNames body).Nodup) (hunused : Unused start (memberNames body))
    (hvariable : hintAt own n = some .classVariable) :
    hintAt start n = some .classVariable ∨ n ∈ body.filterMap (x.variableIn module) := by
  induction hb with
  | nil => exact .inl hvariable
  | pass _ ih => exact ih hdistinct hunused hvariable
  | @field body start own k hint value o o? hh hv _ ih =>
    rw [memberNames_field] at hdistinct hunused
    obtain ⟨-, -, hk⟩ := hunused k List.mem_cons_self
    rw [List.nodup_cons] at hdistinct
    rw [List.filterMap_cons, Index.variableIn, hh.fieldless]
    rcases ih hdistinct.2 (hunused.withField hdistinct.1) hvariable with hstart | hmem
    · rw [hintAt_withField hk] at hstart
      by_cases hnk : n = k
      · subst hnk
        rw [if_pos rfl] at hstart
        have hrole : HintRole.of o = .classVariable := by
          split at hstart
          · cases hstart
          · exact Option.some.inj hstart
        simp [hrole]
      · rw [if_neg hnk] at hstart
        exact .inl hstart
    · right
      split
      · exact hmem
      · exact List.mem_cons_of_mem _ hmem
  | @method body start own marker k p _ ih =>
    have hnone : x.variableIn module (k.statement marker) = none := rfl
    rw [memberNames_method] at hdistinct hunused
    obtain ⟨-, -, hk⟩ := hunused k.name List.mem_cons_self
    rw [List.nodup_cons] at hdistinct
    rw [List.filterMap_cons_none hnone]
    have hrest := ih hdistinct.2 (hunused.insert hdistinct.1) hvariable
    rwa [hintAt_insert hk] at hrest

end BindsMembers

/-- A class body with a constructor is known to have one. -/
theorem isSome_ownConstructor? {c : Source.ClassParts} {marker : String} {k : Method}
    (hparts : d.parts = some c) (hk : k.statement marker ∈ c.body) (hname : k.name = "__init__")
    (habs : k.isAbstract = false) : (x.ownConstructor? d).isSome = true := by
  rw [Index.ownConstructor?, hparts, List.getLast?_isSome]
  refine List.ne_nil_of_mem (a := k.params) (List.mem_filterMap.2 ⟨_, hk, ?_⟩)
  have hundecorated : x.decoratorNames d.module [] = [] := rfl
  simp [Method.statement, hname, habs, hundecorated]

theorem fst_mem_memberNames {body : List Stmt} {n : String}
    (hn : n ∈ (body.filterMap (x.fieldIn module)).map Prod.fst) : n ∈ memberNames body := by
  obtain ⟨e, he, rfl⟩ := List.mem_map.1 hn
  obtain ⟨st, hst, hfield⟩ := List.mem_filterMap.1 he
  refine List.mem_filterMap.2 ⟨st, hst, ?_⟩
  unfold Index.fieldIn at hfield
  split at hfield
  · split at hfield
    · cases hfield
    · obtain rfl := Option.some.inj hfield
      rfl
  · cases hfield

/-- Names that a class body has before its statements run, and names with a meaning of their own. -/
def reservedNames : List String :=
  ["__module__", "__qualname__", "__annotations__", "__new__"]

/-- The names that a class body with members binds say what the source says of its fields. -/
theorem bindsFields_of_members {h : Heap} {s : Surroundings} {name : String} {own : Names}
    {c : Source.ClassParts} (hparts : d.parts = some c)
    (hmembers : ∀ st ∈ c.body, Member x d.module known st)
    (hb : BindsMembers x d.module known c.body (startingNamesOf h s name) own)
    (hdistinct : (memberNames c.body).Nodup) (hreserved : ∀ n ∈ reservedNames, n ∉ memberNames c.body)
    (hinit : ∀ hint value, .annotated (.name "__init__") hint value ∉ c.body) :
    BindsFields x d (own.erase "__qualname__") := by
  have hbare : ∀ n, hintAt (startingNamesOf h s name) n = none := by
    intro n
    rw [hintAt, Heap.hintsOf, get?_startingNamesOf_eq_none (by decide)]
    rfl
  have hannotations : "__annotations__" ∉ memberNames c.body := hreserved _ (by decide)
  have hunused : BindsMembers.Unused (startingNamesOf h s name) (memberNames c.body) := by
    intro n hn
    refine ⟨get?_startingNamesOf_eq_none fun hmem => ?_, hbare n,
      fun heq => hannotations (heq ▸ hn)⟩
    exact hreserved n (List.mem_append_left ["__annotations__", "__new__"] hmem) hn
  have hhint : ∀ n, hintAt (own.erase "__qualname__") n = hintAt own n := by
    intro n
    rw [hintAt, hintAt, Heap.hintsOf, Heap.hintsOf, Ordered.get?_erase, if_neg (by decide)]
  have hunbound : ∀ n, n ∉ memberNames c.body → n ∉ ["__module__", "__qualname__"] →
      n ≠ "__annotations__" → (own.erase "__qualname__").get? n = none := by
    intro n hn hstart hne
    rw [Ordered.get?_erase, ite_eq_left_iff]
    intro _
    rw [hb.get?_of_notMem hn hne, get?_startingNamesOf_eq_none hstart]
  refine ⟨hunbound _ (hreserved _ (by decide)) (by decide) (by decide), fun hnone => ?_,
    fun n => ?_, fun n hvariable => ?_⟩
  · refine hunbound _ (fun hmem => ?_) (by decide) (by decide)
    obtain ⟨st, hst, hname⟩ := List.mem_filterMap.1 hmem
    have hst' := hst
    cases hmembers st hst with
    | pass => cases hname
    | @field n hint value =>
      obtain rfl := Option.some.inj hname
      exact hinit hint value hst
    | @method marker k _ _ habs =>
      have hsome := isSome_ownConstructor? (x := x) hparts hst (Option.some.inj hname)
        (habs (Option.some.inj hname))
      rw [hnone] at hsome
      cases hsome
  · have hrole : x.fieldRole? d n =
        Ordered.lastGiven n (c.body.filterMap (x.fieldIn d.module)) := by
      rw [Index.fieldRole?, Index.ownFields, hparts]
    by_cases hn : n ∈ memberNames c.body
    · have hne : n ≠ "__annotations__" := fun heq => hannotations (heq ▸ hn)
      have hqualname : n ≠ "__qualname__" := fun heq => hreserved _ (by decide) (heq ▸ hn)
      have hnone : bodyRole (startingNamesOf h s name) n = none := by rw [bodyRole, hbare]
      have herase : bodyRole (own.erase "__qualname__") n = bodyRole own n := by
        rw [bodyRole, bodyRole, hhint, Ordered.get?_erase, if_neg hqualname]
      rw [hrole, herase, hb.bodyRole_eq hdistinct hunused hne, hnone, Option.or_none]
    · rw [hrole, Ordered.lastGiven_eq_none fun hmem => hn (fst_mem_memberNames hmem), bodyRole,
        hhint, hb.hintAt_of_notMem hn hannotations, hbare]
  · rw [hhint] at hvariable
    rw [Index.classVariables, hparts]
    rcases hb.mem_classVariables hdistinct hunused hvariable with hstart | hmem
    · rw [hbare] at hstart
      cases hstart
    · exact hmem

end Foundry.Live
