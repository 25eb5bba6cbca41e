import Foundry.Proofs.Ordered
import Foundry.Proofs.Source.Walks
import Foundry.Source.Description

/-!
Fields of data classes as the source reads them: what each class body says of its fields, the table
that a data class inherits from its bases, and the same declarations merged along an order of
ancestors.
-/

namespace Foundry.Source

/-- What a class body says of a field: an annotation alone, a call that describes the field without
a default, some default, or that the constructor leaves the field out. -/
inductive FieldRole
  | bare
  | required
  | optional
  | leftOut
deriving DecidableEq, Repr

/-- Whether the argument for a field has a default, if the constructor takes one. -/
def FieldRole.argument? : FieldRole → Option Bool
  | .bare => some false
  | .required => some false
  | .optional => some true
  | .leftOut => none

theorem FieldRole.argument?_eq_none_iff {r : FieldRole} : r.argument? = none ↔ r = .leftOut := by
  cases r <;> simp [argument?]

/-- The constructor cannot do without the field. -/
def FieldRole.isRequired (r : FieldRole) : Bool :=
  r.argument? == some false

namespace Index

variable {x : Index} {d e a b : Definition} {n : String} {module : String}
  {before after : List Definition}

/-! ### What a class body says -/

def isFieldless (x : Index) (module : String) (hint : Expr) : Bool :=
  match x.resolveExpr module hint with
  | some a => fieldlessAnnotations.contains a
  | none => false

/-- What a call that describes a field says. -/
def roleOfOptions (keywords : List Keyword) : FieldRole :=
  let option := fun (o : String) =>
    ((keywords.filter fun k => k.name == some o).getLast?).map (·.value)
  if ((option "init").map isFalse).getD false then .leftOut
  else if (option "default").isSome || (option "default_factory").isSome then .optional
  else .required

/-- What the value behind an annotated name says. -/
def roleOfValue (x : Index) (module : String) : Option Expr → FieldRole
  | none => .bare
  | some (.call f _ keywords) =>
    if x.resolveExpr module f == some "dataclasses.field" then roleOfOptions keywords else .optional
  | some _ => .optional

/-- The field that a statement of a class body declares. -/
def fieldIn (x : Index) (module : String) : Stmt → Option (String × FieldRole)
  | .annotated (.name n) hint value =>
    if x.isFieldless module hint then none else some (n, x.roleOfValue module value)
  | _ => none

/-- The fields that the body of a class declares. -/
def ownFields (x : Index) (d : Definition) : List (String × FieldRole) :=
  match d.parts with
  | some c => c.body.filterMap (x.fieldIn d.module)
  | none => []

/-- The name that a statement of a class body annotates without declaring a field. -/
def variableIn (x : Index) (module : String) : Stmt → Option String
  | .annotated (.name n) hint _ => if x.isFieldless module hint then some n else none
  | _ => none

/-- The names that the body of a class annotates without declaring a field. -/
def classVariables (x : Index) (d : Definition) : List String :=
  match d.parts with
  | some c => c.body.filterMap (x.variableIn d.module)
  | none => []

/-- What the body of a class says of a field in the end. -/
def fieldRole? (x : Index) (d : Definition) (n : String) : Option FieldRole :=
  Ordered.lastGiven n (x.ownFields d)

def isDataClass (x : Index) (d : Definition) : Bool :=
  (x.dataclassMarker? d).isSome

theorem isDataClass_of_hasFieldConstructor (h : x.hasFieldConstructor d = true) :
    x.isDataClass d = true := by
  unfold hasFieldConstructor at h
  unfold isDataClass
  cases hmarker : x.dataclassMarker? d with
  | none =>
    rw [hmarker] at h
    cases h
  | some marker => rfl

/-- A data class that declares the field. -/
def declares (x : Index) (n : String) (d : Definition) : Bool :=
  x.isDataClass d && (x.fieldRole? d n).isSome

theorem exists_fieldRole (h : x.declares n d = true) : ∃ r, x.fieldRole? d n = some r := by
  rw [declares, Bool.and_eq_true] at h
  exact Option.isSome_iff_exists.1 h.2

theorem declares_eq_false_iff (hdata : x.isDataClass d = true) :
    x.declares n d = false ↔ x.fieldRole? d n = none := by
  rw [declares, hdata, Bool.true_and, Option.isSome_eq_false_iff, Option.isNone_iff_eq_none]

/-- The fields that data classes declare, merged by name from the last class to the first one. -/
def mergedFields (x : Index) (ds : List Definition) : Ordered String FieldRole :=
  Ordered.overlay ((ds.filter x.isDataClass).map fun d => Ordered.ofList (x.ownFields d))

theorem get?_mergedFields (ds : List Definition) :
    (x.mergedFields ds).get? n = (ds.find? (x.declares n)).bind fun d => x.fieldRole? d n := by
  have hown : ∀ d, (Ordered.ofList (x.ownFields d)).get? n = x.fieldRole? d n := by
    intro d
    rw [Ordered.ofList, Ordered.get?_insertAll_eq, Ordered.get?_empty, Option.or_none, fieldRole?]
  rw [mergedFields, Ordered.get?_overlay]
  induction ds with
  | nil => rfl
  | cons d rest ih =>
    rw [List.filter_cons, List.find?_cons, declares]
    cases hdata : x.isDataClass d with
    | false => exact ih
    | true =>
      rw [if_pos rfl, List.map_cons, List.findSome?_cons, hown, Bool.true_and]
      cases hrole : x.fieldRole? d n with
      | none => exact ih
      | some r => exact hrole.symm

/-! ### Tables of fields -/

/-- What a class body does to the fields of the bases. -/
def putField (fields : Fields) (e : String × FieldRole) : Fields :=
  match e.2.argument? with
  | some hasDefault => fields.insert e.1 hasDefault
  | none => fields.erase e.1

theorem putField_of_default (fields : Fields) (n : String) (hasDefault : Bool) :
    putField fields (n, if hasDefault = true then .optional else .required) =
      fields.insert n hasDefault := by
  cases hasDefault with
  | true => rfl
  | false => rfl

theorem addField_annotated (x : Index) (module : String) (fields : Fields) (n : String)
    (hint : Expr) (value : Option Expr) :
    x.addField module fields (.annotated (.name n) hint value) =
      if x.isFieldless module hint = true then fields
      else putField fields (n, x.roleOfValue module value) := by
  unfold addField
  change (if x.isFieldless module hint = true then fields else _) = _
  refine ite_congr rfl (fun _ => rfl) fun _ => ?_
  cases value with
  | none => rfl
  | some v =>
    cases v with
    | call f _ keywords =>
      unfold roleOfValue
      dsimp only
      split
      · unfold roleOfOptions
        dsimp only
        split
        · rfl
        · exact (putField_of_default ..).symm
      · rfl
    | _ => rfl

theorem addField_eq (x : Index) (module : String) (fields : Fields) (s : Stmt) :
    x.addField module fields s = ((x.fieldIn module s).map (putField fields)).getD fields := by
  unfold fieldIn
  split
  · rw [addField_annotated]
    split
    · rfl
    · rfl
  · rename_i hother
    unfold addField
    split
    · exact absurd rfl (hother _ _ _)
    · rfl

theorem foldl_addField (body : List Stmt) (fields : Fields) :
    body.foldl (x.addField module) fields =
      (body.filterMap (x.fieldIn module)).foldl putField fields := by
  induction body generalizing fields with
  | nil => rfl
  | cons s rest ih =>
    rw [List.foldl_cons, ih, addField_eq, List.filterMap_cons]
    cases x.fieldIn module s with
    | none => rfl
    | some e => rfl

theorem get?_foldl_putField (entries : List (String × FieldRole)) (fields : Fields) :
    (entries.foldl putField fields).get? n =
      match Ordered.lastGiven n entries with
      | some r => r.argument?
      | none => fields.get? n := by
  induction entries generalizing fields with
  | nil => rfl
  | cons e rest ih =>
    rw [List.foldl_cons, ih, Ordered.lastGiven_cons]
    cases Ordered.lastGiven n rest with
    | some r => rfl
    | none =>
      rw [Option.none_or]
      unfold putField
      by_cases hn : e.1 = n
      · subst hn
        rw [if_pos rfl]
        change _ = e.2.argument?
        cases e.2.argument? with
        | none => simp [Ordered.get?_erase]
        | some v => simp
      · rw [if_neg hn]
        cases e.2.argument? with
        | none => simp [Ordered.get?_erase, Ne.symm hn]
        | some v => simp [Ordered.get?_insert_of_ne _ _ (Ne.symm hn)]

/-- The table of the fields of a class. -/
def fieldTable (x : Index) (d : Definition) : Fields :=
  x.fieldsFrom x.bound [] d

/-- The bases whose fields a class takes over. -/
def dataBases (x : Index) (d : Definition) : List Definition :=
  (x.knownBases d).filter x.isDataClass

theorem fieldsFrom_succ {fuel : Nat} {seen : List String}
    (hfresh : ∀ b, x.IsBase d b → b.qualifiedName ∉ d.qualifiedName :: seen) :
    x.fieldsFrom (fuel + 1) seen d = (x.ownFields d).foldl putField (Ordered.overlay
      ((x.dataBases d).map (x.fieldsFrom fuel (d.qualifiedName :: seen)))) := by
  have hfold : ∀ (bs : List Definition) (fields : Fields), (∀ b ∈ bs, x.IsBase d b) →
      bs.foldl (fun (fields : Fields) b =>
        if (d.qualifiedName :: seen).contains b.qualifiedName || (x.dataclassMarker? b).isNone then
          fields
        else fields.insertAll (x.fieldsFrom fuel (d.qualifiedName :: seen) b).entries) fields =
      ((bs.filter x.isDataClass).map (x.fieldsFrom fuel (d.qualifiedName :: seen))).foldl
        (fun below t => below.insertAll t.entries) fields := by
    intro bs
    induction bs with
    | nil => exact fun _ _ => rfl
    | cons b rest ih =>
      intro fields hbs
      have hnew : (d.qualifiedName :: seen).contains b.qualifiedName = false := by
        rw [← Bool.not_eq_true, List.contains_iff_mem]
        exact hfresh b (hbs b List.mem_cons_self)
      rw [List.foldl_cons, List.filter_cons, ih _ fun b' hb' => hbs b' (List.mem_cons_of_mem b hb'),
        hnew, Bool.false_or, isDataClass]
      cases x.dataclassMarker? b with
      | none => rfl
      | some marker => rfl
  have hinherited := hfold (x.knownBases d).reverse Ordered.empty
    fun b hb => List.mem_reverse.1 hb
  rw [List.filter_reverse, List.map_reverse] at hinherited
  unfold fieldsFrom ownFields
  dsimp only
  rw [hinherited]
  cases d.parts with
  | none => rfl
  | some c => exact foldl_addField ..

/-- However a class is come to, it has the same fields, as long as no class stands above itself. -/
theorem fieldsFrom_eq (hx : x.Keyed) (hd : x.Lists d) (hacyclic : x.Acyclic d) {fuel : Nat}
    {seen : List String} (hw : x.Way seen d) (hroom : x.bound ≤ fuel + seen.length) :
    x.fieldsFrom fuel seen d = x.fieldTable d := by
  revert fuel seen
  refine Acyclic.induction (P := fun e => ∀ {fuel seen}, x.Way seen e →
    x.bound ≤ fuel + seen.length → x.fieldsFrom fuel seen e = x.fieldTable e)
    hacyclic hx hd fun e habove he ih => ?_
  have hae := hacyclic.above habove
  -- Both walks go on to the same tables of the bases.
  have hstep : ∀ {fuel seen}, x.Way seen e → x.bound ≤ fuel + seen.length →
      x.fieldsFrom fuel seen e = (x.ownFields e).foldl putField
        (Ordered.overlay ((x.dataBases e).map x.fieldTable)) := by
    intro fuel seen hw hroom
    have hnew := hw.fresh he hae
    cases fuel with
    | zero =>
      have hlt := hw.length_lt he hnew
      rw [bound] at hroom
      omega
    | succ fuel =>
      rw [fieldsFrom_succ fun b hb =>
        (hw.next he hnew hb).fresh (hb.lists hx) (hae.base hb)]
      congr 2
      refine List.map_congr_left fun b hb => ?_
      have hb : x.IsBase e b := List.mem_of_mem_filter hb
      refine ih b hb (hw.next he hnew hb) ?_
      rw [List.length_cons]
      omega
  intro fuel seen hw hroom
  rw [hstep hw hroom, fieldTable, hstep (way_nil x e) (Nat.le_add_right _ _)]

/-- A field is what the class body says, or what the first base says whose table holds it. -/
theorem get?_fieldTable (hx : x.Keyed) (hd : x.Lists d) (hacyclic : x.Acyclic d) :
    (x.fieldTable d).get? n =
      match x.fieldRole? d n with
      | some r => r.argument?
      | none => (x.dataBases d).findSome? fun b => (x.fieldTable b).get? n := by
  have htable : x.fieldTable d = (x.ownFields d).foldl putField
      (Ordered.overlay ((x.dataBases d).map x.fieldTable)) := by
    have hnext : ∀ b, x.IsBase d b → x.Way [d.qualifiedName] b :=
      fun b hb => (way_nil x d).next hd List.not_mem_nil hb
    have hsucc : x.fieldTable d = x.fieldsFrom (x.definitions.size + 1) [] d := rfl
    rw [hsucc, fieldsFrom_succ fun b hb => (hnext b hb).fresh (hb.lists hx) (hacyclic.base hb)]
    congr 2
    refine List.map_congr_left fun b hb => ?_
    have hb : x.IsBase d b := List.mem_of_mem_filter hb
    exact fieldsFrom_eq hx (hb.lists hx) (hacyclic.base hb) (hnext b hb) (Nat.le_refl _)
  rw [htable, get?_foldl_putField, Ordered.get?_overlay, List.findSome?_map]
  rfl

/-! ### Fields of the nearest declaration -/

/-- Between two data classes there are data classes only. -/
def Decorated (x : Index) (d : Definition) : Prop :=
  ∀ e b, x.Above d e → x.IsBase e b → x.isDataClass b = false →
    ∀ a, x.Above b a → x.isDataClass a = false

/-- What the first base that speaks of a field leaves out, no later base takes in. -/
def KeepsOut (x : Index) (d : Definition) : Prop :=
  ∀ n e, x.Above d e → x.declares n e = false → ∀ before b after a,
    x.knownBases e = before ++ b :: after → (∀ b' ∈ before, x.Silent (x.declares n) b') →
    x.FirstToSpeak (x.declares n) b a → x.fieldRole? a n = some .leftOut →
    ∀ b' ∈ after, ∀ a', x.FirstToSpeak (x.declares n) b' a' → x.fieldRole? a' n = some .leftOut

/-- What one class annotates as a variable of the class, no class declares as a field. -/
def VariablesApart (x : Index) (d : Definition) : Prop :=
  ∀ e e' n, x.Above d e → x.Above d e' → n ∈ x.classVariables e → x.declares n e' = false

theorem Decorated.above (h : x.Decorated d) (hde : x.Above d e) : x.Decorated e :=
  fun e' b he => h e' b (hde.trans he)

theorem KeepsOut.above (h : x.KeepsOut d) (hde : x.Above d e) : x.KeepsOut e :=
  fun n e' he => h n e' (hde.trans he)

theorem decorated_of_dataClasses (h : ∀ e, x.Above d e → x.isDataClass e = true) :
    x.Decorated d := by
  intro e b he hb hplain
  rw [h b (he.tail hb)] at hplain
  cases hplain

theorem variablesApart_of_none (h : ∀ e, x.Above d e → x.classVariables e = []) :
    x.VariablesApart d := by
  intro e e' n he _ hn
  rw [h e he] at hn
  cases hn

/-- Above a class further up that is no data class there are no data classes. -/
theorem Decorated.isDataClass_of_above (h : x.Decorated d) (hde : x.Above d e) (hne : e ≠ d)
    (hdata : x.isDataClass e = false) (hea : x.Above e a) : x.isDataClass a = false := by
  rcases Relation.ReflTransGen.cases_tail hde with rfl | ⟨g, hdg, hge⟩
  · exact absurd rfl hne
  · exact h g e hdg hge hdata a hea

theorem Linear.keepsOut (h : x.Linear d) : x.KeepsOut d :=
  fun _ _ he _ _ _ _ _ hbases _ _ _ b' hb' => absurd hb' (h.notMem_behind he hbases b')

theorem Decorated.isDataClass_of_first (h : x.Decorated d) (hb : x.IsBase d b)
    (ha : x.FirstToSpeak (x.declares n) b a) : x.isDataClass b = true := by
  obtain ⟨habove, hdeclares⟩ := ha.above
  cases hdata : x.isDataClass b with
  | true => rfl
  | false =>
    rw [declares, h d b .refl hb hdata a habove] at hdeclares
    cases hdeclares

/-- The table of a class holds what the first class says that speaks of a field in a walk through
the bases. -/
structure Tabled (x : Index) (n : String) (d : Definition) : Prop where
  first : ∀ a, x.FirstToSpeak (x.declares n) d a →
    (x.fieldTable d).get? n = (x.fieldRole? a n).bind FieldRole.argument?
  silent : x.Silent (x.declares n) d → (x.fieldTable d).get? n = none

theorem Tabled.get?_eq_none (h : x.Tabled n d) (hx : x.Keyed) (hd : x.Lists d)
    (hacyclic : x.Acyclic d)
    (hout : ∀ a, x.FirstToSpeak (x.declares n) d a → x.fieldRole? a n = some .leftOut) :
    (x.fieldTable d).get? n = none := by
  by_cases hall : x.Silent (x.declares n) d
  · exact h.silent hall
  · obtain ⟨a, ha⟩ := exists_firstToSpeak hx hd hacyclic hall
    rw [h.first a ha, hout a ha]
    rfl

/-- Bases that are silent about a field or leave it out hand nothing on. -/
theorem findSome?_fieldTable_eq_none (hx : x.Keyed) (hacyclic : x.Acyclic d)
    (htabled : ∀ b, x.IsBase d b → x.isDataClass b = true → x.Tabled n b) {bs : List Definition}
    (hbs : ∀ b ∈ bs, x.IsBase d b)
    (hout : ∀ b ∈ bs, ∀ a, x.FirstToSpeak (x.declares n) b a →
      x.fieldRole? a n = some .leftOut) :
    (bs.filter x.isDataClass).findSome? (fun b => (x.fieldTable b).get? n) = none := by
  rw [List.findSome?_eq_none_iff]
  intro b hb
  obtain ⟨hb, hdata⟩ := List.mem_filter.1 hb
  have hbase := hbs b hb
  exact (htabled b hbase hdata).get?_eq_none hx (hbase.lists hx) (hacyclic.base hbase) (hout b hb)

/-- A base speaks for the class if the class and the bases before it are silent. -/
theorem get?_fieldTable_of_base (hx : x.Keyed) (hd : x.Lists d) (hacyclic : x.Acyclic d)
    (hdecorated : x.Decorated d) (hkeeps : x.KeepsOut d) (hdata : x.isDataClass d = true)
    (htabled : ∀ b, x.IsBase d b → x.isDataClass b = true → x.Tabled n b)
    (hown : x.declares n d = false) (hbases : x.knownBases d = before ++ b :: after)
    (hbefore : ∀ b' ∈ before, x.Silent (x.declares n) b')
    (ha : x.FirstToSpeak (x.declares n) b a) :
    (x.fieldTable d).get? n = (x.fieldRole? a n).bind FieldRole.argument? := by
  have hb := isBase_of_append hbases
  have hmem : ∀ b' ∈ before ++ b :: after, x.IsBase d b' := by
    rw [← hbases]
    exact fun _ hb' => hb'
  have hbdata : x.isDataClass b = true := hdecorated.isDataClass_of_first hb ha
  have hnothing := findSome?_fieldTable_eq_none hx hacyclic htabled
    (fun b' hb' => hmem b' (List.mem_append_left _ hb'))
    fun b' hb' a' ha' => absurd (hbefore b' hb') ha'.not_silent
  rw [get?_fieldTable hx hd hacyclic, (declares_eq_false_iff hdata).1 hown, dataBases, hbases,
    List.filter_append, List.filter_cons, if_pos hbdata, List.findSome?_append, hnothing,
    Option.none_or, List.findSome?_cons, (htabled b hb hbdata).first a ha]
  obtain ⟨r, hr⟩ := exists_fieldRole ha.above.2
  rw [hr, Option.bind_some]
  cases hargument : r.argument? with
  | some v => rfl
  | none =>
    -- The base leaves the field out, and so do the later ones.
    rw [FieldRole.argument?_eq_none_iff.1 hargument] at hr
    exact findSome?_fieldTable_eq_none hx hacyclic htabled
      (fun b' hb' => hmem b' (List.mem_append_right _ (List.mem_cons_of_mem b hb')))
      (hkeeps n d .refl hown before b after a hbases hbefore ha hr)

theorem tabled_of_decorated (hx : x.Keyed) (hd : x.Lists d) (hacyclic : x.Acyclic d)
    (hdecorated : x.Decorated d) (hkeeps : x.KeepsOut d) (hdata : x.isDataClass d = true) :
    x.Tabled n d := by
  revert hdata
  refine Acyclic.induction (P := fun e => x.isDataClass e = true → x.Tabled n e)
    hacyclic hx hd fun e habove he ih hdata => ?_
  have hae := hacyclic.above habove
  refine ⟨fun a ha => ?_, fun hall => ?_⟩
  · cases ha with
    | own hown =>
      obtain ⟨r, hr⟩ := exists_fieldRole hown
      rw [get?_fieldTable hx he hae, hr]
      rfl
    | base hown hbases hbefore ha =>
      exact get?_fieldTable_of_base hx he hae (hdecorated.above habove) (hkeeps.above habove) hdata
        ih hown hbases hbefore ha
  · rw [get?_fieldTable hx he hae, (declares_eq_false_iff hdata).1 (hall e .refl)]
    exact findSome?_fieldTable_eq_none hx hae ih (fun _ hb => hb)
      fun b hb a ha => absurd (hall.above (.single hb)) ha.not_silent

end Index

end Foundry.Source
