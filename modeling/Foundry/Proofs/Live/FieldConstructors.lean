import Foundry.Proofs.Live.Constructors
import Foundry.Proofs.Live.DataStatements
import Foundry.Proofs.Live.FieldTables

/-!
Constructors that are made from fields, as the source tells and as running code tells. The source
walks through the bases that are data classes themselves; running code takes over the fields of
every class in the order of ancestors.
-/

namespace Foundry

open Source (Definition Index)

namespace Source.Index

variable {x : Index} {d : Definition}

/-- The number of fields of data classes, merged along an order of ancestors, that the constructor
cannot do without. -/
def requiredFields (x : Index) (ds : List Definition) : Nat :=
  ((x.mergedFields ds).values.filter FieldRole.isRequired).length

/-- The number of fields in the table of the source that have no default. -/
def lackingFields (x : Index) (d : Definition) : Nat :=
  ((x.fieldTable d).values.filter fun hasDefault => !hasDefault).length

theorem requiredFrom_of_fields (hown : x.ownConstructor? d = none)
    (hdata : x.hasFieldConstructor d = true) :
    x.requiredFrom x.bound [] d = some (x.lackingFields d) := by
  unfold bound requiredFrom
  rw [hown, hdata]
  rfl

end Source.Index

namespace Live

namespace Heap

variable {x : Index} {h : Heap} {p : Nat} {d : Definition} {c : Class}

/-! ### The constructor that running code takes -/

theorem Fielded.writtenMethod?_new (hw : WellFielded x h) (hf : Fielded x h p d c) :
    h.writtenMethod? c.order "__new__" = none := by
  have hm := hf.made hw
  have hmade := hw.skeleton.wellMade
  have hobject : Place.object ∈ c.skeleton.order := hm.object_mem_order hmade
  obtain ⟨kind, hfind⟩ : ∃ kind, h.findIn c.order "__new__" = some (Place.object, .thing kind) := by
    refine findIn_of_unbound hw.library (by decide) hobject
      (fun q hq => (hm.ancestral_of_mem_order hmade hq).of_skeleton) fun q _ k hafter hk => ?_
    obtain ⟨e, hfielded⟩ := hw.made q k hk hafter
    rw [attribute?, hk, Option.bind_some, hfielded.plain]
  rw [writtenMethod?, hfind]

/-- Constructing an instance of a data class takes the fields that have no default. -/
theorem Fielded.requiredArguments_eq (hw : WellFielded x h) (hf : Fielded x h p d c)
    (hdata : x.hasFieldConstructor d = true) (hown : x.ownConstructor? d = none) :
    ∃ fields, c.fields = some fields ∧
      h.requiredArguments c = (fields.values.filter Field.isRequired).length := by
  obtain ⟨fields, f, k, hfields, hinit, hk, hparams⟩ := hf.constructor hdata hown
  refine ⟨fields, hfields, ?_⟩
  have hfind : h.findIn c.order "__init__" = some (p, .function f) := by
    rw [hf.order_eq hw, findIn_cons, attribute?, hf.there, Option.bind_some, hinit]
    rfl
  have hnot : h.isPlainlyConstructed c = false := by
    obtain ⟨hlt, -⟩ := library_lt
    have hafter := hf.depicts.after
    have hne : p ≠ Place.object := by omega
    simp [isPlainlyConstructed, hfind, hne]
  have hmetaclass : c.metaclass = Place.type ∨ c.metaclass = Place.abstractMeta := by
    have hmetaclass := (hf.made hw).metaclass
    have hcases := commonMetaclass_eq h.skeleton c.skeleton.bases
    rw [← hmetaclass] at hcases
    exact hcases
  rw [requiredArguments, hnot, constructing?_of_init
    (writtenMethod?_call_of_library hw.library hmetaclass) (hf.writtenMethod?_new hw) hfind hk]
  simp only [Bool.false_eq_true, if_false, Option.bind_some]
  rw [hparams, requiredAfterFirst_constructorParams, Option.getD_some]

/-- The merged declarations along the order of ancestors say of a field what the source says, where
bases that declare it lead. -/
theorem Fielded.lackingFields_eq (hw : WellFielded x h) (hx : Apart x) (hkeyed : x.Keyed)
    (hf : Fielded x h p d c) (hdata : x.isDataClass d = true) (hdecorated : x.Decorated d)
    (hkeeps : x.KeepsOut d) (hleads : ∀ n, x.Leads (x.declares n) d) :
    x.lackingFields d = x.requiredFields (h.definitionsIn x (h.order p)) := by
  have hacyclic : x.Acyclic d := (hf.made hw).acyclic hw.skeleton.wellMade hx
  refine Ordered.length_filter_values fun n => ?_
  obtain ⟨hfirst, hsilent⟩ := Index.tabled_of_decorated (n := n) hkeyed hf.depicts.lists
    hacyclic hdecorated hkeeps hdata
  have hmerged : (x.mergedFields (h.definitionsIn x (h.order p))).get? n =
      ((c.order.find? (h.speaksAt x (x.declares n))).bind (h.definitionAt x)).bind
        fun d => x.fieldRole? d n := by
    rw [Index.get?_mergedFields, definitionsIn, List.find?_filterMap, order_of_class? hf.there]
    rfl
  have hmade := hf.made hw
  by_cases hall : x.Silent (x.declares n) d
  · have hnone := hmade.find?_of_silent hw.skeleton.wellMade hx hall
    rw [speaksAt_skeleton] at hnone
    have hnone : c.order.find? (h.speaksAt x (x.declares n)) = none := hnone
    rw [hmerged, hsilent hall, hnone]
    rfl
  · obtain ⟨a, ha⟩ := Index.exists_firstToSpeak hkeyed hf.depicts.lists hacyclic hall
    obtain ⟨q, hq, hqa⟩ := hmade.find?_of_leads hw.skeleton.wellMade hx (hleads n) ha
    rw [speaksAt_skeleton] at hq
    have hq : c.order.find? (h.speaksAt x (x.declares n)) = some q := hq
    rw [hmerged, hfirst a ha, hq, Option.bind_some, (depicts_skeleton.1 hqa).definitionAt,
      Option.bind_some]
    cases x.fieldRole? a n with
    | none => rfl
    | some r => cases r <;> rfl

/-- Running code cannot do without as many arguments as there are fields without a default in the
table of the source. -/
theorem Fielded.requiredArguments_eq_lackingFields (hw : WellFielded x h) (hx : Apart x)
    (hkeyed : x.Keyed) (hf : Fielded x h p d c) (hdata : x.hasFieldConstructor d = true)
    (hown : x.ownConstructor? d = none) (hdecorated : x.Decorated d) (hkeeps : x.KeepsOut d)
    (hvariables : x.VariablesApart d) (hunprovided : h.Unprovided x d) :
    h.requiredArguments c = x.lackingFields d := by
  obtain ⟨fields, hfields, hrequired⟩ := hf.requiredArguments_eq hw hdata hown
  have hagree := hf.fields_agree hw hx hkeyed (Index.isDataClass_of_hasFieldConstructor hdata)
    hdecorated hkeeps hvariables hunprovided hfields
  rw [hrequired]
  symm
  refine Ordered.length_filter_values fun n => ?_
  rw [← hagree n]
  cases hget : fields.get? n with
  | none => rfl
  | some f =>
    rw [Option.bind_some, Option.any_some, Field.isRequired]
    cases f.argument? with
    | none => rfl
    | some v => cases v <;> rfl

end Heap

/-! ### Both sides -/

/-- The constructor of a data class needs as many arguments as there are fields without a default in
the declarations merged along the order of ancestors, and running code needs as many: where data
classes are not broken up by classes that are none, where no later base takes in what an earlier one
leaves out, and where bases that declare a field lead. Running code says the same as the source
without the last condition, where names of fields are no variables of classes and no attribute
behind a class steps in for a field that it annotates only. -/
theorem field_constructors_agree {x : Index} {d : Definition} {p : Nat}
    {modules : List Source.Module} {annotationNames : List String} {marking : Option Marking}
    {m : Machine} (hx : Index.make modules annotationNames = .ok x)
    (hsource : ∀ m ∈ modules, m.IsSource) (hapart : Heap.Apart x) (hruns : Heap.DataRuns x m.heap)
    (hp : m.heap.Depicts x p d) (hmarking : x.marking? d = .ok marking)
    (hdata : x.hasFieldConstructor d = true) (hown : x.ownConstructor? d = none)
    (hdecorated : x.Decorated d) (hkeeps : x.KeepsOut d) (questions : List Question)
    (slot : String) :
    ∃ a b, (x.provider.get d.qualifiedName).answer
        (x.provider.after questions Index.Memory.empty) = .ok (some a) ∧
      m.describe slot (.class p) = .ok (some b) ∧ a.name = b.name ∧
      ((∀ n, x.Leads (x.declares n) d) → a.constructors =
        [⟨x.requiredFields (m.heap.definitionsIn x (m.heap.order p)), true⟩]) ∧
      (x.VariablesApart d → m.heap.Unprovided x d → a.constructors = b.constructors ∧
        ∀ (sources : Provider Index.Memory) (classes : Provider Memory) limit identifier group s t,
          (Rule.check sources limit ⟨identifier, group, a⟩ .constructor).answer s = .ok () ↔
            (Rule.check classes limit ⟨identifier, group, b⟩ .constructor).answer t = .ok ()) := by
  have hkeyed := (Index.keyed_make hx).1
  have hw := hruns.wellFielded
  obtain ⟨c, hf⟩ := hw.fielded_of_depicts hp
  have hlists := hf.depicts.lists
  have hdecorator := Index.isDataClass_of_hasFieldConstructor hdata
  obtain ⟨a, hanswer, ha⟩ := Index.described_of_definition hx hsource hlists hmarking
    (.inl hf.depicts.isClass) questions
  obtain ⟨hmodule, hqualname⟩ := Index.name_of_definition hx hsource hlists
    (.inl hf.depicts.isClass)
  obtain ⟨k, hk, hkmodule, hkqualname⟩ := hp.named
  obtain rfl := Option.some.inj (hk.symm.trans hf.there)
  obtain ⟨b, hb, hbname, -, hbconstructors⟩ := Machine.describe_class slot hf.there
    (hkmodule ▸ hmodule) (hkqualname ▸ hqualname)
  have hconstructors : a.constructors = [⟨x.lackingFields d, true⟩] := by
    rw [ha.constructors hf.depicts.isClass, Index.requiredFrom_of_fields hown hdata]
  have hsame : x.VariablesApart d → m.heap.Unprovided x d → a.constructors = b.constructors := by
    intro hvariables hunprovided
    rw [hconstructors, hbconstructors, hf.requiredArguments_eq_lackingFields hw hapart hkeyed hdata
      hown hdecorated hkeeps hvariables hunprovided]
  refine ⟨a, b, hanswer, hb, ?_, fun hleads => ?_, fun hvariables hunprovided =>
    ⟨hsame hvariables hunprovided, ?_⟩⟩
  · rw [hbname, ha.name_eq, hkmodule, hkqualname]
  · rw [hconstructors,
      hf.lackingFields_eq hw hapart hkeyed hdecorator hdecorated hkeeps hleads]
  · intro sources classes limit identifier group s t
    rw [check_constructor_iff, check_constructor_iff, hsame hvariables hunprovided]

/-! ### Data classes below each other -/

namespace Heap

/-- A class statement that is decorated as a data class. -/
def dataClassStatement (line : Nat) (name : String) (bases : List Source.Expr)
    (body : List Source.Stmt) : Source.Stmt :=
  .classDef (line + 1) line name bases [] [.name "dataclass"] body

/-- A data class below another one, with a field that has a default. -/
def colouredBody : List Source.Stmt :=
  [.importFrom (some "dataclasses") [⟨"dataclass", none⟩] 0,
   dataClassStatement 3 "A" [] [.annotated (.name "size") (.name "int") none],
   dataClassStatement 7 "B" [.name "A"]
     [.annotated (.name "colour") (.name "str") (some (.constant (.text "red" false)))]]

def colouredModule : Source.Module :=
  Source.Module.make "m" (Path.ofText "m.py") colouredBody

def colouredIndex : Index :=
  (Index.make [colouredModule] []).toOption.getD ⟨Ordered.empty, Ordered.empty, []⟩

theorem coloured_source : ∀ m ∈ [colouredModule], m.IsSource := by
  intro m hm
  obtain rfl := List.mem_singleton.1 hm
  refine ⟨⟨_, _, _, rfl⟩, rfl, ?_⟩
  decide

/-- A class with one field, whose type is the only name that its body uses. -/
theorem dataBody_field {x : Index} {module n k : String} {o : Object} {value : Option Source.Expr}
    {o? : Option Object} (hhint : FieldHint x module (Known.only k o) (.name k) o)
    (hvalue : FieldValue x module (Known.only k o) value o?)
    (hn : n ∉ k :: "__init__" :: reservedNames) (hk : k ∉ reservedNames) :
    DataBody x module (Known.only k o) [.annotated (.name n) (.name k) value] := by
  have hne : n ≠ k := fun h => hn (h ▸ List.mem_cons_self)
  have hinit : n ≠ "__init__" := fun h => hn (h ▸ List.mem_cons_of_mem k List.mem_cons_self)
  have hnone : ∀ l, l ≠ k → Known.only k o l = none := fun l hl => if_neg hl
  refine
    { members := fun st hst => ?_
      distinct := List.nodup_singleton n
      reserved := fun l hl => ⟨fun hmem => ?_, hnone l fun h => hk (h ▸ hl)⟩
      constructor := fun hint value hmem => ?_
      free := fun l hl => ?_ }
  · obtain rfl := List.mem_singleton.1 hst
    exact .field hhint hvalue
  · obtain rfl := List.mem_singleton.1 hmem
    exact hn (List.mem_cons_of_mem k (List.mem_cons_of_mem _ hl))
  · have heq := List.mem_singleton.1 hmem
    cases heq
    exact hinit rfl
  · obtain rfl := List.mem_singleton.1 hl
    exact hnone l hne

/-- Each line of the module is the import or a data class below an earlier one. -/
theorem coloured_lines : Lines colouredIndex (WritesData colouredIndex) "m" startingKnown []
    colouredBody ["m.A", "m.B"] := by
  have hdataclass : libraryObject? "dataclasses" "dataclass" =
      some (.tool (.dataclass ⟨true, false⟩)) := rfl
  have hint : FieldHint colouredIndex "m" (Known.only "int" (.class (placeOf "int")))
      (.name "int") (.class (placeOf "int")) := ⟨rfl, by decide +kernel⟩
  have hstr : FieldHint colouredIndex "m" (Known.only "str" (.class (placeOf "str")))
      (.name "str") (.class (placeOf "str")) := ⟨rfl, by decide +kernel⟩
  refine .imports (by decide) (by decide) (.cons (by decide) (by decide) hdataclass .nil) ?_
  refine .classDef rfl rfl (by decide) rfl .nil
    ⟨_, _, fun _ _ => Known.of_only rfl, .named rfl rfl,
      dataBody_field hint .bare (by decide) (by decide)⟩ ?_
  exact .classDef rfl rfl (by decide) rfl
    (.cons ⟨"A", _, rfl, rfl, standsFor_made rfl⟩ .nil)
    ⟨_, _, fun _ _ => Known.of_only rfl, .named rfl rfl,
      dataBody_field hstr (.constant _) (by decide) (by decide)⟩ .nil

/-- The machine after the module has run. -/
def colouredMachine : Machine :=
  ((runModule "m" colouredBody).run (Machine.start FileTree.empty [])).2

theorem coloured_runs : DataRuns colouredIndex colouredMachine.heap ∧
    colouredMachine.heap.Follows colouredIndex ["m.A", "m.B"] := by
  have hok : ((runModule "m" colouredBody).run (Machine.start FileTree.empty [])).1.isOk =
      true := by
    decide +kernel
  unfold colouredMachine
  exact runs_dataModule FileTree.empty [] (by decide) coloured_lines hok

/-- What the source says of the two classes. -/
theorem coloured_classes {c d : Definition} (hc : colouredIndex.definitions.get? "m.A" = some c)
    (hd : colouredIndex.definitions.get? "m.B" = some d) :
    (colouredIndex.knownBases d = [c] ∧ colouredIndex.knownBases c = []) ∧
    (colouredIndex.isDataClass c = true ∧ colouredIndex.ownFields c = [("size", .bare)] ∧
      colouredIndex.classVariables c = []) ∧
    colouredIndex.hasFieldConstructor d = true ∧ colouredIndex.ownConstructor? d = none ∧
      colouredIndex.ownFields d = [("colour", .optional)] ∧
      colouredIndex.classVariables d = [] := by
  have habove : (colouredIndex.definitions.get? "m.A").map (fun c =>
      ((colouredIndex.knownBases c).length, colouredIndex.isDataClass c,
        colouredIndex.ownFields c, colouredIndex.classVariables c)) =
      some (0, true, [("size", .bare)], []) := by rfl
  have hbelow : (colouredIndex.definitions.get? "m.B").map (fun d =>
      ((colouredIndex.knownBases d).map Source.Definition.qualifiedName,
        colouredIndex.hasFieldConstructor d, (colouredIndex.ownConstructor? d).isNone,
        colouredIndex.ownFields d, colouredIndex.classVariables d)) =
      some (["m.A"], true, true, [("colour", .optional)], []) := by rfl
  simp only [hc, hd, Option.map_some, Option.some.injEq, Prod.mk.injEq, List.length_eq_zero_iff,
    List.map_eq_singleton_iff, Option.isNone_iff_eq_none] at habove hbelow
  obtain ⟨hnone, hfacts⟩ := habove
  obtain ⟨⟨b, hbases, hname⟩, hrest⟩ := hbelow
  have hb : colouredIndex.IsBase d b := by
    rw [Index.IsBase, hbases]
    exact List.mem_singleton_self b
  have hmake : Index.make [colouredModule] [] = .ok colouredIndex := rfl
  have hget := hb.lists (Index.keyed_make hmake).1
  rw [Index.Lists, hname, hc] at hget
  obtain rfl := Option.some.inj hget
  exact ⟨⟨hbases, hnone⟩, hfacts, hrest⟩

/-- Behind the class above there is nothing but the common ancestor. -/
theorem coloured_unprovided {c d : Definition}
    (hc : colouredIndex.definitions.get? "m.A" = some c)
    (hd : colouredIndex.definitions.get? "m.B" = some d)
    (hdepicts : colouredMachine.heap.Depicts colouredIndex librarySize c) :
    colouredMachine.heap.Unprovided colouredIndex d := by
  obtain ⟨⟨hbases, hnone⟩, ⟨-, hcfields, -⟩, -, -, hdfields, -⟩ := coloured_classes hc hd
  intro q e n hq he hbare
  rcases Index.eq_or_eq_of_above hbases hnone he with rfl | rfl
  · rw [Index.fieldRole?, hdfields, Ordered.lastGiven_cons] at hbare
    simp [Ordered.lastGiven] at hbare
  · have hplace := coloured_runs.1.wellFielded.skeleton.wellMade.once q _ e
      (depicts_skeleton.2 hq) (depicts_skeleton.2 hdepicts)
    have hfind : colouredMachine.heap.findIn
        (colouredMachine.heap.order librarySize).tail "size" = none := by
      decide +kernel
    have hn : n = "size" := by
      by_contra hne
      have hsilent : colouredIndex.fieldRole? e n = none := by
        rw [Index.fieldRole?, hcfields]
        exact Ordered.lastGiven_eq_none (by simpa using hne)
      rw [hsilent] at hbare
      cases hbare
    rw [hplace, hn]
    exact hfind

end Heap

/-- The class below needs an argument for the field that it inherits, on both sides. -/
theorem coloured_constructors_agree :
    Index.make [Heap.colouredModule] [] = .ok Heap.colouredIndex ∧
    (∀ m ∈ [Heap.colouredModule], m.IsSource) ∧
    Heap.DataRuns Heap.colouredIndex Heap.colouredMachine.heap ∧
    ∃ a b, (Heap.colouredIndex.provider.get "m.B").answer
        (Heap.colouredIndex.provider.after [.get "m.A"] Index.Memory.empty) = .ok (some a) ∧
      Heap.colouredMachine.describe Marker.standardAttribute (.class (Heap.librarySize + 1)) =
        .ok (some b) ∧
      a.name = b.name ∧ a.constructors = b.constructors ∧
      a.constructors = [⟨Heap.colouredIndex.requiredFields
        (Heap.colouredMachine.heap.definitionsIn Heap.colouredIndex
          (Heap.colouredMachine.heap.order (Heap.librarySize + 1))), true⟩] := by
  have hmake : Index.make [Heap.colouredModule] [] = .ok Heap.colouredIndex := rfl
  obtain ⟨hruns, hfollows⟩ := Heap.coloured_runs
  obtain ⟨c, hc, hcname⟩ := hfollows.depicts 0 "m.A" rfl
  obtain ⟨d, hd, hdname⟩ := hfollows.depicts 1 "m.B" rfl
  have hcget : Heap.colouredIndex.definitions.get? "m.A" = some c := hcname ▸ hc.lists
  have hdget : Heap.colouredIndex.definitions.get? "m.B" = some d := hdname ▸ hd.lists
  obtain ⟨⟨hbases, hnone⟩, ⟨hcdata, -, hcvariables⟩, hdata, hown, -, hdvariables⟩ :=
    Heap.coloured_classes hcget hdget
  have hlinear := Index.linear_of_bases hbases hnone
  have hdecorated : Heap.colouredIndex.Decorated d := by
    refine Index.decorated_of_dataClasses fun e he => ?_
    rcases Index.eq_or_eq_of_above hbases hnone he with rfl | rfl
    · exact Index.isDataClass_of_hasFieldConstructor hdata
    · exact hcdata
  have hvariables : Heap.colouredIndex.VariablesApart d := by
    refine Index.variablesApart_of_none fun e he => ?_
    rcases Index.eq_or_eq_of_above hbases hnone he with rfl | rfl
    · exact hdvariables
    · exact hcvariables
  rw [Nat.add_zero] at hc
  have hunprovided := Heap.coloured_unprovided hcget hdget hc
  have hmarked : (Heap.colouredIndex.definitions.get? "m.B").map (fun d =>
      (Heap.colouredIndex.marking? d).toOption.isSome) = some true := by rfl
  cases hmarking : Heap.colouredIndex.marking? d with
  | error f =>
    rw [hdget, Option.map_some, hmarking] at hmarked
    cases hmarked
  | ok marking =>
    obtain ⟨a, b, ha, hb, hnames, hmerged, hagree⟩ := field_constructors_agree
      (m := Heap.colouredMachine) hmake Heap.coloured_source ⟨rfl, rfl⟩ hruns hd hmarking hdata hown
      hdecorated hlinear.keepsOut [.get "m.A"] Marker.standardAttribute
    rw [hdname] at ha
    exact ⟨hmake, Heap.coloured_source, hruns, a, b, ha, hb, hnames,
      (hagree hvariables hunprovided).1, hmerged fun _ => hlinear.leads⟩

/-! ### A class in between that is none -/

namespace Heap

/-- A data class below a class that is none, which is below a data class with a field. -/
def brokenUpBody : List Source.Stmt :=
  [.importFrom (some "dataclasses") [⟨"dataclass", none⟩] 0,
   dataClassStatement 3 "A" [] [.annotated (.name "size") (.name "int") none],
   .classDef 7 7 "B" [.name "A"] [] [] [.pass],
   dataClassStatement 10 "C" [.name "B"] [.pass]]

def brokenUpModule : Source.Module :=
  Source.Module.make "m" (Path.ofText "m.py") brokenUpBody

def brokenUpIndex : Index :=
  (Index.make [brokenUpModule] []).toOption.getD ⟨Ordered.empty, Ordered.empty, []⟩

end Heap

/-- The source misses the field behind the class that is no data class. The declarations merged along
the order of ancestors need an argument for it, and so does the class when its module has run. -/
theorem brokenUp_constructors_differ :
    Index.make [Heap.brokenUpModule] [] = .ok Heap.brokenUpIndex ∧
    ((Heap.brokenUpIndex.provider.get "m.C").answer Index.Memory.empty).map
      (Option.map Declaration.constructors) = .ok (some [⟨0, true⟩]) ∧
    let m := ((runModule "m" Heap.brokenUpBody).run (Machine.start FileTree.empty [])).2
    Heap.brokenUpIndex.requiredFields
      (m.heap.definitionsIn Heap.brokenUpIndex (m.heap.order (Heap.librarySize + 2))) = 1 ∧
    (((provider Marker.standardAttribute ["m"]).get "m.C").answer
      ⟨m, Ordered.empty⟩).toOption.map (Option.map Declaration.constructors) =
        some (some [⟨1, true⟩]) := by
  refine ⟨rfl, rfl, ?_⟩
  decide +kernel

end Live

end Foundry
