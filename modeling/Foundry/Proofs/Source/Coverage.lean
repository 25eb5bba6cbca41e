import Mathlib.Data.List.Nodup
import Mathlib.Data.List.Pairwise
import Foundry.Proofs.Source.Discovery
import Foundry.Proofs.Source.Symbols

/-!
Which of the classes that a module's symbol table records are in the index: those that the module
writes down directly, and none that stand in a block.
-/

namespace Foundry.Source

open Text

variable {module start : String} {body : List Stmt} {m : Module} {d e : Definition}

/-! ### Statements in blocks -/

theorem topLevel_perm (body : List Stmt) : (topLevel body).Perm (body ++ body.flatMap enclosed) := by
  induction body with
  | nil => rw [topLevel]; exact .nil
  | cons s rest ih =>
    rw [topLevel, List.flatMap_cons, List.cons_append]
    refine .cons s ((ih.append_left (enclosed s)).trans ?_)
    exact List.perm_append_comm_assoc _ _ _

theorem definitionsOf_eq_flatMap (module start : String) (body : List Stmt) :
    definitionsOf module start body = body.flatMap (definitionsIn module start) := by
  induction body with
  | nil => rw [definitionsOf]; rfl
  | cons s rest ih => rw [definitionsOf, ih, List.flatMap_cons]

theorem mem_definitionsOf_of_classOf? (h : d ∈ body.filterMap (classOf? module)) :
    d ∈ definitionsOf module "" body := by
  rw [definitionsOf_eq_flatMap]
  obtain ⟨s, hs, hd⟩ := List.mem_filterMap.1 h
  refine List.mem_flatMap.2 ⟨s, hs, ?_⟩
  cases s with
  | classDef line first name bases keywords decorators body =>
    cases hd
    simp [definitionsIn]
  | _ => cases hd

theorem parts_of_classOf? (h : d ∈ body.filterMap (classOf? module)) : d.parts.isSome = true := by
  obtain ⟨s, -, hd⟩ := List.mem_filterMap.1 h
  cases s with
  | classDef line first name bases keywords decorators body => cases hd; rfl
  | _ => cases hd

theorem module_of_classOf? (h : d ∈ body.filterMap (classOf? module)) : d.module = module :=
  Index.module_of_mem_definitionsOf (mem_definitionsOf_of_classOf? h)

namespace Module

/-- The classes that a module writes down outside of every block. -/
def direct (m : Module) : List Definition :=
  m.body.filterMap (classOf? m.name)

/-- The names of all classes of a module, also of those in blocks and in classes. -/
def classNames (m : Module) : List String :=
  ((definitionsOf m.name "" (topLevel m.body)).filter fun d => d.parts.isSome).map
    Definition.qualifiedName

theorem mem_recorded_iff :
    d ∈ m.recorded ↔ d ∈ m.direct ∨ d ∈ (m.body.flatMap enclosed).filterMap (classOf? m.name) := by
  rw [recorded, direct, ← List.mem_append, ← List.filterMap_append]
  exact ((topLevel_perm m.body).filterMap _).mem_iff

theorem definitions_perm (m : Module) :
    (definitionsOf m.name "" (topLevel m.body)).Perm
      (definitionsOf m.name "" m.body ++ definitionsOf m.name "" (m.body.flatMap enclosed)) := by
  rw [definitionsOf_eq_flatMap, definitionsOf_eq_flatMap, definitionsOf_eq_flatMap,
    ← List.flatMap_append]
  exact (topLevel_perm m.body).flatMap_right _

/-- A class that is written both inside and outside of blocks makes its name occur twice. -/
theorem mem_direct_of_nodup (hm : m.classNames.Nodup) (hd : d ∈ m.recorded)
    (hbody : d ∈ definitionsOf m.name "" m.body) : d ∈ m.direct := by
  refine (mem_recorded_iff.1 hd).resolve_right fun hblock => ?_
  have hparts := parts_of_classOf? hblock
  have hnodup := List.Nodup.of_map Definition.qualifiedName hm
  rw [((definitions_perm m).filter _).nodup_iff, List.filter_append] at hnodup
  refine List.disjoint_of_nodup_append hnodup ?_ ?_ (a := d)
  · exact List.mem_filter.2 ⟨hbody, hparts⟩
  · exact List.mem_filter.2 ⟨mem_definitionsOf_of_classOf? hblock, hparts⟩

theorem IsRead.get?_classes (h : m.IsRead) (hd : d ∈ m.recorded) :
    m.classes.get? d.qualname = some d.qualifiedName := by
  rw [h.classes_eq]
  refine Ordered.get?_ofList_of_mem (List.mem_map_of_mem hd) fun n hn => ?_
  obtain ⟨e, he, heq⟩ := List.mem_map.1 hn
  obtain ⟨hname, rfl⟩ := Prod.mk.inj heq
  rw [Definition.qualifiedName, Definition.qualifiedName, hname, module_of_classOf? he,
    module_of_classOf? hd]

end Module

namespace Index

variable {x y : Index} {n : String}

/-! ### What becomes listed -/

theorem defines_add (x : Index) (d : Definition) (n : String) :
    (x.add d).defines n = (decide (n = d.qualifiedName) || x.defines n) :=
  Ordered.contains_insert x.definitions d.qualifiedName n d

theorem Adds.defines {ds : List Definition} (h : Adds x ds y)
    (hn : x.defines n = true ∨ ∃ d ∈ ds, d.parts.isSome = true ∧ d.qualifiedName = n) :
    y.defines n = true := by
  induction h with
  | nil x => exact hn.resolve_right fun ⟨d, hd, _⟩ => absurd hd List.not_mem_nil
  | add _ ih =>
    refine ih ?_
    rw [defines_add, Bool.or_eq_true, decide_eq_true_eq]
    rcases hn with hn | ⟨d, hd, hparts, hn⟩
    · exact .inl (.inr hn)
    · rcases List.mem_cons.1 hd with rfl | hd
      · exact .inl (.inl hn.symm)
      · exact .inr ⟨d, hd, hparts, hn⟩
  | skip hfunction _ ih =>
    refine ih (hn.imp_right ?_)
    rintro ⟨d, hd, hparts, hn⟩
    rcases List.mem_cons.1 hd with rfl | hd
    · rw [hfunction] at hparts
      cases hparts
    · exact ⟨d, hd, hparts, hn⟩

/-- Every class that a module writes down directly is listed, under its name at least. -/
theorem defines_of_direct {modules : List Module} {annotationNames : List String}
    (hx : make modules annotationNames = .ok x) (hm : x.modules.get? n = some m)
    (hd : d ∈ m.direct) : x.defines d.qualifiedName = true := by
  refine (adds_addModules hx).defines (.inr ⟨d, List.mem_flatMap.2 ⟨m, ?_,
    mem_definitionsOf_of_classOf? hd⟩, parts_of_classOf? hd, rfl⟩)
  rw [← (keyed_make hx).2]
  exact List.mem_map_of_mem ((Ordered.get?_eq_some_iff _ n m).1 hm)

/-! ### What is recorded -/

/-- No two classes of the modules have one qualified name. -/
def HasDistinctClasses (x : Index) : Prop :=
  (x.modules.values.flatMap Module.classNames).Nodup

instance (x : Index) : Decidable x.HasDistinctClasses :=
  inferInstanceAs (Decidable (List.Nodup _))

theorem mem_values (hm : x.modules.get? n = some m) : m ∈ x.modules.values :=
  List.mem_map_of_mem ((Ordered.get?_eq_some_iff _ n m).1 hm)

theorem HasDistinctClasses.classNames (h : x.HasDistinctClasses)
    (hm : x.modules.get? n = some m) : m.classNames.Nodup :=
  (List.nodup_flatMap.1 h).1 m (mem_values hm)

/-- The only class that can be listed under the name of a recorded one is that class, and it is
written outside of blocks. -/
theorem HasDistinctClasses.eq_of_listed (h : x.HasDistinctClasses) (hx : x.Keyed)
    (hm : x.modules.get? n = some m) (hd : d ∈ m.recorded)
    (he : x.definitions.get? d.qualifiedName = some e) (hparts : e.parts.isSome = true) :
    e = d ∧ d ∈ m.direct := by
  obtain ⟨k, hk, hwritten⟩ := hx.written _ e he
  have hkname := hx.module _ k hk
  rw [← hkname] at hwritten
  have hall : ∀ b ∈ definitionsOf k.name "" k.body, b ∈ definitionsOf k.name "" (topLevel k.body) :=
    fun b hb => (Module.definitions_perm k).mem_iff.2 (List.mem_append_left _ hb)
  have hdmem : d ∈ (definitionsOf m.name "" (topLevel m.body)).filter fun d => d.parts.isSome :=
    List.mem_filter.2 ⟨mem_definitionsOf_of_classOf? hd, parts_of_classOf? hd⟩
  have hemem : e ∈ (definitionsOf k.name "" (topLevel k.body)).filter fun d => d.parts.isSome :=
    List.mem_filter.2 ⟨hall e hwritten, hparts⟩
  have hname := hx.definition _ e he
  obtain rfl : k = m := by
    by_contra hne
    have hsymm : Std.Symm (Function.onFun List.Disjoint Module.classNames) :=
      ⟨fun a b hab c hc hc' => hab hc' hc⟩
    have hdisjoint := (List.nodup_flatMap.1 h).2.forall (mem_values hk) (mem_values hm) hne
    exact hdisjoint (hname ▸ List.mem_map_of_mem hemem) (List.mem_map_of_mem hdmem)
  obtain rfl := List.inj_on_of_nodup_map (h.classNames hm) hemem hdmem hname
  exact ⟨rfl, Module.mem_direct_of_nodup (h.classNames hm) hd hwritten⟩

/-- A name in a module starts with the module, when it is one word. -/
theorem startsIn_module (hm : x.modules.get? n = some m) {name : String}
    (hword : segments name = [name]) : x.StartsIn (n ++ "." ++ name) m name [] := by
  have hpos := List.length_pos_iff.2 (segments_ne_nil n)
  refine ⟨(segments n).length, hpos, ?_, ?_, fun j hj hlt => ?_⟩
  · rw [segments_append, List.drop_left, hword]
  · rw [segments_append, List.take_left, dotted_segments]
    exact hm
  · rw [segments_append, List.length_append, hword, List.length_singleton] at hlt
    omega

/-- The name of a recorded class is followed no further. -/
theorem canon_of_recorded (hx : x.WellRead) (hread : m.IsRead) (hm : x.modules.get? n = some m)
    (hd : d ∈ m.recorded) (hword : segments d.qualname = [d.qualname]) :
    x.canon d.qualifiedName = d.qualifiedName := by
  have hstarts : x.StartsIn d.qualifiedName m d.qualname [] := by
    rw [Definition.qualifiedName, module_of_classOf? hd, hx.module n m hm]
    exact startsIn_module hm hword
  exact canonical_of_final hx (final_of_class hstarts (hread.get?_classes hd)) maxHops

/-- The symbol table of a module records every class of its top level, and the index lists those
that the module writes down directly: each can be asked for, and an iteration yields it once if it is
marked. A class in a block is recorded and not listed, so it is neither described nor yielded. -/
theorem recorded_class_listed_iff_direct {modules : List Module} {annotationNames : List String}
    (hx : make modules annotationNames = .ok x) (hsource : ∀ m ∈ modules, m.IsSource)
    (hdistinct : x.HasDistinctClasses) (hm : x.modules.get? n = some m) (hd : d ∈ m.recorded)
    (hword : segments d.qualname = [d.qualname]) (questions : List Question) :
    let s := x.provider.after questions Memory.empty
    m.classes.get? d.qualname = some d.qualifiedName ∧
    (d ∈ m.direct → x.defines d.qualifiedName = true) ∧
    (∀ e, x.definitions.get? d.qualifiedName = some e → e.parts.isSome = true →
      e = d ∧ d ∈ m.direct) ∧
    (x.Lists d →
      (∀ marking, x.marking? d = .ok marking →
        ∃ a, (x.provider.get d.qualifiedName).answer s = .ok (some a) ∧ x.Describes d a) ∧
      x.Discovers s fun as =>
        (as.map Declaration.qualifiedName).count d.qualifiedName =
          if x.IsMarked d then 1 else 0) ∧
    (x.defines d.qualifiedName = false →
      (x.provider.get d.qualifiedName).answer s = .ok none ∧
      x.Discovers s fun as => d.qualifiedName ∉ as.map Declaration.qualifiedName) := by
  have hkeyed := (keyed_make hx).1
  have hread : m.IsRead := (hsource m (mem_modules hx hm)).read
  have hwell : x.WellRead := wellRead_make hx fun m hm => (hsource m hm).read
  have hdiscovers := discovers_markedNames hkeyed (after_remembers hkeyed questions)
  refine ⟨hread.get?_classes hd, defines_of_direct hx hm,
    fun e he => hdistinct.eq_of_listed hkeyed hm hd he, fun hlists => ⟨?_, ?_⟩, fun hnone => ⟨?_, ?_⟩⟩
  · intro marking hmarking
    exact described_of_definition hx hsource hlists hmarking (.inl (parts_of_classOf? hd)) questions
  · refine hdiscovers.imp fun as ⟨hnames, _⟩ => ?_
    rw [hnames, x.nodup_markedNames.count]
    have hiff : d.qualifiedName ∈ x.markedNames ↔ x.IsMarked d := by
      rw [mem_markedNames]
      constructor
      · rintro ⟨e, he, hmarked⟩
        obtain rfl : d = e := Option.some.inj (hlists.symm.trans he)
        exact hmarked
      · exact fun hmarked => ⟨d, hlists, hmarked⟩
    simp only [hiff]
  · have hanswer : x.Answers d.qualifiedName ((x.provider.get d.qualifiedName).answer
        (x.provider.after questions Memory.empty)) :=
      answer_get hkeyed _ (after_remembers hkeyed questions)
    have hget : x.definitions.get? (x.canon d.qualifiedName) = none := by
      rw [canon_of_recorded hwell hread hm hd hword]
      simpa [defines, Ordered.contains] using hnone
    generalize (x.provider.get d.qualifiedName).answer _ = answer at hanswer ⊢
    cases hanswer with
    | unknown _ => rfl
    | known he _ => cases hget.symm.trans he
    | refused he _ => cases hget.symm.trans he
  · refine hdiscovers.imp fun as ⟨hnames, _⟩ => ?_
    rw [hnames, mem_markedNames]
    rintro ⟨e, he, -⟩
    simp [defines, Ordered.contains, he] at hnone

def guardedMarker (identifier : String) : Expr :=
  .call (.name "factory") []
    [.mk (some "identifier") (.constant (.text identifier false)),
     .mk (some "type") (.constant (.text "T" false))]

/-- A marked class written directly in a module, and one in a conditional block. -/
def guarded : Module :=
  Module.make "m" (Path.ofText "m.py")
    [.importFrom (some "factorygen") [⟨"factory", none⟩] 0,
     .classDef 4 3 "A" [] [] [guardedMarker "a"] [.pass],
     .ifElse (.constant (.bool true)) [.classDef 9 8 "B" [] [] [guardedMarker "b"] [.pass]] []]

def guardedIndex : Index :=
  (make [guarded] ["factorygen.factory"]).toOption.getD ⟨Ordered.empty, Ordered.empty, []⟩

theorem guarded_source : ∀ m ∈ [guarded], m.IsSource := by
  intro m hm
  obtain rfl := List.mem_singleton.1 hm
  refine ⟨⟨_, _, _, rfl⟩, rfl, fun d hd _ => ?_⟩
  obtain rfl := List.mem_singleton.1 hd
  rfl

def guardedClass : Definition :=
  ⟨"m", "A", 4, [guardedMarker "a"], some ⟨[], [], [.pass]⟩⟩

theorem direct_class_yielded_once :
    make [guarded] ["factorygen.factory"] = .ok guardedIndex ∧
    guardedIndex.IsMarked guardedClass ∧
    (∃ a, (guardedIndex.provider.get "m.A").answer
      (guardedIndex.provider.after [.get "m.B"] Memory.empty) = .ok (some a)) ∧
    guardedIndex.Discovers (guardedIndex.provider.after [.get "m.B"] Memory.empty) fun as =>
      (as.map Declaration.qualifiedName).count "m.A" = 1 := by
  have hmake : make [guarded] ["factorygen.factory"] = .ok guardedIndex := rfl
  have hmarked : guardedIndex.IsMarked guardedClass := by rfl
  have hdistinct : guardedIndex.HasDistinctClasses := by decide
  have hrecorded : guardedClass ∈ guarded.recorded := .head _
  obtain ⟨-, -, -, hlisted, -⟩ := recorded_class_listed_iff_direct hmake guarded_source hdistinct
    (show guardedIndex.modules.get? "m" = some guarded from rfl) hrecorded rfl [.get "m.B"]
  obtain ⟨hget, hyields⟩ := hlisted rfl
  rw [if_pos hmarked] at hyields
  obtain ⟨a, ha, -⟩ := hget (some ⟨.text "a", .reference ⟨"T", some "m"⟩⟩) rfl
  exact ⟨hmake, hmarked, ⟨a, ha⟩, hyields⟩

/-- A class in a block that the symbol table of its module records, and that carries the marker, is
neither described nor yielded. -/
theorem guarded_class_dropped :
    make [guarded] ["factorygen.factory"] = .ok guardedIndex ∧
    (∀ m ∈ [guarded], m.IsSource) ∧ guardedIndex.HasDistinctClasses ∧
    guarded.classes.get? "B" = some "m.B" ∧
    (∃ d ∈ guarded.recorded, d.qualifiedName = "m.B" ∧ guardedIndex.IsMarked d) ∧
    (guardedIndex.provider.get "m.B").answer Memory.empty = .ok none ∧
    (guardedIndex.provider.discover.answer Memory.empty).map
      (List.map Declaration.qualifiedName) = .ok ["m.A"] :=
  ⟨rfl, guarded_source, by decide, rfl, ⟨_, .tail _ (.head _), rfl, rfl⟩, rfl, rfl⟩

end Index

end Foundry.Source
