import Foundry.Proofs.Live.ClassBodies
import Foundry.Proofs.Live.Modules

/-!
Class statements that may be decorated as data classes, as they are executed: one after another they
are a run.
-/

namespace Foundry.Live

open Query

open Foundry.Source (Definition Expr Index Keyword Stmt)

variable {x : Index} {d : Definition} {module : String} {known : String → Option Object}

/-! ### Expressions that are looked up -/

theorem after_name {fuel : Nat} {s : Surroundings} {m : Machine} {n : String} {o : Object}
    (hlook : m.lookUp s n = some o) :
    After (eval (fuel + 1) s (.name n)) m (fun o' t => o' = o ∧ t = m) fun _ _ => False := by
  unfold eval
  rw [after_bind, after_get, hlook]
  exact ⟨rfl, rfl⟩

theorem after_plain {fuel : Nat} {s : Surroundings} {m : Machine} {e : Expr} {o : Object}
    (hk : KnowsNames known s m) (he : plainObject? known e = some o) :
    After (eval (fuel + 2) s e) m (fun o' t => o' = o ∧ t = m) fun _ _ => False := by
  unfold plainObject? at he
  split at he
  · obtain rfl := Option.some.inj he
    exact ⟨rfl, rfl⟩
  · exact after_name (hk _ _ he)
  · rename_i n k
    split at he
    · rename_i t o' ht ho'
      obtain rfl := Option.some.inj he
      unfold eval
      rw [after_bind]
      refine (after_name (hk _ _ ht)).imp ?_ fun _ _ he => he
      rintro _ m ⟨rfl, rfl⟩
      rw [after_bind, after_discard]
      refine (after_name (hk _ _ ho')).imp ?_ fun _ _ he => he
      rintro _ m ⟨rfl, rfl⟩
      exact ⟨rfl, rfl⟩
    · cases he
  · cases he

theorem after_keywords {fuel : Nat} {s : Surroundings} {m : Machine} {keywords : List Keyword}
    {named : List (String × Object)} (hk : KnowsNames known s m)
    (hkeywords : plainKeywords? known keywords = some named) :
    After (keywords.mapM fun k => do
        let o ← eval (fuel + 2) s k.value
        return (k.name.map fun n => (n, o)).toList) m
      (fun os t => os.flatten = named ∧ t = m) fun _ _ => False := by
  induction keywords generalizing named with
  | nil =>
    obtain rfl := Option.some.inj hkeywords
    exact ⟨rfl, rfl⟩
  | cons k rest ih =>
    obtain ⟨n, o, others, hn, ho, hothers, rfl⟩ := plainKeywords_cons hkeywords
    rw [List.mapM_cons, after_bind, after_bind]
    refine (after_plain hk ho).imp ?_ fun _ _ he => he
    rintro _ m ⟨rfl, rfl⟩
    rw [after_pure, after_bind]
    refine (ih hothers).imp ?_ fun _ _ he => he
    rintro os m ⟨rfl, rfl⟩
    rw [hn]
    exact ⟨rfl, rfl⟩

/-! ### Members of a class body -/

namespace Machine

variable {m : Machine} {place : Nat} {n k : String} {o? : Option Object} {hint : Object}

/-- The machine after a name got a value, if it got one. -/
def valued (m : Machine) (place : Nat) (n : String) : Option Object → Machine
  | some o => m.bound place n o
  | none => m

/-- The machine after a name was annotated. -/
def annotated (m : Machine) (place : Nat) (n : String) (o? : Option Object) (hint : Object) :
    Machine :=
  (m.valued place n o?).bound place "__annotations__"
    (.hints ((Heap.hintsOf ((m.valued place n o?).heap.namesAt place)).filter
      (fun e => e.1 != n) ++ [(n, hint)]))

theorem keeps_annotated : m.heap.Keeps (m.annotated place n o? hint).heap := by
  cases o? with
  | none => exact Heap.keeps_bind ..
  | some o => exact (Heap.keeps_bind ..).trans (Heap.keeps_bind ..)

theorem spares_annotated : m.Spares place (m.annotated place n o? hint) := by
  have hvalued : m.Spares place (m.valued place n o?) := by
    cases o? with
    | none => exact .refl _ _
    | some o => exact m.spares_bind place n o
  exact hvalued.trans (spares_bind ..)

theorem size_valued : (m.valued place n o?).heap.names.size = m.heap.names.size := by
  cases o? with
  | none => rfl
  | some o => exact size_bound

theorem size_annotated : (m.annotated place n o? hint).heap.names.size = m.heap.names.size :=
  size_bound.trans size_valued

theorem namesAt_annotated (hplace : place < m.heap.names.size) :
    (m.annotated place n o? hint).heap.namesAt place =
      withField (m.heap.namesAt place) n o? hint := by
  have hvalued : (m.valued place n o?).heap.namesAt place =
      withValue (m.heap.namesAt place) n o? := by
    cases o? with
    | none => rfl
    | some o => exact namesAt_bound hplace
  have hsize : place < (m.valued place n o?).heap.names.size := size_valued.symm ▸ hplace
  rw [annotated, namesAt_bound hsize, hvalued, withField]

theorem lookUp_annotated (hn : k ≠ n) (hk : k ≠ "__annotations__") (s : Surroundings) :
    (m.annotated place n o? hint).lookUp s k = m.lookUp s k := by
  rw [annotated, lookUp_bound hk]
  cases o? with
  | none => rfl
  | some o => exact lookUp_bound hn s

end Machine

theorem after_value {fuel : Nat} {s : Surroundings} {m : Machine} {e : Expr} {o? : Option Object}
    (hk : KnowsNames known s m) (hv : FieldValue x module known (some e) o?) :
    After (eval (fuel + 3) s e) m (fun o t => o? = some o ∧ t = m) fun _ _ => True := by
  cases hv with
  | constant c => exact ⟨rfl, rfl⟩
  | @described f keywords named hf _ hkeywords _ _ =>
    unfold eval
    rw [after_bind]
    refine (after_name (hk _ _ hf)).imp ?_ fun _ _ he => he.elim
    rintro _ m ⟨rfl, rfl⟩
    rw [List.mapM_nil, after_bind, after_pure, after_bind]
    refine (after_keywords hk hkeywords).imp ?_ fun _ _ he => he.elim
    rintro os m ⟨rfl, rfl⟩
    have hcall : call (fuel + 2) (.tool .field) [] os.flatten =
        useTool .field [] os.flatten := rfl
    rw [List.flatten_nil, hcall]
    unfold useTool
    rw [after_bind, after_get]
    dsimp only
    split
    · trivial
    · exact ⟨rfl, rfl⟩

theorem after_field {fuel : Nat} {s : Surroundings} {m : Machine} {n : String} {hint : Expr}
    {value : Option Expr} {o : Object} {o? : Option Object} (hk : KnowsNames known s m)
    (houtside : s.isInFunction = false) (hh : FieldHint x module known hint o)
    (hv : FieldValue x module known value o?) (hkn : known n = none) :
    After (exec (fuel + 4) s (.annotated (.name n) hint value)) m
      (fun r t => r = none ∧ t = m.annotated s.locals n o? o) fun _ _ => True := by
  have hvalued : KnowsNames known s (m.valued s.locals n o?) := by
    intro k o' ho'
    cases o? with
    | none => exact hk k o' ho'
    | some v =>
      refine (Machine.lookUp_bound (fun heq => ?_) s).trans (hk k o' ho')
      rw [heq, hkn] at ho'
      cases ho'
  -- With the value bound, the annotation is evaluated, guarded or not.
  have hhint : After (if s.isLazy = true then do
        let o ← quietly (eval (fuel + 3) s hint)
        addHint s n o
        return (none : Option Object)
      else do
        let o ← eval (fuel + 3) s hint
        addHint s n o
        return none) (m.valued s.locals n o?)
      (fun r t => r = none ∧ t = m.annotated s.locals n o? o) fun _ _ => True := by
    have heval : After (eval (fuel + 3) s hint) (m.valued s.locals n o?)
        (fun v t => v = o ∧ t = m.valued s.locals n o?) fun _ _ => False :=
      after_plain hvalued hh.stands
    split
    · unfold quietly
      rw [after_bind, after_tryCatch]
      refine heval.imp ?_ fun _ _ he => he.elim
      rintro _ t ⟨rfl, rfl⟩
      exact ⟨rfl, rfl⟩
    · rw [after_bind]
      refine heval.imp ?_ fun _ _ he => he.elim
      rintro _ t ⟨rfl, rfl⟩
      exact ⟨rfl, rfl⟩
  unfold exec
  cases value with
  | none =>
    dsimp only
    rw [houtside]
    cases hv
    exact hhint
  | some e =>
    dsimp only
    rw [houtside, after_bind]
    refine (after_value hk hv).imp ?_ fun _ _ _ => trivial
    rintro v m ⟨rfl, rfl⟩
    have hassign : assign (fuel + 3) s (.name n) v = bindLocal s n v := rfl
    rw [hassign, after_bind]
    exact hhint

/-- The members of a class body are bound one after another. -/
theorem after_members {fuel : Nat} {s : Surroundings} {m : Machine} {body : List Stmt}
    (hmembers : ∀ st ∈ body, Member x module known st) (hplace : s.locals < m.heap.names.size)
    (hk : KnowsNames known s m) (hfree : ∀ n ∈ memberNames body, known n = none)
    (hannotations : known "__annotations__" = none) (houtside : s.isInFunction = false) :
    After (runAll (exec (fuel + 4) s) body) m
      (fun _ t => m.heap.Keeps t.heap ∧ m.Spares s.locals t ∧ BindsMembers x module known body
        (m.heap.namesAt s.locals) (t.heap.namesAt s.locals)) fun _ _ => True := by
  induction body generalizing m with
  | nil => exact ⟨.refl _, .refl _ _, .nil⟩
  | cons st body ih =>
    have hrest := fun st' hst' => hmembers st' (List.mem_cons_of_mem st hst')
    have hst := hmembers st List.mem_cons_self
    unfold runAll
    rw [after_bind]
    cases hst with
    | pass =>
      refine (ih hrest hplace hk hfree).imp ?_ fun _ _ he => he
      rintro _ t ⟨hkeeps, hspares, hbinds⟩
      exact ⟨hkeeps, hspares, .pass hbinds⟩
    | @field n hint value o o? hh hv =>
      rw [memberNames_field] at hfree
      have hn := hfree n List.mem_cons_self
      refine (after_field hk houtside hh hv hn).imp ?_ fun _ _ he => he
      rintro _ _ ⟨rfl, rfl⟩
      have hknows : KnowsNames known s (m.annotated s.locals n o? o) := by
        intro k o' ho'
        refine (Machine.lookUp_annotated (fun heq => ?_) (fun heq => ?_) s).trans (hk k o' ho')
        · rw [heq, hn] at ho'
          cases ho'
        · rw [heq, hannotations] at ho'
          cases ho'
      refine (ih hrest (Machine.size_annotated.symm ▸ hplace) hknows
        fun k hk' => hfree k (List.mem_cons_of_mem n hk')).imp ?_ fun _ _ he => he
      rintro _ t ⟨hkeeps, hspares, hbinds⟩
      rw [Machine.namesAt_annotated hplace] at hbinds
      exact ⟨Machine.keeps_annotated.trans hkeeps, Machine.spares_annotated.trans hspares,
        .field hh hv hbinds⟩
    | @method marker k hplain habs _ =>
      rw [memberNames_method] at hfree
      have hn := hfree k.name List.mem_cons_self
      have hmethod : After (exec (fuel + 1 + 3) s (k.statement marker)) m _ fun _ _ => False :=
        after_method hplain fun h => hk _ _ (habs h)
      refine hmethod.imp ?_ fun _ _ he => he.elim
      rintro _ _ ⟨rfl, f, -, -, rfl⟩
      have hknows : KnowsNames known s (m.addMethod s.locals k.name f) := by
        intro k' o' ho'
        refine (Machine.lookUp_addMethod (fun heq => ?_) s).trans (hk k' o' ho')
        rw [heq, hn] at ho'
        cases ho'
      refine (ih hrest (Machine.size_addMethod.symm ▸ hplace) hknows
        fun k' hk' => hfree k' (List.mem_cons_of_mem k.name hk')).imp ?_ fun _ _ he => he
      rintro _ t ⟨hkeeps, hspares, hbinds⟩
      rw [Machine.namesAt_addMethod hplace] at hbinds
      exact ⟨Machine.keeps_addMethod.trans hkeeps, Machine.spares_addMethod.trans hspares,
        .method hbinds⟩

/-! ### Decorated class statements -/

/-- How a class statement is decorated: not at all, or as a data class, by the name of the decorator
or by a call with options. -/
inductive Decoration (x : Index) (module : String) (known : String → Option Object) :
    List Expr → Option DataOptions → Prop
  | plain : Decoration x module known [] none
  | named {n : String} : known n = some (.tool (.dataclass ⟨true, false⟩)) →
    x.resolveExpr module (.name n) = some "dataclasses.dataclass" →
    Decoration x module known [.name n] (some ⟨true, false⟩)
  | called {n : String} {o : DataOptions} {keywords : List Keyword}
      {named : List (String × Object)} : known n = some (.tool (.dataclass o)) →
    x.resolveExpr module (.name n) = some "dataclasses.dataclass" →
    plainKeywords? known keywords = some named → (named.map Prod.fst).Nodup →
    (∀ e, writtenOption keywords "init" = some e → ∃ b, e = .constant (.bool b)) →
    Decoration x module known [.call (.name n) [] keywords]
      (some ⟨option named "init" true, option named "kw_only" false⟩)

/-- The source tells how a class is decorated. -/
theorem Decoration.decorates {options : Option DataOptions}
    (hdecoration : Decoration x d.module known d.decorators options) : Decorates x d options := by
  generalize hdecorators : d.decorators = decorators at hdecoration
  have hmarker : x.dataclassMarker? d = decorators.find? fun e =>
      x.resolveExpr d.module (Source.decoratorTarget e) == some "dataclasses.dataclass" := by
    rw [Index.dataclassMarker?, hdecorators]
  cases hdecoration with
  | plain =>
    refine ⟨?_, fun o ho => nomatch ho⟩
    rw [Index.isDataClass, hmarker]
    rfl
  | @named n _ hresolve =>
    have htarget : Source.decoratorTarget (.name n) = .name n := rfl
    have hfound : x.dataclassMarker? d = some (.name n) := by
      rw [hmarker, List.find?_cons, htarget, hresolve]
      rfl
    refine ⟨?_, fun o ho => ?_⟩
    · rw [Index.isDataClass, hfound]
      rfl
    · obtain rfl := Option.some.inj ho
      rw [Index.hasFieldConstructor, hfound]
  | @called n o keywords named _ hresolve hkeywords hdistinct hinit =>
    have hfound : x.dataclassMarker? d = some (.call (.name n) [] keywords) := by
      rw [hmarker, List.find?_cons, Source.decoratorTarget, hresolve]
      rfl
    refine ⟨?_, fun o ho => ?_⟩
    · rw [Index.isDataClass, hfound]
      rfl
    · obtain rfl := Option.some.inj ho
      rw [Index.hasFieldConstructor, hfound]
      dsimp only
      rw [any_option (nodup_name_of_plainKeywords hkeywords hdistinct),
        option_of_plainKeywords hkeywords hdistinct hinit]

theorem after_decorators {fuel : Nat} {s : Surroundings} {m : Machine} {decorators : List Expr}
    {options : Option DataOptions} (hk : KnowsNames known s m)
    (hdecoration : Decoration x module known decorators options) :
    After (decorators.mapM (eval (fuel + 3) s)) m
      (fun os t => os = (options.map fun o => Object.tool (.dataclass o)).toList ∧ t = m)
      fun _ _ => True := by
  cases hdecoration with
  | plain => exact ⟨rfl, rfl⟩
  | named hn _ =>
    rw [List.mapM_cons, after_bind]
    refine (after_name (hk _ _ hn)).imp ?_ fun _ _ he => he.elim
    rintro _ m ⟨rfl, rfl⟩
    exact ⟨rfl, rfl⟩
  | @called n o keywords named hn _ hkeywords _ _ =>
    rw [List.mapM_cons, after_bind]
    unfold eval
    rw [after_bind]
    refine (after_name (hk _ _ hn)).imp ?_ fun _ _ he => he.elim
    rintro _ m ⟨rfl, rfl⟩
    rw [List.mapM_nil, after_bind, after_pure, after_bind]
    refine (after_keywords hk hkeywords).imp ?_ fun _ _ he => he.elim
    rintro os m ⟨rfl, rfl⟩
    exact ⟨rfl, rfl⟩

theorem after_decorate {fuel p : Nat} {m : Machine} {options : Option DataOptions} :
    After (decorate (fuel + 2) (options.map fun o => Object.tool (.dataclass o)).toList (.class p)) m
      (fun o t => m.heap.decorated p options = .ok t.heap ∧ t = { m with heap := t.heap } ∧
        o = .class p) fun _ _ => True := by
  cases options with
  | none => exact ⟨rfl, rfl, rfl⟩
  | some o =>
    have hdecorate : decorate (fuel + 2) [.tool (.dataclass o)] (.class p) =
        applyDataClass o (.class p) >>= pure := rfl
    have hlist : ((some o).map fun o => Object.tool (.dataclass o)).toList =
        [.tool (.dataclass o)] := rfl
    rw [hlist, hdecorate]
    unfold applyDataClass
    simp only [after_bind, after_get, after_attempt]
    cases hmade : m.heap.makeDataClass p o with
    | error f => trivial
    | ok h => exact ⟨hmade, rfl, rfl⟩

/-- A class body with fields and methods that uses these names and binds others. -/
structure DataBody (x : Index) (module : String) (known : String → Option Object)
    (body : List Stmt) : Prop where
  members : ∀ st ∈ body, Member x module known st
  distinct : (memberNames body).Nodup
  reserved : ∀ n ∈ reservedNames, n ∉ memberNames body ∧ known n = none
  constructor : ∀ hint value, .annotated (.name "__init__") hint value ∉ body
  free : ∀ n ∈ memberNames body, known n = none

/-- A class statement of the index with fields and methods, at a machine that knows the names it
uses. -/
structure IsDataStatement (x : Index) (m : Machine) (s : Surroundings) (d : Definition)
    (name : String) (bases : List Expr) (body : List Stmt) (known : String → Option Object) : Prop
    extends Stated x m s d name bases body, DataBody x d.module known body where
  known : KnowsNames known (m.bodyOf s name) (m.enterBody s name)
  outside : (m.bodyOf s name).isInFunction = false

namespace Heap

variable {h h' : Heap} {p : Nat}

theorem WellFielded.define_of_makeClass {name : String} {written : List Nat} {own : Names}
    {metaclass : Nat} (hw : WellFielded x h)
    (hwritten : List.Forall₂ (h.Stands x) (x.bases d) written)
    (hprepare : h.prepareClass name written none = .ok metaclass)
    (hmake : h.makeClass d.module d.qualname written metaclass own false = .ok (p, h')) :
    p = h.classes.size ∧ h'.names = h.names ∧ h.define d written own = some h' := by
  have hlib := hw.library
  have hancestral : ∀ b ∈ written, h.skeleton.Ancestral b := by
    intro b hb
    obtain ⟨n, -, hn⟩ := exists_left_of_mem hwritten hb
    exact hn.skeleton.ancestral
  have hmetaclasses : ∀ b ∈ written,
      h.metaclassAt b = Place.type ∨ h.metaclassAt b = Place.abstractMeta := fun b hb =>
    metaclassAt_skeleton h b ▸ hw.skeleton.wellMade.metaclassAt (hancestral b hb)
  have hprotocols := fun b hb => (hancestral b hb).notMem_protocols
  have hprepare' := prepareClass_eq hlib d.qualname hmetaclasses
  rw [prepareClass_eq hlib name hmetaclasses] at hprepare
  obtain rfl := Except.ok.inj hprepare
  obtain ⟨c, hp, hh', -⟩ := makeClass_eq_ok hprotocols
    (derives_enumMeta hlib (commonMetaclass_eq h written)) hmake
  refine ⟨hp, hh' ▸ rfl, ?_⟩
  unfold define
  rw [hprepare']
  dsimp only
  rw [hmake]

end Heap

theorem Heap.names_decorated {h h' : Heap} {p : Nat} {options : Option DataOptions}
    (hdecorated : h.decorated p options = .ok h') : h'.names = h.names := by
  cases options with
  | none =>
    obtain rfl := Except.ok.inj hdecorated
    rfl
  | some o =>
    cases hc : h.class? p with
    | none =>
      simp only [decorated, makeDataClass, hc, Except.ok.injEq] at hdecorated
      rw [hdecorated]
    | some c =>
      obtain ⟨own, -, rfl⟩ := makeDataClass_eq_ok hc hdecorated
      unfold updateClass withConstructor
      split <;> rfl

/-- What the body of a statement leaves behind binds the names of its fields. -/
theorem after_dataBody {fuel : Nat} {m : Machine} {s : Surroundings} {name : String}
    {bases : List Expr} {body : List Stmt} (hs : IsDataStatement x m s d name bases body known) :
    After (runAll (exec (fuel + 4) (m.bodyOf s name)) body) (m.enterBody s name) (fun _ u =>
      m.heap.Keeps u.heap ∧ m.Spares m.heap.names.size u ∧
        (u.heap.namesAt m.heap.names.size).get? "__module__" = some (.value (.text d.module)) ∧
        (u.heap.namesAt m.heap.names.size).get? "__qualname__" =
          some (.value (.text d.qualname)) ∧
        BindsFields x d ((u.heap.namesAt m.heap.names.size).erase "__qualname__"))
      fun _ _ => True := by
  refine (after_members hs.members (m.locals_lt_enterBody s name) hs.known hs.free
    (hs.reserved _ (by decide)).2 hs.outside).imp ?_ fun _ _ _ => trivial
  rintro _ u ⟨hkeeps, hspares, hbinds⟩
  rw [m.namesAt_enterBody s name] at hbinds
  have hreserved := fun n hn => (hs.reserved n hn).1
  refine ⟨(Heap.keeps_addNames ..).trans hkeeps, (m.spares_enterBody s name).trans hspares, ?_, ?_,
    bindsFields_of_members hs.parts hs.members hbinds hs.distinct hreserved hs.constructor⟩
  · refine (hbinds.get?_of_notMem (hreserved _ (by decide)) (by decide)).trans ?_
    rw [← hs.module]
    rfl
  · refine (hbinds.get?_of_notMem (hreserved _ (by decide)) (by decide)).trans ?_
    rw [← hs.qualname]
    rfl

/-- A class statement that may be decorated as a data class is one step of a run. -/
theorem runs_dataStatement {fuel line start : Nat} {m : Machine} {s : Surroundings} {name : String}
    {bases : List Expr} {body : List Stmt} {options : Option DataOptions} {outer : Known}
    (hr : Heap.DataRuns x m.heap) (hplace : s.locals < m.heap.names.size)
    (hnew : ∀ p, ¬m.heap.Depicts x p d) (houter : KnowsNames outer s m)
    (hdecoration : Decoration x d.module outer d.decorators options)
    (hs : IsDataStatement x m s d name bases body known) :
    After (exec (fuel + 6) s (.classDef line start name bases [] d.decorators body)) m
      (fun o t => o = none ∧ Makes x (Heap.DataRuns x) s d name m t) fun _ _ => True := by
  have hclass : d.parts.isSome = true := by
    rw [hs.parts]
    rfl
  obtain ⟨written, hstands, hbases⟩ := after_bases (fuel + 3) hs.bases
  have hwritten : ∀ p ∈ written, p ≠ Place.generic := by
    intro p hp
    obtain ⟨n, -, hn⟩ := exists_left_of_mem hstands hp
    exact hn.ancestral.ne_generic
  have hexec : exec (fuel + 6) s (.classDef line start name bases [] d.decorators body) = do
      let ds ← d.decorators.mapM (eval (fuel + 5) s)
      let o ← makeClass (fuel + 5) s name bases [] body
      bindLocal s name (← decorate (fuel + 5) ds o)
      return none := rfl
  rw [hexec, after_bind]
  refine (after_decorators houter hdecoration).imp ?_ fun _ _ _ => trivial
  rintro _ m ⟨rfl, rfl⟩
  rw [after_bind]
  refine (after_makeClass hbases hwritten (after_dataBody hs)).imp ?_ fun _ _ _ => trivial
  rintro _ t ⟨u, metaclass, module, qualname, p, hkeeps, ⟨hspares, hmodule, hqualname, hbinds⟩,
    hprepare, hmake, ht, rfl⟩
  rw [textOf, textOf, hmodule, hqualname] at hmake
  have hr' : Heap.DataRuns x u.heap := hr.other hkeeps.grows hkeeps.classes
  have hfresh : ∀ q, ¬u.heap.Depicts x q d := fun q hq => hnew q (hkeeps.depicts_iff.1 hq)
  have hstands' := hstands.imp fun _ _ hs => hs.extends hkeeps.grows
  obtain ⟨rfl, hnames, hdefine⟩ := hr'.wellFielded.define_of_makeClass hstands' hprepare hmake
  rw [after_bind]
  refine after_decorate.imp ?_ fun _ _ _ => trivial
  rintro _ v ⟨hdecorated, hv, rfl⟩
  have hruns : Heap.DataRuns x v.heap := hr'.statement hs.lists hclass hfresh hstands' hbinds
    hdecoration.decorates hdefine hdecorated
  have hdefines := (hr'.wellFielded.statement hs.lists hclass hfresh hstands' hbinds
    hdecoration.decorates hdefine hdecorated).2
  have hspares' : m.Spares m.heap.names.size v := by
    rw [hv, ht]
    exact hspares.trans
      (Machine.spares_of_names ((Heap.names_decorated hdecorated).trans hnames))
  have hbound := Heap.keeps_bind v.heap s.locals name (.class u.heap.classes.size)
  refine ⟨rfl, hruns.other hbound.grows hbound.classes, hdefines.between hkeeps hbound, ?_⟩
  exact hkeeps.classes ▸ hspares'.binds hplace ..

/-! ### Modules with data classes -/

/-- One name and what it stands for. -/
def Known.only (n : String) (o : Object) : Known :=
  Known.bind (fun _ => none) n o

theorem Known.of_only {known : Known} {n k : String} {o o' : Object} (hn : known n = some o)
    (ho : Known.only n o k = some o') : known k = some o' := by
  unfold Known.only Known.bind at ho
  split at ho
  · rename_i hk
    obtain rfl := Option.some.inj ho
    rwa [hk]
  · cases ho

/-- A class body with fields and methods that uses names its module knows, and how its class is
decorated. -/
def WritesData (x : Index) (known : Known) (d : Definition) (body : List Stmt) : Prop :=
  ∃ used options, (∀ n o, used n = some o → known n = some o) ∧
    Decoration x d.module known d.decorators options ∧ DataBody x d.module used body

theorem Stage.isDataStatement {s : Surroundings} {made : List String} {m : Machine}
    {used : Known} {name : String} {bases : List Expr} {body : List Stmt}
    (h : Stage x s known made m) (hs : s.IsTop) (hstated : Stated x m s d name bases body)
    (hused : ∀ n o, used n = some o → known n = some o) (hbody : DataBody x d.module used body) :
    IsDataStatement x m s d name bases body used where
  toStated := hstated
  toDataBody := hbody
  known := by
    intro n o ho
    refine h.knows_enterBody hs (hused n o ho) fun hmem => ?_
    have hnone := (hbody.reserved n (List.mem_append_left ["__annotations__", "__new__"] hmem)).2
    rw [ho] at hnone
    cases hnone
  outside := by
    have henclosing : (m.bodyOf s name).enclosing = [] := hs.enclosing
    rw [Surroundings.isInFunction, henclosing]
    rfl

/-- A module whose classes have fields and methods and may be decorated as data classes is a run of
its class statements when it has run. -/
theorem runs_dataModule {name : String} {body : List Stmt} {all : List String}
    (files : FileTree) (searched : List String) (hname : name ≠ "builtins")
    (hlines : Lines x (WritesData x) name startingKnown [] body all)
    (hok : ((runModule name body).run (Machine.start files searched)).1.isOk = true) :
    let m := ((runModule name body).run (Machine.start files searched)).2
    Heap.DataRuns x m.heap ∧ m.heap.Follows x all := by
  refine (runs_module files searched hname .library
    (fun hr hk => hr.other hk.grows hk.classes) ?_ hlines).of_isOk hok
  rintro s fuel known made m d line start name bases body hs hr hstage hstated hnew
    ⟨used, options, hused, hdecoration, hbody⟩
  exact runs_dataStatement hr hstage.place hnew hstage.knows hdecoration
    (hstage.isDataStatement hs hstated hused hbody)

end Foundry.Live
