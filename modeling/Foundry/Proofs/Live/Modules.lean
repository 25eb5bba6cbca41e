import Foundry.Proofs.Live.Execution

/-!
Modules as they are run. A module that imports names of the library and defines classes below
earlier ones is a run of its class statements. From one statement to the next it is known what the
names of the module stand for, and which classes were made.
-/

namespace Foundry.Live

open Query

open Foundry.Source (Alias Definition Expr Index Stmt)

variable {x : Index} {s : Surroundings} {m t : Machine} {n lib : String} {o : Object}
  {made : List String}

/-- What names stand for. -/
abbrev Known := String → Option Object

/-- What names stand for once one is bound. -/
def Known.bind (known : Known) (n : String) (o : Object) : Known :=
  fun k => if k = n then some o else known k

variable {known known' : Known}

/-! ### Names at the top of a module -/

/-- Where the statements of a module run. -/
structure Surroundings.IsTop (s : Surroundings) : Prop where
  globals : s.globals = s.locals
  enclosing : s.enclosing = []
  start : s.start = ""
  module : s.module ≠ "builtins"

theorem lookUp_top (hs : s.IsTop) (m : Machine) (n : String) :
    m.lookUp s n = ((m.heap.namesAt s.locals).get? n).or (m.builtin? n) := by
  rw [Machine.lookUp, hs.globals, hs.enclosing]
  cases h : (m.heap.namesAt s.locals).get? n <;> simp [h]

/-- What a module of the library gives out under a name. -/
def libraryObject? (lib n : String) : Option Object :=
  (Machine.start FileTree.empty []).moduleName? lib n

/-- The library is there, out of reach of the names that are bound. -/
structure Machine.Stocked (m : Machine) (s : Surroundings) : Prop where
  placed : ∀ lib i, lib ≠ s.module → m.modules.get? lib = some i →
    i.names < m.heap.names.size ∧ i.names ≠ s.locals
  objects : ∀ lib n o, lib ≠ s.module → libraryObject? lib n = some o →
    m.moduleName? lib n = some o

theorem Machine.moduleName?_congr (hmodules : t.modules.get? lib = m.modules.get? lib)
    (hnames : ∀ i, m.modules.get? lib = some i →
      t.heap.namesAt i.names = m.heap.namesAt i.names) (n : String) :
    t.moduleName? lib n = m.moduleName? lib n := by
  unfold moduleName?
  rw [hmodules]
  cases hi : m.modules.get? lib with
  | none => rfl
  | some i =>
    dsimp only
    rw [hnames i hi]

namespace Machine.Stocked

theorem moduleName?_eq (hm : m.Stocked s) (hs : m.Spares s.locals t) (hlib : lib ≠ s.module)
    (n : String) : t.moduleName? lib n = m.moduleName? lib n :=
  moduleName?_congr (congrArg (·.get? lib) hs.modules) (fun i hi =>
    hs.names _ (hm.placed lib i hlib hi).1 (hm.placed lib i hlib hi).2) n

theorem spares (hm : m.Stocked s) (hs : m.Spares s.locals t) : t.Stocked s where
  placed lib i hlib hi := by
    obtain ⟨hlt, hne⟩ := hm.placed lib i hlib (hs.modules ▸ hi)
    exact ⟨Nat.lt_of_lt_of_le hlt hs.grows, hne⟩
  objects lib n o hlib ho := (hm.moduleName?_eq hs hlib n).trans (hm.objects lib n o hlib ho)

theorem has (hm : m.Stocked s) (hlib : lib ≠ s.module) (ho : libraryObject? lib n = some o) :
    m.has lib = true := by
  have hgiven := hm.objects lib n o hlib ho
  unfold moduleName? at hgiven
  unfold Machine.has Ordered.contains
  split at hgiven
  · cases hgiven
  · rename_i hi
    rw [hi]
    rfl

end Machine.Stocked

/-- How far a module has come: what its names stand for, and of which definitions classes were
made. -/
structure Stage (x : Index) (s : Surroundings) (known : Known) (made : List String) (m : Machine) :
    Prop where
  follows : m.heap.Follows x made
  place : s.locals < m.heap.names.size
  name : (m.heap.namesAt s.locals).get? "__name__" = some (.value (.text s.module))
  knows : KnowsNames known s m
  stocked : m.Stocked s

/-- What binding a name changes. -/
theorem Stage.binds {made' : List String} (h : Stage x s known made m) (hs : s.IsTop)
    (hn : n ≠ "__name__") (hb : m.Binds s.locals n o t) (hf : t.heap.Follows x made') :
    Stage x s (known.bind n o) made' t where
  follows := hf
  place := Nat.lt_of_lt_of_le h.place hb.spares.grows
  name := by rw [hb.names, Ordered.get?_insert_of_ne _ _ hn.symm, h.name]
  knows := by
    intro k o' ho'
    rw [lookUp_top hs, hb.names]
    unfold Known.bind at ho'
    split at ho'
    · rename_i hk
      obtain rfl := Option.some.inj ho'
      rw [hk, Ordered.get?_insert_self, Option.some_or]
    · rename_i hk
      rw [Ordered.get?_insert_of_ne _ _ hk, Machine.builtin?,
        h.stocked.moduleName?_eq hb.spares hs.module.symm]
      exact (lookUp_top hs m k).symm.trans (h.knows k o' ho')
  stocked := h.stocked.spares hb.spares

/-- The body of a class knows the names of its module. -/
theorem Stage.knows_enterBody (h : Stage x s known made m) (hs : s.IsTop) {name : String}
    (ho : known n = some o) (hn : n ∉ ["__module__", "__qualname__"]) :
    (m.enterBody s name).lookUp (m.bodyOf s name) n = some o := by
  have hbody := m.namesAt_enterBody s name
  have hown : ((m.enterBody s name).heap.namesAt (m.bodyOf s name).locals).get? n = none :=
    hbody ▸ get?_startingNamesOf_eq_none hn
  have htop : ((m.enterBody s name).heap.namesAt (m.bodyOf s name).globals).get? n =
      (m.heap.namesAt s.locals).get? n := by
    change ((m.enterBody s name).heap.namesAt s.globals).get? n = _
    rw [hs.globals, Machine.namesAt_enterBody_of_lt h.place]
  have hbuiltin : (m.enterBody s name).builtin? n = m.builtin? n :=
    Machine.moduleName?_congr (m := m) (t := m.enterBody s name) rfl (fun i hi =>
      Machine.namesAt_enterBody_of_lt (h.stocked.placed _ i hs.module.symm hi).1 s name) n
  have henclosing : (m.bodyOf s name).enclosing = [] := hs.enclosing
  have hlook := h.knows n o ho
  rw [lookUp_top hs] at hlook
  rw [Machine.lookUp, henclosing, hbuiltin, List.cons_append, List.nil_append,
    List.findSome?_cons, hown, List.findSome?_cons, htop, List.findSome?_nil]
  cases hget : (m.heap.namesAt s.locals).get? n <;> simpa [hget] using hlook

/-! ### Imports -/

/-- What names stand for after names of the library were imported. -/
inductive Imports (lib : String) : Known → List Alias → Known → Prop
  | nil {known : Known} : Imports lib known [] known
  | cons {known known' : Known} {a : Alias} {rest : List Alias} {o : Object} : a.name ≠ "*" →
    a.asName.getD a.name ≠ "__name__" → libraryObject? lib a.name = some o →
    Imports lib (known.bind (a.asName.getD a.name) o) rest known' →
    Imports lib known (a :: rest) known'

theorem after_importModule_of_has {fuel : Nat} (h : m.has lib = true) :
    After (importModule (fuel + 1) lib) m (fun _ t => t = m) fun _ _ => False := by
  unfold importModule
  rw [after_bind, after_get, if_pos h]
  rfl

theorem after_importPart {fuel : Nat} (h : m.moduleName? lib n = some o) :
    After (importPart (fuel + 1) lib n) m (fun o' t => o' = some o ∧ t = m) fun _ _ => False := by
  unfold importPart
  rw [after_bind, after_get]
  simp only [h]
  exact ⟨rfl, rfl⟩

theorem after_forM_imports {f : Alias → Run PUnit} {aliases : List Alias} (hs : s.IsTop)
    (hlib : lib ≠ s.module) (hf : ∀ a o m, a.name ≠ "*" → m.moduleName? lib a.name = some o →
      After (f a) m (fun _ t => t = m.bound s.locals (a.asName.getD a.name) o) fun _ _ => False)
    (hi : Imports lib known aliases known') (h : Stage x s known made m) :
    After (aliases.forM f) m (fun _ t => m.heap.Keeps t.heap ∧ Stage x s known' made t)
      fun _ _ => False := by
  induction hi generalizing m with
  | nil => exact ⟨.refl _, h⟩
  | @cons known known' a rest o hstar hname ho _ ih =>
    rw [List.forM_eq_forM, List.forM_cons, after_bind]
    refine (hf a o m hstar (h.stocked.objects lib _ _ hlib ho)).imp ?_ fun _ _ he => he
    rintro _ _ rfl
    have hkeeps := Heap.keeps_bind m.heap s.locals (a.asName.getD a.name) o
    have hstage := h.binds hs hname ((Machine.Spares.refl m _).binds h.place _ o)
      (h.follows.keeps hkeeps)
    refine (ih hstage).imp ?_ fun _ _ he => he
    rintro _ t ⟨hkeeps', hstage'⟩
    exact ⟨hkeeps.trans hkeeps', hstage'⟩

/-- Importing names of the library binds them. -/
theorem after_imports {fuel : Nat} {aliases : List Alias} (hs : s.IsTop) (hlib : lib ≠ s.module)
    (hne : aliases ≠ []) (hi : Imports lib known aliases known') (h : Stage x s known made m) :
    After (exec (fuel + 2) s (.importFrom (some lib) aliases 0)) m
      (fun o t => o = none ∧ m.heap.Keeps t.heap ∧ Stage x s known' made t) fun _ _ => False := by
  have hhas : m.has lib = true := by
    cases hi with
    | nil => exact absurd rfl hne
    | cons _ _ ho _ => exact h.stocked.has hlib ho
  have hname : importName m s.module (some lib) 0 = .ok lib := rfl
  unfold exec
  simp only [after_bind, after_get, hname, after_attempt]
  refine (after_importModule_of_has hhas).imp ?_ fun _ _ he => he
  rintro _ m rfl
  refine (after_forM_imports hs hlib (fun a o m hstar ho => ?_) hi h).imp
    (fun _ _ ht => ⟨rfl, ht⟩) fun _ _ he => he
  rw [if_neg (by simpa using hstar), after_bind]
  refine (after_importPart ho).imp ?_ fun _ _ he => he
  rintro _ m ⟨rfl, rfl⟩
  exact rfl

/-! ### Whole modules -/

/-- A base is written by a name that stands for a class of the library or an earlier one. -/
def StandsBy (known : Known) (made : List String) (n : String) (e : Expr) : Prop :=
  ∃ b p, e = .name b ∧ known b = some (.class p) ∧ Heap.standsFor made n p = true

/-- The lines of a module: imports of the library and class statements, whose definitions the index
lists and whose bodies are written as it is asked for. With them it is followed what names stand for
and which classes are made. -/
inductive Lines (x : Index) (Writes : Known → Definition → List Stmt → Prop) (module : String) :
    Known → List String → List Stmt → List String → Prop
  | nil {known : Known} {made : List String} : Lines x Writes module known made [] made
  | pass {known : Known} {made all : List String} {rest : List Stmt} :
    Lines x Writes module known made rest all →
    Lines x Writes module known made (.pass :: rest) all
  | imports {known known' : Known} {made all : List String} {rest : List Stmt} {lib : String}
      {aliases : List Alias} : lib ≠ module → aliases ≠ [] → Imports lib known aliases known' →
    Lines x Writes module known' made rest all →
    Lines x Writes module known made (.importFrom (some lib) aliases 0 :: rest) all
  | classDef {known : Known} {made all : List String} {rest body : List Stmt} {line start : Nat}
      {name : String} {bases decorators : List Expr} {d : Definition} :
    d = ⟨module, name, line, decorators, some ⟨bases, [], body⟩⟩ → x.Lists d →
    name ≠ "__name__" → made.contains d.qualifiedName = false →
    List.Forall₂ (StandsBy known made) (x.bases d) bases → Writes known d body →
    Lines x Writes module (known.bind name (.class (Heap.librarySize + made.length)))
      (made ++ [d.qualifiedName]) rest all →
    Lines x Writes module known made (.classDef line start name bases [] decorators body :: rest)
      all

theorem Stage.stated {d : Definition} {line : Nat} {name : String} {bases decorators : List Expr}
    {body : List Stmt} (h : Stage x s known made m) (hs : s.IsTop)
    (hd : d = ⟨s.module, name, line, decorators, some ⟨bases, [], body⟩⟩) (hlists : x.Lists d)
    (hbases : List.Forall₂ (StandsBy known made) (x.bases d) bases) :
    Stated x m s d name bases body where
  lists := hlists
  parts := by rw [hd]
  module := by rw [hs.globals, textOf, h.name, hd]
  qualname := by rw [hs.start, hd, String.empty_append]
  bases := by
    refine hbases.imp ?_
    rintro n e ⟨b, p, rfl, hb, hstands⟩
    exact ⟨b, p, rfl, h.knows b _ hb, h.follows.stands hstands⟩

/-- Where each class statement is one step of a run, the lines of a module are a run. -/
theorem runs_lines {Writes : Known → Definition → List Stmt → Prop} {R : Heap → Prop}
    {all : List String} {body : List Stmt} {fuel : Nat} (hs : s.IsTop)
    (hkeeps : ∀ {h h' : Heap}, R h → h.Keeps h' → R h')
    (hstep : ∀ {known : Known} {made : List String} {m : Machine} {d : Definition}
      {line start : Nat} {name : String} {bases : List Expr} {body : List Stmt}, R m.heap →
      Stage x s known made m → Stated x m s d name bases body → (∀ q, ¬m.heap.Depicts x q d) →
      Writes known d body →
      After (exec (fuel + 6) s (.classDef line start name bases [] d.decorators body)) m
        (fun o t => o = none ∧ Makes x R s d name m t) fun _ _ => True)
    (hlines : Lines x Writes s.module known made body all) (hr : R m.heap)
    (h : Stage x s known made m) :
    After (runAll (exec (fuel + 6) s) body) m
      (fun _ t => R t.heap ∧ t.heap.Follows x all) fun _ _ => True := by
  induction hlines generalizing m with
  | nil => exact ⟨hr, h.follows⟩
  | pass _ ih => exact ih hr h
  | imports hlib hne hi _ ih =>
    unfold runAll
    rw [after_bind]
    refine (after_imports hs hlib hne hi h).imp ?_ fun _ _ he => he.elim
    rintro _ t ⟨rfl, hk, hstage⟩
    exact ih (hkeeps hr hk) hstage
  | @classDef known made all rest body line start name bases decorators d hd hlists hname hfresh
      hbases hwrites _ ih =>
    have hdecorators : decorators = d.decorators := by rw [hd]
    unfold runAll
    rw [after_bind, hdecorators]
    refine (hstep hr h (h.stated hs hd hlists hbases) (h.follows.fresh hfresh) hwrites).imp ?_
      fun _ _ _ => trivial
    rintro _ t ⟨rfl, hmakes⟩
    refine ih hmakes.runs (h.binds hs hname ?_ (h.follows.defines hmakes.defines))
    exact h.follows.size ▸ hmakes.binds

/-! ### From the start -/

theorem start_eq (files : FileTree) (searched : List String) :
    Machine.start files searched =
      { Machine.start FileTree.empty [] with files := files, searched := searched } := by
  have hfold : ∀ (l : List (String × List (String × Object))) (m : Machine),
      l.foldl Machine.addKnownModule { m with files := files, searched := searched } =
        { l.foldl Machine.addKnownModule m with files := files, searched := searched } := by
    intro l
    induction l with
    | nil => exact fun m => rfl
    | cons e rest ih => exact fun m => ih (m.addKnownModule e)
  exact hfold knownNames ⟨FileTree.empty, [], Ordered.empty, libraryHeap, []⟩

/-- The modules of the library have names of their own, and no classes beyond its own. -/
structure Machine.IsFresh (m : Machine) : Prop where
  keeps : libraryHeap.Keeps m.heap
  placed : ∀ lib i, m.modules.get? lib = some i → i.names < m.heap.names.size

theorem isFresh_start (files : FileTree) (searched : List String) :
    (Machine.start files searched).IsFresh := by
  have hadd : ∀ (m : Machine) e, m.IsFresh → (m.addKnownModule e).IsFresh := by
    rintro m ⟨lib, names⟩ hm
    refine ⟨hm.keeps.trans (Heap.keeps_addNames ..), fun n i hi => ?_⟩
    have hsize : (m.addKnownModule (lib, names)).heap.names.size = m.heap.names.size + 1 :=
      Array.size_push _
    rw [hsize]
    by_cases hn : n = lib
    · subst hn
      obtain rfl := Option.some.inj ((Ordered.get?_insert_self ..).symm.trans hi)
      exact Nat.lt_succ_self _
    · have hold := (Ordered.get?_insert_of_ne _ _ hn).symm.trans hi
      exact Nat.lt_succ_of_lt (hm.placed n i hold)
  have hfold : ∀ (l : List (String × List (String × Object))) (m : Machine),
      m.IsFresh → (l.foldl Machine.addKnownModule m).IsFresh := by
    intro l
    induction l with
    | nil => exact fun m hm => hm
    | cons e rest ih => exact fun m hm => ih _ (hadd m e hm)
  exact hfold _ _ ⟨.refl _, fun _ _ hi => nomatch hi⟩

/-- What names stand for before a module binds any. -/
def startingKnown : Known := fun n =>
  if n = "__name__" ∨ n = "__file__" then none else libraryObject? "builtins" n

theorem after_leaveModule (m : Machine) (name : String) :
    After (leaveModule name) m (fun _ t => m.heap.Keeps t.heap) fun _ _ => False := by
  unfold leaveModule
  simp only [after_bind, after_get, after_modify]
  -- Whether the module has an entry or not, what its package knows is all that is bound.
  cases m.modules.get? name
  all_goals
    dsimp only
    split
    · exact Heap.keeps_bind ..
    · exact Heap.Keeps.refl m.heap

theorem namesAt_addNames (h : Heap) (names : Names) (q : Nat) :
    (h.addNames names).2.namesAt q = if q = h.names.size then names else h.namesAt q := by
  unfold Heap.addNames Heap.namesAt
  rw [Array.getElem?_push]
  split <;> rfl

/-- A module that was entered stands at its beginning. -/
theorem after_enterModule {name : String} {files : FileTree} {searched : List String} {p : Path}
    (isLazy : Bool) (hname : name ≠ "builtins") :
    After (enterModule name (.file p)) (Machine.start files searched)
      (fun r t => libraryHeap.Keeps t.heap ∧
        Stage x ⟨name, r.2, r.2, [], "", none, isLazy⟩ startingKnown [] t) fun _ _ => False := by
  have hfresh := isFresh_start files searched
  have hobjects : ∀ lib n, libraryObject? lib n =
      (Machine.start files searched).moduleName? lib n := by
    intro lib n
    rw [start_eq]
    rfl
  generalize Machine.start files searched = m at hfresh hobjects
  let names : Names := Ordered.ofList
    [("__name__", .value (.text name)), ("__file__", .value (.text p.text))]
  let t : Machine := { m with
    heap := (m.heap.addNames names).2
    modules := m.modules.insert name ⟨m.heap.names.size, none, some p, [], false, true⟩ }
  let s : Surroundings := ⟨name, m.heap.names.size, m.heap.names.size, [], "", none, isLazy⟩
  have hkeeps : libraryHeap.Keeps t.heap := hfresh.keeps.trans (Heap.keeps_addNames ..)
  have hsize : t.heap.names.size = m.heap.names.size + 1 := Array.size_push _
  have hown : t.heap.namesAt s.locals = names := (namesAt_addNames ..).trans (if_pos rfl)
  have hmodules : ∀ lib, lib ≠ name → t.modules.get? lib = m.modules.get? lib :=
    fun lib hlib => Ordered.get?_insert_of_ne _ _ hlib
  have hgives : ∀ lib n, lib ≠ name → t.moduleName? lib n = libraryObject? lib n := by
    intro lib n hlib
    rw [hobjects]
    refine Machine.moduleName?_congr (hmodules lib hlib) (fun i hi => ?_) n
    exact (namesAt_addNames ..).trans (if_neg (Nat.ne_of_lt (hfresh.placed lib i hi)))
  have hstage : Stage x s startingKnown [] t := by
    refine
      { follows := (Heap.follows_nil rfl).keeps hkeeps
        place := Nat.lt_of_lt_of_eq (Nat.lt_succ_self _) hsize.symm
        name := by rw [hown]; rfl
        knows := fun n o ho => ?_
        stocked := ⟨fun lib i hlib hi => ?_, fun lib n o hlib ho => ?_⟩ }
    · rw [startingKnown, Option.ite_none_left_eq_some, not_or] at ho
      obtain ⟨⟨hn, hfile⟩, ho⟩ := ho
      have hfree : names.get? n = none := by
        rw [Ordered.get?_ofList_eq_none_iff]
        simp [hn, hfile]
      rw [lookUp_top ⟨rfl, rfl, rfl, hname⟩, hown, hfree, Option.none_or]
      exact (hgives "builtins" n hname.symm).trans ho
    · have hlt := hfresh.placed lib i (hmodules lib hlib ▸ hi)
      exact ⟨Nat.lt_of_lt_of_eq (Nat.lt_succ_of_lt hlt) hsize.symm, Nat.ne_of_lt hlt⟩
    · exact (hgives lib n hlib).trans ho
  exact ⟨hkeeps, hstage⟩

/-- What running a module comes to whose lines are a run. -/
theorem runs_module {Writes : Known → Definition → List Stmt → Prop} {R : Heap → Prop}
    {name : String} {body : List Stmt} {all : List String} (files : FileTree)
    (searched : List String) (hname : name ≠ "builtins") (hr : R libraryHeap)
    (hkeeps : ∀ {h h' : Heap}, R h → h.Keeps h' → R h')
    (hstep : ∀ {s : Surroundings} {fuel : Nat} {known : Known} {made : List String} {m : Machine}
      {d : Definition} {line start : Nat} {name : String} {bases : List Expr} {body : List Stmt},
      s.IsTop → R m.heap → Stage x s known made m → Stated x m s d name bases body →
      (∀ q, ¬m.heap.Depicts x q d) → Writes known d body →
      After (exec (fuel + 6) s (.classDef line start name bases [] d.decorators body)) m
        (fun o t => o = none ∧ Makes x R s d name m t) fun _ _ => True)
    (hlines : Lines x Writes name startingKnown [] body all) :
    After (runModule name body) (Machine.start files searched)
      (fun _ t => R t.heap ∧ t.heap.Follows x all) fun _ _ => True := by
  unfold runModule
  rw [after_bind]
  refine (after_enterModule (x := x) (isLazyBody body) hname).imp ?_ fun _ _ he => he.elim
  rintro ⟨file, place⟩ t ⟨hk, hstage⟩
  have htop : Surroundings.IsTop ⟨name, place, place, [], "", none, isLazyBody body⟩ :=
    ⟨rfl, rfl, rfl, hname⟩
  have hdepth : maxDepth = 2994 + 6 := rfl
  rw [after_bind, after_discard, hdepth]
  refine (runs_lines htop hkeeps (hstep htop) hlines (hkeeps hr hk) hstage).imp ?_
    fun _ _ _ => trivial
  rintro _ u ⟨hruns, hfollows⟩
  refine (after_leaveModule u name).imp ?_ fun _ _ he => he.elim
  rintro _ v hk'
  exact ⟨hkeeps hruns hk', hfollows.keeps hk'⟩

/-! ### Modules whose classes have methods -/

/-- A class body with methods, where the name for abstract ones is known. -/
structure MethodBody (x : Index) (known : Known) (d : Definition) (body : List Stmt)
    (marker : String) (ks : List Method) : Prop where
  decorators : d.decorators = []
  methods : Methods marker body ks
  distinct : (ks.map Method.name).Nodup
  names : ∀ k ∈ ks, k.name ∉ [marker, "__module__", "__qualname__"]
  marker : (∃ k ∈ ks, k.isAbstract = true) →
    known marker = some (.tool .abstractMethod) ∧ marker ∉ ["__module__", "__qualname__"] ∧
      x.decoratorNames d.module [.name marker] = ["abc.abstractmethod"]

/-- Without abstract methods, any name stands in for the decorator. -/
theorem MethodBody.concrete {d : Definition} {body : List Stmt} {ks : List Method}
    (hdecorators : d.decorators = []) (hmethods : Methods "" body ks)
    (hdistinct : (ks.map Method.name).Nodup)
    (hnames : ∀ k ∈ ks, k.name ∉ ["", "__module__", "__qualname__"])
    (hconcrete : ∀ k ∈ ks, k.isAbstract = false) : MethodBody x known d body "" ks where
  decorators := hdecorators
  methods := hmethods
  distinct := hdistinct
  names := hnames
  marker := by
    rintro ⟨k, hk, habs⟩
    rw [hconcrete k hk] at habs
    cases habs

theorem Stage.isStatement {d : Definition} {name marker : String} {bases : List Expr}
    {body : List Stmt} {ks : List Method} (h : Stage x s known made m) (hs : s.IsTop)
    (hstated : Stated x m s d name bases body) (hb : MethodBody x known d body marker ks) :
    IsStatement x m s d name bases body marker ks where
  toStated := hstated
  methods := hb.methods
  distinct := hb.distinct
  names := hb.names
  marker := fun habs => h.knows_enterBody hs (hb.marker habs).1 (hb.marker habs).2.1

/-- A module whose classes have methods is a run of its class statements, under any reading that the
methods meet. -/
theorem runs_methodModule {Writes : Known → Definition → List Stmt → Prop} {r : BodyReading}
    {name : String} {body : List Stmt} {all : List String} (files : FileTree)
    (searched : List String) (hname : name ≠ "builtins")
    (hwrites : ∀ {known : Known} {d : Definition} {body : List Stmt}, Writes known d body →
      ∃ marker ks, MethodBody x known d body marker ks ∧
        ∀ {m : Machine} {s : Surroundings} {name : String} {bases : List Expr} {h : Heap}
          {own : Names}, IsStatement x m s d name bases body marker ks →
          BindsAll h ks (startingNamesOf m.heap s name) own →
          r.Binds h d (own.erase "__qualname__"))
    (hlines : Lines x Writes name startingKnown [] body all) :
    After (runModule name body) (Machine.start files searched)
      (fun _ t => Heap.Runs x r t.heap ∧ t.heap.Follows x all) fun _ _ => True := by
  refine runs_module files searched hname .library Heap.Runs.keeps ?_ hlines
  intro s fuel known made m d line start name bases body hs hr hstage hstated hnew hbody
  obtain ⟨marker, ks, hmethods, hbinds⟩ := hwrites hbody
  have hstatement := hstage.isStatement hs hstated hmethods
  rw [hmethods.decorators]
  exact runs_classStatement hr hstage.place hnew hstatement fun _ _ => hbinds hstatement

end Foundry.Live
