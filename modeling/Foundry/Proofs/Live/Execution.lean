import Foundry.Live.Evaluation
import Foundry.Proofs.Live.Programs
import Foundry.Proofs.Query.After

/-!
Class statements as they are executed: one after another they are a run of class statements,
whatever else is done between them that adds no classes.
-/

namespace Foundry

open Query

@[simp] theorem Query.after_attempt {α : Type} {ok : α → Live.Machine → Prop}
    {err : Fault → Live.Machine → Prop} (e : Except Fault α) (m : Live.Machine) :
    After (Live.attempt e) m ok err ↔ e.casesOn (fun f => err f m) fun a => ok a m := by
  cases e with
  | error f => exact Iff.rfl
  | ok a => exact Iff.rfl

namespace Live

open Foundry.Source (Index Definition Expr Param Params Stmt)

variable {x : Index} {r : BodyReading} {d : Definition}

namespace Heap

variable {h h' h'' : Heap} {p : Nat}

/-- More is known on the second heap, but no classes. -/
structure Keeps (h h' : Heap) : Prop where
  grows : h.Extends h'
  classes : h'.classes = h.classes

theorem Keeps.refl (h : Heap) : h.Keeps h :=
  ⟨.refl h, rfl⟩

theorem Keeps.trans (hk : h.Keeps h') (hk' : h'.Keeps h'') : h.Keeps h'' :=
  ⟨hk.grows.trans hk'.grows, hk'.classes.trans hk.classes⟩

theorem keeps_addNames (h : Heap) (n : Names) : h.Keeps (h.addNames n).2 :=
  ⟨⟨fun _ _ hc => hc, fun _ _ hf => hf⟩, rfl⟩

theorem keeps_bind (h : Heap) (place : Nat) (n : String) (o : Object) :
    h.Keeps (h.bind place n o) :=
  ⟨⟨fun _ _ hc => hc, fun _ _ hf => hf⟩, rfl⟩

theorem Runs.keeps (hr : Runs x r h) (hk : h.Keeps h') : Runs x r h' :=
  hr.other hk.grows hk.classes

theorem Follows.keeps {made : List String} (hf : h.Follows x made) (hk : h.Keeps h') :
    h'.Follows x made := by
  refine ⟨hk.classes ▸ hf.size, fun i n hn => ?_, fun p d hd => hf.only p d ?_⟩
  · obtain ⟨d, hd, hname⟩ := hf.depicts i n hn
    exact ⟨d, hd.extends hk.grows, hname⟩
  · obtain ⟨c, hc, hnamed⟩ := hd.named
    exact ⟨hd.after, hd.lists, hd.isClass, c, by rwa [class?, hk.classes] at hc, hnamed⟩

theorem Keeps.depicts_iff (hk : h.Keeps h') : h'.Depicts x p d ↔ h.Depicts x p d := by
  refine ⟨fun hd => ?_, fun hd => hd.extends hk.grows⟩
  refine ⟨hd.after, hd.lists, hd.isClass, ?_⟩
  have hnamed := hd.named
  rwa [class?, hk.classes] at hnamed

/-- More may be known before and after a class is made. -/
theorem Defines.between (hd : Defines x h' h'' d) (hk : h.Keeps h') {h₃ : Heap}
    (hk' : h''.Keeps h₃) : Defines x h h₃ d := by
  have hsize : h'.classes.size = h.classes.size := congrArg Array.size hk.classes
  refine ⟨hk.grows.trans (hd.grows.trans hk'.grows), ?_, ?_, fun q e hq => ?_⟩
  · rw [hk'.classes, hd.size, hsize]
  · exact hsize ▸ hd.depicts.extends hk'.grows
  · rw [← hk.depicts_iff, ← hsize]
    exact hd.only q e (hk'.depicts_iff.1 hq)

theorem Ancestral.ne_generic (hp : h.Ancestral p) : p ≠ Place.generic := by
  have hgeneric : Place.generic < librarySize ∧ Place.generic ≠ Place.object ∧
      Place.generic ≠ placeOf "ABC" := by
    decide +kernel
  obtain ⟨hlt, hobject, habstract⟩ := hgeneric
  cases hp with
  | object => exact hobject.symm
  | abstractBase => exact habstract.symm
  | made hge _ => omega

theorem prepareClass_congr (hsame : h'.classes = h.classes) (name : String) (bases : List Nat)
    (metaclass? : Option Nat) :
    h'.prepareClass name bases metaclass? = h.prepareClass name bases metaclass? := by
  obtain ⟨classes, functions, names⟩ := h
  obtain ⟨classes', functions', names'⟩ := h'
  obtain rfl : classes' = classes := hsame
  rfl

end Heap

/-- The modules are as they were, and so are the names that were there, but those at one place. -/
structure Machine.Spares (m : Machine) (place : Nat) (t : Machine) : Prop where
  modules : t.modules = m.modules
  grows : m.heap.names.size ≤ t.heap.names.size
  names : ∀ q < m.heap.names.size, q ≠ place → t.heap.namesAt q = m.heap.namesAt q

namespace Machine

variable {m t u : Machine} {place : Nat}

theorem Spares.refl (m : Machine) (place : Nat) : m.Spares place m :=
  ⟨rfl, Nat.le_refl _, fun _ _ _ => rfl⟩

theorem Spares.trans (hs : m.Spares place t) (hs' : t.Spares place u) : m.Spares place u :=
  ⟨hs'.modules.trans hs.modules, Nat.le_trans hs.grows hs'.grows, fun q hq hne =>
    (hs'.names q (Nat.lt_of_lt_of_le hq hs.grows) hne).trans (hs.names q hq hne)⟩

theorem spares_of_names {h : Heap} (hnames : h.names = m.heap.names) :
    m.Spares place { m with heap := h } := by
  refine ⟨rfl, Nat.le_of_eq (congrArg Array.size hnames).symm, fun q _ _ => ?_⟩
  unfold Heap.namesAt
  rw [hnames]

theorem spares_bind (m : Machine) (place : Nat) (n : String) (o : Object) :
    m.Spares place { m with heap := m.heap.bind place n o } := by
  refine ⟨rfl, Nat.le_of_eq (Array.size_modify).symm, fun q _ hne => ?_⟩
  unfold Heap.namesAt Heap.bind
  rw [Array.getElem?_modify, if_neg hne.symm]

end Machine

/-- What the body of a class statement bound when it has run: where the class belongs, and what the
reading asks for. -/
structure Bound (x : Index) (r : BodyReading) (h : Heap) (d : Definition) (own : Names) : Prop where
  module : own.get? "__module__" = some (.value (.text d.module))
  qualname : own.get? "__qualname__" = some (.value (.text d.qualname))
  holds : ∀ n o, (own.erase "__qualname__").get? n = some o → h.holds o = true
  binds : r.Binds h d (own.erase "__qualname__")

/-- The names that the body of a class statement starts with. -/
def startingNamesOf (h : Heap) (s : Surroundings) (name : String) : Names :=
  Ordered.ofList
    [("__module__", .value (.text (textOf (h.namesAt s.globals) "__name__" s.module))),
     ("__qualname__", .value (.text (s.start ++ name)))]

/-- A class body as it is entered: its names, and where its statements run. -/
def Machine.enterBody (m : Machine) (s : Surroundings) (name : String) : Machine :=
  { m with heap := (m.heap.addNames (startingNamesOf m.heap s name)).2 }

def Machine.bodyOf (m : Machine) (s : Surroundings) (name : String) : Surroundings :=
  { s with locals := m.heap.names.size, start := s.start ++ name ++ "." }

theorem Machine.locals_lt_enterBody (m : Machine) (s : Surroundings) (name : String) :
    (m.bodyOf s name).locals < (m.enterBody s name).heap.names.size := by
  unfold Machine.bodyOf Machine.enterBody Heap.addNames
  simp

theorem Machine.namesAt_enterBody (m : Machine) (s : Surroundings) (name : String) :
    (m.enterBody s name).heap.namesAt (m.bodyOf s name).locals =
      startingNamesOf m.heap s name := by
  unfold Machine.bodyOf Machine.enterBody Heap.addNames Heap.namesAt
  simp

theorem Machine.namesAt_enterBody_of_lt {m : Machine} {q : Nat} (hq : q < m.heap.names.size)
    (s : Surroundings) (name : String) :
    (m.enterBody s name).heap.namesAt q = m.heap.namesAt q := by
  unfold Machine.enterBody Heap.addNames Heap.namesAt
  rw [Array.getElem?_push, if_neg (Nat.ne_of_lt hq)]

theorem Machine.spares_enterBody (m : Machine) (s : Surroundings) (name : String) :
    m.Spares m.heap.names.size (m.enterBody s name) :=
  ⟨rfl, Nat.le_of_lt (m.locals_lt_enterBody s name),
    fun _ hq _ => Machine.namesAt_enterBody_of_lt hq s name⟩

/-- What a class statement without keywords comes to: its bases are evaluated, its body is run, and a
class is made of the names that the body bound. -/
theorem after_makeClass {fuel : Nat} {s : Surroundings} {name : String} {bases : List Expr}
    {body : List Stmt} {m : Machine} {written : List Nat} {P : Machine → Prop}
    (hbases : After (bases.mapM (eval fuel s)) m
      (fun os t => t = m ∧ os = written.map Object.class) fun _ _ => True)
    (hwritten : ∀ p ∈ written, p ≠ Place.generic)
    (hbody : After (runAll (exec fuel (m.bodyOf s name)) body) (m.enterBody s name)
      (fun _ u => m.heap.Keeps u.heap ∧ P u) fun _ _ => True) :
    After (makeClass (fuel + 1) s name bases [] body) m
      (fun o t => ∃ u metaclass module qualname p, m.heap.Keeps u.heap ∧ P u ∧
        u.heap.prepareClass name written none = .ok metaclass ∧
        u.heap.makeClass (textOf (u.heap.namesAt m.heap.names.size) "__module__" module)
          (textOf (u.heap.namesAt m.heap.names.size) "__qualname__" qualname) written metaclass
          ((u.heap.namesAt m.heap.names.size).erase "__qualname__") false = .ok (p, t.heap) ∧
        t = { u with heap := t.heap } ∧ o = .class p)
      fun _ _ => True := by
  unfold makeClass
  rw [after_bind]
  refine hbases.imp ?_ fun _ _ _ => trivial
  rintro _ m ⟨rfl, rfl⟩
  have hplaces : (written.map Object.class).mapM (basesOf m.heap) =
      .ok (written.map fun p => [p]) := by
    rw [List.mapM_map]
    exact List.mapM_pure
  have hflatten : (written.map fun p => [p]).flatten = written := by
    simp [← List.flatMap_def]
  have hgeneric : ∀ g : Object → Bool, (∀ p, g (.class p) = (p == Place.generic)) →
      (written.map Object.class).any g = false := by
    intro g hg
    rw [List.any_eq_false]
    intro o ho
    obtain ⟨p, hp, rfl⟩ := List.mem_map.1 ho
    rw [hg, beq_iff_eq]
    exact hwritten p hp
  simp only [List.mapM_nil, after_bind, after_pure, after_get, hplaces, after_attempt,
    List.lookup_nil, hflatten]
  rw [hgeneric _ fun _ => rfl]
  cases hprepare : m.heap.prepareClass name written none with
  | error f => trivial
  | ok metaclass =>
    change After (discard (runAll _ body)) _ _ _
    rw [after_discard]
    refine hbody.imp ?_ fun _ _ _ => trivial
    rintro _ u ⟨hkeeps, hok⟩
    generalize hmade : u.heap.makeClass _ _ written metaclass _ false = made
    cases made with
    | error f => trivial
    | ok made =>
      obtain ⟨p, h'⟩ := made
      -- The metaclass was settled before the body ran, which added no classes.
      exact ⟨u, metaclass, _, _, p, hkeeps, hok,
        (Heap.prepareClass_congr hkeeps.classes ..).trans hprepare, hmade, rfl, rfl⟩

/-- A class statement without keywords is one step of a run. -/
theorem runs_makeClass {fuel : Nat} {s : Surroundings} {name : String} {bases : List Expr}
    {body : List Stmt} {m : Machine} {written : List Nat} (hr : Heap.Runs x r m.heap)
    (hd : x.Lists d) (hclass : d.parts.isSome = true) (hnew : ∀ p, ¬m.heap.Depicts x p d)
    (hbases : After (bases.mapM (eval fuel s)) m
      (fun os t => t = m ∧ os = written.map Object.class) fun _ _ => True)
    (hstands : List.Forall₂ (m.heap.Stands x) (x.bases d) written)
    (hbody : After (runAll (exec fuel (m.bodyOf s name)) body) (m.enterBody s name)
      (fun _ u => m.heap.Keeps u.heap ∧ m.Spares m.heap.names.size u ∧
        Bound x r u.heap d (u.heap.namesAt m.heap.names.size)) fun _ _ => True) :
    After (makeClass (fuel + 1) s name bases [] body) m
      (fun o t => Heap.Runs x r t.heap ∧ Heap.Defines x m.heap t.heap d ∧
        m.Spares m.heap.names.size t ∧ o = .class m.heap.classes.size)
      fun _ _ => True := by
  have hwritten : ∀ p ∈ written, p ≠ Place.generic := by
    intro p hp
    obtain ⟨n, -, hn⟩ := exists_left_of_mem hstands hp
    exact hn.ancestral.ne_generic
  refine (after_makeClass hbases hwritten hbody).imp ?_ fun _ _ _ => trivial
  rintro _ t ⟨u, metaclass, module, qualname, p, hkeeps, ⟨hspares, hbound⟩, hprepare, hmake, ht,
    rfl⟩
  rw [textOf, textOf, hbound.module, hbound.qualname] at hmake
  obtain ⟨hruns, hplace, hnames, hdefines⟩ := (hr.keeps hkeeps).makeClass hd hclass
    (fun q hq => hnew q (hkeeps.depicts_iff.1 hq))
    (hstands.imp fun _ _ hs => hs.extends hkeeps.grows) hbound.holds hbound.binds hprepare hmake
  refine ⟨hruns, hdefines.between hkeeps (.refl _), ht ▸ ?_, ?_⟩
  · exact hspares.trans (Machine.spares_of_names hnames)
  · rw [hplace, hkeeps.classes]

/-! ### Methods -/

/-- A method as it is written in a class body. -/
structure Method where
  line : Nat
  start : Nat
  name : String
  params : Params
  isAbstract : Bool
  body : List Stmt

/-- The statement of a method; `marker` is the name of the decorator for abstract ones. -/
def Method.statement (marker : String) (k : Method) : Stmt :=
  .functionDef k.line k.start k.name k.params (if k.isAbstract then [.name marker] else []) k.body

/-- Nothing has to be worked out for a parameter. -/
def isPlainParam : Param → Bool
  | .mk _ none none => true
  | .mk _ none (some (.constant _)) => true
  | _ => false

def Method.IsPlain (k : Method) : Prop :=
  match k.params with
  | .mk posOnly args vararg kwOnly kwarg =>
    ∀ p ∈ posOnly ++ args ++ vararg.toList ++ kwOnly ++ kwarg.toList, isPlainParam p = true

/-- The machine after a function was made and bound. -/
def Machine.addMethod (m : Machine) (place : Nat) (name : String) (f : Function) : Machine :=
  { m with heap := (m.heap.addFunction f).2.bind place name (.function m.heap.functions.size) }

theorem after_makeFunction {fuel : Nat} {s : Surroundings} {k : Method} {m : Machine}
    {location : Option Location} (hplain : k.IsPlain) :
    After (makeFunction (fuel + 2) s k.name k.params k.body location) m
      (fun o t => o = .function m.heap.functions.size ∧
        ∃ f : Function, f.params = k.params ∧ f.isAbstract = false ∧
          t = { m with heap := (m.heap.addFunction f).2 })
      fun _ _ => False := by
  obtain ⟨line, start, name, ⟨posOnly, args, vararg, kwOnly, kwarg⟩, isAbstract, body⟩ := k
  have hall : ∀ p ∈ posOnly ++ args ++ vararg.toList ++ kwOnly ++ kwarg.toList,
      isPlainParam p = true := hplain
  have hdefaults : ∀ p ∈ posOnly ++ args ++ kwOnly, isPlainParam p = true := by
    intro p hp
    refine hall p ?_
    simp only [List.mem_append] at hp ⊢
    tauto
  unfold makeFunction
  simp only [after_bind]
  refine (after_mapM_same fun p hp => ?_).imp ?_ fun _ _ he => he
  · have hp := hdefaults p hp
    unfold isPlainParam at hp
    split at hp
    · exact rfl
    · exact rfl
    · cases hp
  · rintro defaults m rfl
    have hnew : ∀ f : Function, f.params = .mk posOnly args vararg kwOnly kwarg →
        f.isAbstract = false → After (newFunction f) m (fun o t =>
          o = .function m.heap.functions.size ∧
          ∃ f : Function, f.params = .mk posOnly args vararg kwOnly kwarg ∧
            f.isAbstract = false ∧ t = { m with heap := (m.heap.addFunction f).2 })
          fun _ _ => False :=
      fun f hparams habs => ⟨rfl, f, hparams, habs, rfl⟩
    split
    · rw [after_bind]
      refine (after_forM_same fun p hp => ?_).imp ?_ fun _ _ he => he
      · have hp := hall p hp
        unfold isPlainParam at hp
        split at hp
        · exact rfl
        · exact rfl
        · cases hp
      · rintro _ m rfl
        rw [after_bind, after_get]
        exact hnew _ rfl rfl
    · rw [after_bind, after_get]
      exact hnew _ rfl rfl

theorem updateFunction_addFunction (h : Heap) (f : Function) (g : Function → Function) :
    (h.addFunction f).2.updateFunction h.functions.size g = (h.addFunction (g f)).2 := by
  have hlast : (h.functions.push f).modify h.functions.size g = h.functions.push (g f) := by
    refine Array.ext (by simp) fun i _ _ => ?_
    rw [Array.getElem_modify, Array.getElem_push, Array.getElem_push]
    by_cases hi : i < h.functions.size
    · simp [hi, Nat.ne_of_gt hi]
    · have hi : h.functions.size = i := by
        simp only [Array.size_push] at *
        omega
      simp [hi]
  unfold Heap.updateFunction Heap.addFunction
  rw [hlast]

theorem after_method {fuel : Nat} {s : Surroundings} {k : Method} {m : Machine} {marker : String}
    (hplain : k.IsPlain)
    (hmarker : k.isAbstract = true → m.lookUp s marker = some (.tool .abstractMethod)) :
    After (exec (fuel + 3) s (k.statement marker)) m
      (fun o t => o = none ∧ ∃ f : Function, f.params = k.params ∧ f.isAbstract = k.isAbstract ∧
        t = m.addMethod s.locals k.name f)
      fun _ _ => False := by
  have hdecorators : After ((if k.isAbstract then [Expr.name marker] else []).mapM
      (eval (fuel + 2) s)) m (fun ds t => t = m ∧
        ds = if k.isAbstract then [.tool .abstractMethod] else []) fun _ _ => False := by
    cases habs : k.isAbstract with
    | false => exact ⟨rfl, rfl⟩
    | true =>
      have heval : After (eval (fuel + 2) s (.name marker)) m
          (fun o t => t = m ∧ o = .tool .abstractMethod) fun _ _ => False := by
        unfold eval
        rw [after_bind, after_get, hmarker habs]
        exact ⟨rfl, rfl⟩
      rw [if_pos rfl, if_pos rfl, List.mapM_cons, after_bind]
      refine heval.imp ?_ fun _ _ he => he
      rintro _ m ⟨rfl, rfl⟩
      exact ⟨rfl, rfl⟩
  unfold Method.statement exec
  rw [after_bind]
  refine hdecorators.imp ?_ fun _ _ he => he
  rintro _ m ⟨rfl, rfl⟩
  rw [after_bind]
  refine (after_makeFunction hplain).imp ?_ fun _ _ he => he
  rintro _ _ ⟨rfl, f, hparams, hnot, rfl⟩
  cases habs : k.isAbstract with
  | false => exact ⟨rfl, f, hparams, hnot, rfl⟩
  | true =>
    refine ⟨rfl, { f with isAbstract := true }, hparams, rfl, ?_⟩
    have hmarked := updateFunction_addFunction m.heap f fun f => { f with isAbstract := true }
    rw [Machine.addMethod, ← hmarked]
    rfl

/-- Statements that bind methods or do nothing. -/
inductive Methods (marker : String) : List Stmt → List Method → Prop
  | nil : Methods marker [] []
  | pass {body : List Stmt} {ks : List Method} : Methods marker body ks →
    Methods marker (.pass :: body) ks
  | method {body : List Stmt} {k : Method} {ks : List Method} : k.IsPlain →
    Methods marker body ks → Methods marker (k.statement marker :: body) (k :: ks)

theorem filterMap_methods {α : Type} {marker : String} {body : List Stmt} {ks : List Method}
    {g : Stmt → Option α} {f : Method → Option α} (hbody : Methods marker body ks)
    (hpass : g .pass = none) (hmethod : ∀ k ∈ ks, g (k.statement marker) = f k) :
    body.filterMap g = ks.filterMap f := by
  induction hbody with
  | nil => rfl
  | pass _ ih =>
    rw [List.filterMap_cons, hpass]
    exact ih hmethod
  | @method body k ks _ _ ih =>
    rw [List.filterMap_cons, List.filterMap_cons, hmethod k List.mem_cons_self,
      ih fun k' hk' => hmethod k' (List.mem_cons_of_mem k hk')]

/-- Methods are bound one after the other. -/
inductive BindsAll (h : Heap) : List Method → Names → Names → Prop
  | nil {own : Names} : BindsAll h [] own own
  | cons {k : Method} {ks : List Method} {start own : Names} {p : Nat} {f : Function} :
    h.function? p = some f → f.params = k.params → f.isAbstract = k.isAbstract →
    BindsAll h ks (start.insert k.name (.function p)) own → BindsAll h (k :: ks) start own

namespace Machine

variable {m : Machine} {place : Nat} {name : String} {o : Object} {f : Function}

/-- The machine after a name was bound. -/
def bound (m : Machine) (place : Nat) (name : String) (o : Object) : Machine :=
  { m with heap := m.heap.bind place name o }

theorem namesAt_bound (hplace : place < m.heap.names.size) :
    (m.bound place name o).heap.namesAt place = (m.heap.namesAt place).insert name o := by
  unfold bound Heap.bind Heap.namesAt
  rw [Array.getElem?_modify, if_pos rfl, Array.getElem?_eq_getElem hplace]
  rfl

theorem size_bound : (m.bound place name o).heap.names.size = m.heap.names.size :=
  Array.size_modify

theorem get?_bound {n : String} (hn : n ≠ name) (q : Nat) :
    ((m.bound place name o).heap.namesAt q).get? n = (m.heap.namesAt q).get? n := by
  unfold bound Heap.bind Heap.namesAt
  rw [Array.getElem?_modify]
  by_cases hq : place = q
  · rw [if_pos hq]
    cases m.heap.names[q]? with
    | none => rfl
    | some names => exact Ordered.get?_insert_of_ne names _ hn
  · rw [if_neg hq]

theorem lookUp_bound {n : String} (hn : n ≠ name) (s : Surroundings) :
    (m.bound place name o).lookUp s n = m.lookUp s n := by
  have hnames : (fun p => ((m.bound place name o).heap.namesAt p).get? n) =
      fun p => (m.heap.namesAt p).get? n :=
    funext (get?_bound hn)
  have hbuiltin : (m.bound place name o).builtin? n = m.builtin? n := by
    unfold builtin? moduleName?
    simp only [get?_bound hn]
    rfl
  unfold lookUp
  rw [hnames, hbuiltin]

theorem spares_addMethod : m.Spares place (m.addMethod place name f) := by
  have hmade : m.Spares place { m with heap := (m.heap.addFunction f).2 } := spares_of_names rfl
  exact hmade.trans (spares_bind _ place name _)

theorem keeps_addMethod : m.heap.Keeps (m.addMethod place name f).heap :=
  Heap.Keeps.trans ⟨Heap.extends_addFunction m.heap f, rfl⟩ (Heap.keeps_bind ..)

theorem function?_addMethod :
    (m.addMethod place name f).heap.function? m.heap.functions.size = some f :=
  Array.getElem?_push_size

/-- Making a function changes nothing about names; binding it is the rest. -/
theorem namesAt_addMethod (hplace : place < m.heap.names.size) :
    (m.addMethod place name f).heap.namesAt place =
      (m.heap.namesAt place).insert name (.function m.heap.functions.size) :=
  namesAt_bound (m := { m with heap := (m.heap.addFunction f).2 }) hplace

theorem size_addMethod : (m.addMethod place name f).heap.names.size = m.heap.names.size :=
  size_bound (m := { m with heap := (m.heap.addFunction f).2 })

theorem lookUp_addMethod {n : String} (hn : n ≠ name) (s : Surroundings) :
    (m.addMethod place name f).lookUp s n = m.lookUp s n :=
  lookUp_bound (m := { m with heap := (m.heap.addFunction f).2 }) hn s

end Machine

theorem after_methods {fuel : Nat} {s : Surroundings} {marker : String} {body : List Stmt}
    {ks : List Method} {m : Machine} (hbody : Methods marker body ks)
    (hplace : s.locals < m.heap.names.size) (hnames : ∀ k ∈ ks, k.name ≠ marker)
    (hmarker : (∃ k ∈ ks, k.isAbstract = true) → m.lookUp s marker = some (.tool .abstractMethod)) :
    After (runAll (exec (fuel + 3) s) body) m
      (fun _ t => m.heap.Keeps t.heap ∧ m.Spares s.locals t ∧
        BindsAll t.heap ks (m.heap.namesAt s.locals) (t.heap.namesAt s.locals))
      fun _ _ => False := by
  induction hbody generalizing m with
  | nil => exact ⟨.refl _, .refl _ _, .nil⟩
  | pass _ ih => exact ih hplace hnames hmarker
  | @method body k ks hplain _ ih =>
    unfold runAll
    rw [after_bind]
    refine (after_method hplain fun habs => hmarker ⟨k, List.mem_cons_self, habs⟩).imp ?_
      fun _ _ he => he
    rintro _ _ ⟨rfl, f, hparams, habs, rfl⟩
    have hne := hnames k List.mem_cons_self
    have hsize : (m.addMethod s.locals k.name f).heap.names.size = m.heap.names.size :=
      Machine.size_addMethod
    refine (ih (hsize ▸ hplace) (fun k' hk' => hnames k' (List.mem_cons_of_mem k hk')) ?_).imp ?_
      fun _ _ he => he
    · rintro ⟨k', hk', habs'⟩
      rw [Machine.lookUp_addMethod hne.symm]
      exact hmarker ⟨k', List.mem_cons_of_mem k hk', habs'⟩
    · rintro _ t ⟨hkeeps, hspares, hbinds⟩
      rw [Machine.namesAt_addMethod hplace] at hbinds
      exact ⟨Machine.keeps_addMethod.trans hkeeps, Machine.spares_addMethod.trans hspares,
        .cons (hkeeps.grows.functions _ _ Machine.function?_addMethod) hparams habs hbinds⟩

/-! ### Class statements with methods -/

namespace BindsAll

variable {h : Heap} {ks : List Method} {k : Method} {start own : Names} {n : String} {o : Object}

theorem get?_of_notMem (hb : BindsAll h ks start own) (hn : n ∉ ks.map Method.name) :
    own.get? n = start.get? n := by
  induction hb with
  | nil => rfl
  | cons _ _ _ _ ih =>
    rw [List.map_cons, List.mem_cons, not_or] at hn
    rw [ih hn.2, Ordered.get?_insert_of_ne _ _ hn.1]

theorem get?_of_mem (hb : BindsAll h ks start own) (hnodup : (ks.map Method.name).Nodup)
    (hk : k ∈ ks) : ∃ p f, own.get? k.name = some (.function p) ∧ h.function? p = some f ∧
      f.params = k.params ∧ f.isAbstract = k.isAbstract := by
  induction hb with
  | nil => cases hk
  | @cons k' ks start own p f hf hparams habs hb ih =>
    rw [List.map_cons, List.nodup_cons] at hnodup
    rcases List.mem_cons.1 hk with rfl | hk
    · refine ⟨p, f, ?_, hf, hparams, habs⟩
      rw [hb.get?_of_notMem hnodup.1, Ordered.get?_insert_self]
    · exact ih hnodup.2 hk

theorem get?_cases (hb : BindsAll h ks start own) (hnodup : (ks.map Method.name).Nodup)
    (ho : own.get? n = some o) :
    (∃ k ∈ ks, k.name = n ∧ ∃ p f, o = .function p ∧ h.function? p = some f ∧
      f.params = k.params ∧ f.isAbstract = k.isAbstract) ∨
    n ∉ ks.map Method.name ∧ start.get? n = some o := by
  by_cases hn : n ∈ ks.map Method.name
  · obtain ⟨k, hk, rfl⟩ := List.mem_map.1 hn
    obtain ⟨p, f, hown, hf⟩ := hb.get?_of_mem hnodup hk
    exact .inl ⟨k, hk, rfl, p, f, Option.some.inj (ho.symm.trans hown), hf⟩
  · rw [hb.get?_of_notMem hn] at ho
    exact .inr ⟨hn, ho⟩

end BindsAll

theorem get?_startingNamesOf {h : Heap} {s : Surroundings} {name n : String} {o : Object}
    (ho : (startingNamesOf h s name).get? n = some o) :
    n = "__module__" ∧ o = .value (.text (textOf (h.namesAt s.globals) "__name__" s.module)) ∨
      n = "__qualname__" ∧ o = .value (.text (s.start ++ name)) := by
  have hmem := Ordered.mem_of_get?_ofList ho
  simpa using hmem

theorem get?_startingNamesOf_eq_none {h : Heap} {s : Surroundings} {name n : String}
    (hn : n ∉ ["__module__", "__qualname__"]) : (startingNamesOf h s name).get? n = none := by
  cases ho : (startingNamesOf h s name).get? n with
  | none => rfl
  | some o =>
    rcases get?_startingNamesOf ho with ⟨rfl, -⟩ | ⟨rfl, -⟩
    · exact absurd List.mem_cons_self hn
    · exact absurd (List.mem_cons_of_mem _ List.mem_cons_self) hn

/-- The names stand for these objects wherever the machine is. -/
def KnowsNames (known : String → Option Object) (s : Surroundings) (m : Machine) : Prop :=
  ∀ n o, known n = some o → m.lookUp s n = some o

/-- A class statement of the index without keywords, where it is executed. -/
structure Stated (x : Index) (m : Machine) (s : Surroundings) (d : Definition) (name : String)
    (bases : List Expr) (body : List Stmt) : Prop where
  lists : x.Lists d
  parts : d.parts = some ⟨bases, [], body⟩
  module : textOf (m.heap.namesAt s.globals) "__name__" s.module = d.module
  qualname : s.start ++ name = d.qualname
  bases : List.Forall₂ (fun n e => ∃ b p, e = .name b ∧ m.lookUp s b = some (.class p) ∧
    m.heap.Stands x n p) (x.bases d) bases

/-- A class statement of the index with methods, at a machine that knows the names it uses. -/
structure IsStatement (x : Index) (m : Machine) (s : Surroundings) (d : Definition) (name : String)
    (bases : List Expr) (body : List Stmt) (marker : String) (ks : List Method) : Prop
    extends Stated x m s d name bases body where
  methods : Methods marker body ks
  distinct : (ks.map Method.name).Nodup
  names : ∀ k ∈ ks, k.name ∉ [marker, "__module__", "__qualname__"]
  marker : (∃ k ∈ ks, k.isAbstract = true) →
    (m.enterBody s name).lookUp (m.bodyOf s name) marker = some (.tool .abstractMethod)

/-- One name was bound; all others are as they were. -/
structure Machine.Binds (m : Machine) (place : Nat) (n : String) (o : Object) (t : Machine) :
    Prop where
  spares : m.Spares place t
  names : t.heap.namesAt place = (m.heap.namesAt place).insert n o

theorem Machine.Spares.binds {m u : Machine} {place : Nat} (hs : m.Spares m.heap.names.size u)
    (hplace : place < m.heap.names.size) (n : String) (o : Object) :
    m.Binds place n o (u.bound place n o) := by
  have hbind := u.spares_bind place n o
  refine ⟨⟨hs.modules, Nat.le_trans hs.grows hbind.grows, fun q hq hne => ?_⟩, ?_⟩
  · exact (hbind.names q (Nat.lt_of_lt_of_le hq hs.grows) hne).trans
      (hs.names q hq (Nat.ne_of_lt hq))
  · rw [Machine.namesAt_bound (Nat.lt_of_lt_of_le hplace hs.grows),
      hs.names _ hplace (Nat.ne_of_lt hplace)]

/-- A class was made of a definition and bound to a name. -/
structure Makes (x : Index) (R : Heap → Prop) (s : Surroundings) (d : Definition) (name : String)
    (m t : Machine) : Prop where
  runs : R t.heap
  defines : Heap.Defines x m.heap t.heap d
  binds : m.Binds s.locals name (.class m.heap.classes.size) t

theorem after_bases (fuel : Nat) {s : Surroundings} {m : Machine} {ns : List String}
    {bases : List Expr} (hbases : List.Forall₂ (fun n e => ∃ b p, e = .name b ∧
      m.lookUp s b = some (.class p) ∧ m.heap.Stands x n p) ns bases) :
    ∃ written, List.Forall₂ (m.heap.Stands x) ns written ∧
      After (bases.mapM (eval (fuel + 1) s)) m
        (fun os t => t = m ∧ os = written.map Object.class) fun _ _ => True := by
  induction hbases with
  | nil => exact ⟨[], .nil, rfl, rfl⟩
  | @cons n e ns bases hfirst _ ih =>
    obtain ⟨b, p, rfl, hlook, hstands⟩ := hfirst
    obtain ⟨written, hrest, hafter⟩ := ih
    have heval : After (eval (fuel + 1) s (.name b)) m
        (fun o t => t = m ∧ o = .class p) fun _ _ => True := by
      unfold eval
      rw [after_bind, after_get, hlook]
      exact ⟨rfl, rfl⟩
    refine ⟨p :: written, .cons hstands hrest, ?_⟩
    rw [List.mapM_cons, after_bind]
    refine heval.imp ?_ fun _ _ he => he
    rintro _ m ⟨rfl, rfl⟩
    rw [after_bind]
    refine hafter.imp ?_ fun _ _ he => he
    rintro _ m ⟨rfl, rfl⟩
    exact ⟨rfl, rfl⟩

theorem bound_of_bindsAll {s : Surroundings} {name marker : String} {bases : List Expr}
    {body : List Stmt} {ks : List Method} {m : Machine} {h : Heap} {own : Names}
    (hs : IsStatement x m s d name bases body marker ks)
    (hall : BindsAll h ks (startingNamesOf m.heap s name) own)
    (hbinds : r.Binds h d (own.erase "__qualname__")) : Bound x r h d own := by
  have hreserved : ∀ n ∈ ["__module__", "__qualname__"], n ∉ ks.map Method.name := by
    intro n hn hmem
    obtain ⟨k, hk, rfl⟩ := List.mem_map.1 hmem
    exact hs.names k hk (List.mem_cons_of_mem marker hn)
  refine ⟨?_, ?_, fun n o ho => ?_, hbinds⟩
  · rw [hall.get?_of_notMem (hreserved _ (by simp)), ← hs.module]
    rfl
  · rw [hall.get?_of_notMem (hreserved _ (by simp)), ← hs.qualname]
    rfl
  · obtain ⟨-, ho⟩ := Ordered.get?_erase_eq_some_iff.1 ho
    rcases hall.get?_cases hs.distinct ho with ⟨-, -, -, p, f, rfl, hf, -⟩ | ⟨-, ho⟩
    · exact Option.isSome_iff_exists.2 ⟨f, hf⟩
    · rcases get?_startingNamesOf ho with ⟨-, rfl⟩ | ⟨-, rfl⟩
      · rfl
      · rfl

/-- A class statement with methods is one step of a run, under any reading that its methods meet. -/
theorem runs_classStatement {fuel line start : Nat} {s : Surroundings} {name marker : String}
    {bases : List Expr} {body : List Stmt} {ks : List Method} {m : Machine}
    (hr : Heap.Runs x r m.heap) (hplace : s.locals < m.heap.names.size)
    (hnew : ∀ p, ¬m.heap.Depicts x p d) (hs : IsStatement x m s d name bases body marker ks)
    (hbinds : ∀ (h : Heap) own, BindsAll h ks (startingNamesOf m.heap s name) own →
      r.Binds h d (own.erase "__qualname__")) :
    After (exec (fuel + 5) s (.classDef line start name bases [] [] body)) m
      (fun o t => o = none ∧ Makes x (Heap.Runs x r) s d name m t) fun _ _ => True := by
  have hclass : d.parts.isSome = true := by
    rw [hs.parts]
    rfl
  have hbody : After (runAll (exec (fuel + 3) (m.bodyOf s name)) body) (m.enterBody s name)
      (fun _ u => m.heap.Keeps u.heap ∧ m.Spares m.heap.names.size u ∧
        Bound x r u.heap d (u.heap.namesAt m.heap.names.size)) fun _ _ => True := by
    refine (after_methods hs.methods (m.locals_lt_enterBody s name) (fun k hk heq => ?_)
      hs.marker).imp ?_ fun _ _ _ => trivial
    · exact hs.names k hk (heq ▸ List.mem_cons_self)
    · rintro _ u ⟨hkeeps, hspares, hall⟩
      rw [m.namesAt_enterBody s name] at hall
      exact ⟨(Heap.keeps_addNames ..).trans hkeeps, (m.spares_enterBody s name).trans hspares,
        bound_of_bindsAll hs hall (hbinds _ _ hall)⟩
  obtain ⟨written, hstands, hbases⟩ := after_bases (fuel + 2) hs.bases
  have hexec : exec (fuel + 5) s (.classDef line start name bases [] [] body) = do
      let o ← makeClass (fuel + 4) s name bases [] body
      bindLocal s name (← decorate (fuel + 4) [] o)
      return none := rfl
  rw [hexec, after_bind]
  refine (runs_makeClass hr hs.lists hclass hnew hbases hstands hbody).imp ?_ fun _ _ _ => trivial
  rintro _ t ⟨hruns, hdefines, hspares, rfl⟩
  exact ⟨rfl, hruns.keeps (Heap.keeps_bind ..), hdefines.between (.refl _) (Heap.keeps_bind ..),
    hspares.binds hplace ..⟩

/-- Enters a module and runs its statements. -/
def runModule (name : String) (body : List Stmt) : Run Unit := do
  let (_, names) ← enterModule name (.file (Path.ofText (name ++ ".py")))
  discard (runAll (exec maxDepth ⟨name, names, names, [], "", none, isLazyBody body⟩) body)
  leaveModule name

end Live

end Foundry
