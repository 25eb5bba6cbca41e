import Foundry.Proofs.Source.Discovery

/-!
Extraction of records. It gives a record or a rejection whatever the provider does, unless what is
wrong with the marker has no text. The group of a record is a fixed point of the two providers:
asked for again, its name leads to a declaration of that very name, so that no later step finds the
group of a record unresolved.
-/

namespace Foundry

open Query Text

variable {σ : Type} {p : Provider σ} {I : σ → Prop} {s : σ} {g : String} {d : Declaration}
  {a : Marking}

/-- A rejection for a group type that is not resolved. -/
def Fault.IsUnresolved (f : Fault) : Prop :=
  ∃ r, f = .rejected r ∧ r.code = "UnresolvableGroupType"

theorem Query.run_of_answer {α : Type} {q : Query σ α} {r : Except Fault α} (h : q.answer s = r) :
    q.run s = (r, (q.run s).2) :=
  Prod.ext h rfl

/-! ### A record or a rejection -/

theorem identifierOf_ok {v : Value} {identifier : String} (h : identifierOf d v = .ok identifier) :
    v = .text identifier ∧ strip identifier ≠ "" := by
  cases v with
  | text t =>
    simp only [identifierOf] at h
    split at h
    · cases h
    · rename_i hblank
      cases h
      exact ⟨rfl, by simpa using hblank⟩
  | _ => cases h

/-- A record of a declaration with a marker, under the text of the marker itself. -/
structure Record.Reads (r : Record) (d : Declaration) (a : Marking) : Prop where
  declaration : r.declaration = d
  identifier : a.identifier = .text r.identifier
  visible : strip r.identifier ≠ ""

theorem extract_after {G : String → σ → Prop} {E : Fault → σ → Prop} (hd : d.marking = some a)
    (hgroup : After (resolveGroup p (some d) a.type) s G E)
    (hE : ∀ f, identifierOf d a.identifier = .error f → E f s) :
    After (Record.extract p d) s (fun r t => r.Reads d a ∧ G r.group t) E := by
  unfold Record.extract
  rw [hd]
  cases hi : identifierOf d a.identifier with
  | error f =>
    simp only [hi]
    exact hE f hi
  | ok identifier =>
    simp only [hi]
    rw [after_bind]
    refine hgroup.imp (fun g t hg => ?_) fun _ _ he => he
    obtain ⟨htext, hvisible⟩ := identifierOf_ok hi
    exact ⟨⟨rfl, htext, hvisible⟩, hg⟩

theorem extract_record_or_rejection (p : Provider σ) (s : σ) (hd : d.marking = some a)
    (hworded : a.unshown? = none) :
    (∃ r, (Record.extract p d).answer s = .ok r ∧ r.Reads d a) ∨
      ∃ r, (Record.extract p d).answer s = .error (.rejected r) := by
  have hnotBarred : ∀ f, ¬ d.Bars f := fun f hf => hf.not_isWorded ⟨a, hd, hworded⟩
  have hextract := p.within_true.extract d s trivial
  have hreads : After (Record.extract p d) s (fun r _ => r.Reads d a) fun _ _ => True :=
    (extract_after hd ((after_run (resolveGroup p (some d) a.type) s).imp (fun _ _ _ => trivial)
      fun _ _ _ => trivial) fun _ _ => trivial).imp (fun _ _ h => h.1) fun _ _ h => h
  unfold Query.answer
  cases hrun : (Record.extract p d).run s with
  | mk result t =>
    cases result with
    | ok r => exact .inl ⟨r, rfl, hreads.of_ok hrun⟩
    | error f =>
      obtain ⟨-, ⟨r, rfl⟩ | hbars⟩ := hextract.of_error hrun
      · exact .inr ⟨r, rfl⟩
      · exact absurd hbars (hnotBarred f)

/-! ### Names that lead to themselves -/

/-- A name under which a declaration is found, and to which the name itself is resolved. -/
structure Provider.Knows (p : Provider σ) (I : σ → Prop) (g : String) : Prop where
  get : ∀ s, I s →
    After (p.get g) s (fun e t => I t ∧ ∃ d, e = some d ∧ d.qualifiedName = g) fun _ _ => False
  resolve : ∀ s, I s → After (p.resolve ⟨g, none⟩) s (fun n t => I t ∧ n = some g) fun _ _ => False

/-- Whatever name a declaration is found under, its own name leads to itself. -/
structure Provider.Canonical (p : Provider σ) (I : σ → Prop) : Prop where
  get : ∀ n s, I s →
    After (p.get n) s (fun e t => I t ∧ ∀ d, e = some d → p.Knows I d.qualifiedName)
      fun f t => I t ∧ ¬f.IsUnresolved
  resolve : ∀ r, Query.Within I (fun _ => True) (p.resolve r)

theorem Declaration.qualifiedName_ne_empty (d : Declaration) : d.qualifiedName ≠ "" := by
  simp [qualifiedName, QualifiedName.text]

namespace Provider

theorem Canonical.get_within (hp : p.Canonical I) (n : String) :
    Query.Within I (fun f => ¬f.IsUnresolved) (p.get n) :=
  fun s hs => (hp.get n s hs).imp (fun _ _ h => h.1) fun _ _ h => h

theorem Canonical.within (hp : p.Canonical I) : p.Within I fun _ => True where
  rejection _ := trivial
  get n := (hp.get_within n).mono fun _ _ => trivial
  resolve := hp.resolve

theorem Canonical.typeDeclaration (hp : p.Canonical I) (scope : Option String) (type : Value)
    (hs : I s) :
    After (typeDeclaration? p scope type) s
      (fun e t => I t ∧ ∀ d, e = some d → p.Knows I d.qualifiedName) fun _ t => I t := by
  unfold typeDeclaration?
  rw [after_bind]
  refine (hp.within.typeName scope type s hs).imp (fun n t ht => ?_) fun _ _ h => h.1
  cases n with
  | none => exact ⟨ht, fun _ h => by cases h⟩
  | some n =>
    simp only
    split
    · exact ⟨ht, fun _ h => by cases h⟩
    · exact (hp.get n t ht).imp (fun _ _ h => h) fun _ _ h => h.1

theorem Canonical.resolveGroup (hp : p.Canonical I) (owner : Option Declaration) (type : Value)
    (hs : I s) :
    After (resolveGroup p owner type) s (fun g t => I t ∧ p.Knows I g) fun _ t => I t := by
  unfold Foundry.resolveGroup
  rw [after_bind, after_tryCatch]
  refine (hp.typeDeclaration _ type hs).imp ?_ fun f t ht => ?_
  · rintro found t ⟨ht, hfound⟩
    cases found with
    | none => exact ht
    | some d => exact ⟨ht, hfound d rfl⟩
  · cases f with
    | rejected r => exact ht
    | _ => exact ht

/-! ### Settled groups -/

/-- What the steps after extraction rely on about the group of a record. -/
structure Settles (p : Provider σ) (s : σ) (g : String) : Prop where
  found : ∃ d, (p.get g).answer s = .ok (some d) ∧ d.qualifiedName = g
  resolved : ∀ owner, (Foundry.resolveGroup p owner (.reference ⟨g, none⟩)).answer s = .ok g
  checked : ∀ (r : Record) limit f, r.group = g → (checkSubtype p limit r).answer s = .error f →
    ¬f.IsUnresolved
  planned : ∀ n (group : Group), group.name = g → group.members.entries ≠ [] →
    ∃ plan, (Factory.planGroup p n group).answer s = .ok plan ∧ plan.group.text = g

theorem Knows.ne_empty (hg : p.Knows I g) (hs : I s) : g ≠ "" := by
  obtain ⟨e, t, -, -, d, -, rfl⟩ := (hg.get s hs).exists_ok fun _ _ => id
  exact d.qualifiedName_ne_empty

theorem Knows.resolveGroup (hg : p.Knows I g) (owner : Option Declaration) (hs : I s) :
    After (Foundry.resolveGroup p owner (.reference ⟨g, none⟩)) s (fun n _ => n = g)
      fun _ _ => False := by
  unfold Foundry.resolveGroup typeDeclaration? typeName?
  rw [after_bind, after_tryCatch, after_bind]
  refine (hg.resolve s hs).imp ?_ fun _ _ h => h.elim
  rintro n t ⟨ht, rfl⟩
  simp only
  rw [if_neg (by simpa using hg.ne_empty hs)]
  refine (hg.get t ht).imp ?_ fun _ _ h => h.elim
  rintro e u ⟨-, d, rfl, hd⟩
  exact hd

theorem Knows.checkSubtype (hp : p.Canonical I) {r : Record} (hg : p.Knows I r.group) (limit : Nat)
    (hs : I s) :
    After (checkSubtype p limit r) s (fun _ _ => True) fun f _ => ¬f.IsUnresolved := by
  have hother : ∀ r' : Rejection, r'.code ≠ "UnresolvableGroupType" →
      ¬(Fault.rejected r').IsUnresolved := by
    rintro r' hcode ⟨r'', heq, hcode'⟩
    cases heq
    exact hcode hcode'
  unfold Foundry.checkSubtype
  rw [after_bind]
  refine (hg.get s hs).imp ?_ fun _ _ h => h.elim
  rintro e t ⟨ht, d, rfl, -⟩
  simp only
  split
  · split
    · trivial
    · exact hother _ (by simp [Rejection.code])
  · unfold checkAncestor
    rw [after_bind]
    have hsearch := Within.searchEach (fun n x =>
      Within.searchFrom hp.get_within r.group limit [r.declaration.qualifiedName] n x)
      r.declaration.superclasses ⟨[], false⟩
    refine (hsearch t ht).imp (fun found u _ => ?_) fun _ _ h => h.2
    cases found with
    | none => trivial
    | some x => exact hother _ (by simp [Rejection.code])

theorem Knows.planGroup (hg : p.Knows I g) (n : Factory.Naming) {group : Group}
    (hname : group.name = g) (hmembers : group.members.entries ≠ []) (hs : I s) :
    After (Factory.planGroup p n group) s (fun plan _ => plan.group.text = g) fun _ _ => False := by
  have hne : group.members.isEmpty = false := by
    simpa [Ordered.isEmpty] using hmembers
  unfold Factory.planGroup
  rw [hne, hname]
  simp only [Bool.false_eq_true, if_false]
  rw [after_bind]
  refine (hg.get s hs).imp ?_ fun _ _ h => h.elim
  rintro e t ⟨-, d, rfl, hd⟩
  exact hd

theorem Knows.settles (hp : p.Canonical I) (hg : p.Knows I g) (hs : I s) : p.Settles s g where
  found := by
    obtain ⟨e, t, hrun, -, d, rfl, hd⟩ := (hg.get s hs).exists_ok fun _ _ => id
    exact ⟨d, congrArg Prod.fst hrun, hd⟩
  resolved := by
    intro owner
    obtain ⟨n, t, hrun, rfl⟩ := (hg.resolveGroup owner hs).exists_ok fun _ _ => id
    exact congrArg Prod.fst hrun
  checked := by
    rintro r limit f rfl hfail
    exact (hg.checkSubtype hp limit hs).of_error (Query.run_of_answer hfail)
  planned := by
    intro n group hname hmembers
    obtain ⟨plan, t, hrun, hplan⟩ := (hg.planGroup n hname hmembers hs).exists_ok fun _ _ => id
    exact ⟨plan, congrArg Prod.fst hrun, hplan⟩

/-- Whatever is asked before a record is extracted and after that, its group is settled. -/
def SettlesGroups (p : Provider σ) (start : σ) : Prop :=
  ∀ (before : List Question) (d : Declaration) (r : Record) (t : σ),
    (Record.extract p d).run (p.after before start) = (.ok r, t) →
      ∀ later, p.Settles (p.after later t) r.group

theorem Canonical.settlesGroups (hp : p.Canonical I) {start : σ} (hstart : I start)
    (hafter : ∀ questions s, I s → I (p.after questions s)) : p.SettlesGroups start := by
  intro before d r t hrun later
  have hextract : After (Record.extract p d) (p.after before start)
      (fun r t => I t ∧ p.Knows I r.group) fun _ _ => True := by
    cases hd : d.marking with
    | none =>
      unfold Record.extract
      rw [hd]
      trivial
    | some a =>
      have hgroup := hp.resolveGroup (some d) a.type (hafter before start hstart)
      exact (extract_after hd (hgroup.imp (fun _ _ h => h) fun _ _ _ => trivial)
        fun _ _ => trivial).imp (fun _ _ h => h.2) fun _ _ h => h
  obtain ⟨ht, hg⟩ := hextract.of_ok hrun
  exact hg.settles hp (hafter later t ht)

end Provider

/-! ### The two providers -/

namespace Store

/-- Every declaration is kept under its own name. -/
def Keyed (store : Store) : Prop :=
  ∀ n d, store.get? n = some d → d.qualifiedName = n

theorem keyed_ofDeclarations (ds : List Declaration) : (ofDeclarations ds).Keyed := by
  have hall : ∀ store : Store, store.Keyed → (ds.foldl add store).Keyed := by
    induction ds with
    | nil => exact fun _ h => h
    | cons d ds ih =>
      intro store hstore
      refine ih _ fun n e he => ?_
      by_cases hn : n = d.qualifiedName
      · subst hn
        rw [add, Ordered.get?_insert_self, Option.some.injEq] at he
        exact he ▸ rfl
      · rw [add, Ordered.get?_insert_of_ne _ _ hn] at he
        exact hstore n e he
  exact hall Ordered.empty fun n d h => by cases h

variable {store : Store}

theorem canonical_provider (hstore : store.Keyed) : provider.Canonical (· = store) where
  get := by
    rintro n s rfl
    refine ⟨rfl, fun d hd => ?_⟩
    have hn := hstore n d hd
    refine ⟨?_, ?_⟩
    · rintro t rfl
      exact ⟨rfl, d, hn ▸ hd, rfl⟩
    · rintro t rfl
      have hcontains : t.contains d.qualifiedName = true := by
        rw [hn, Ordered.contains]
        exact Option.isSome_iff_exists.2 ⟨d, hd⟩
      exact ⟨rfl, if_pos hcontains⟩
  resolve _ _ hs := hs

theorem after_eq (questions : List Question) : provider.after questions store = store := by
  refine Provider.after_keeps (I := (· = store)) (fun n => ?_) (fun r => ?_) ?_ questions rfl
  · exact fun _ hs => hs
  · exact fun _ hs => hs
  · rintro s rfl
    refine ⟨rfl, fun v hv => ?_⟩
    obtain ⟨d, -, rfl⟩ := List.mem_map.1 hv
    exact .pure _

end Store

namespace Source.Index

variable {x : Index} {e : Definition} {n : String}

theorem identifierValue_error {o : Option Expr} {f : Fault} (h : identifierValue o = .error f) :
    ∃ kind message, f = .raised kind message := by
  unfold identifierValue at h
  split at h
  · cases h
  · cases h
  · split at h
    · cases h
    · cases h
      exact ⟨_, _, rfl⟩

theorem marking?_error {f : Fault} (h : x.marking? e = .error f) :
    ∃ kind message, f = .raised kind message := by
  unfold marking? at h
  split at h
  · rename_i marker _
    cases marker with
    | call callee args keywords =>
      simp only [readMarker] at h
      cases hi : identifierValue (argument "identifier" 0 args keywords) with
      | error f' =>
        rw [hi] at h
        cases h
        exact identifierValue_error hi
      | ok v =>
        rw [hi] at h
        cases h
    | _ => cases h
  · cases h

/-- A declaration is never rejected for its description. -/
theorem describe_error_not_rejection {mem : AbstractMemory} {f : Fault}
    (h : x.describe e mem = .error f) : ¬f.IsRejection := by
  rcases describe_error_cases h with hmarking | ⟨p, rfl⟩
  · obtain ⟨kind, message, rfl⟩ := marking?_error hmarking
    rintro ⟨r, hr⟩
    cases hr
  · rintro ⟨r, hr⟩
    cases hr

theorem knows_of_describes (hx : x.Keyed) (hd : x.definitions.get? n = some e)
    (hdescribes : x.Describes e d) : x.provider.Knows x.Remembers d.qualifiedName := by
  have hn : d.qualifiedName = n := hdescribes.qualifiedName_eq.trans (hx.definition n e hd)
  rw [hn]
  refine ⟨fun s hs => ?_, fun s hs => ?_⟩
  -- The definition was described once, so it is never refused.
  · refine (get_answers hx n hs).imp ?_ ?_
    · rintro found t ⟨ht, hanswer⟩
      rcases hanswer.of_listed hd with ⟨a, ha, hdescribes⟩ | ⟨f, hf, -⟩
      · cases ha
        exact ⟨ht, a, rfl, hdescribes.qualifiedName_eq.trans (hx.definition n e hd)⟩
      · cases hf
    · rintro f t ⟨-, hanswer⟩
      rcases hanswer.of_listed hd with ⟨a, ha, -⟩ | ⟨f', -, hrefused⟩
      · cases ha
      · obtain ⟨mem, mem', -, hok⟩ := hdescribes
        cases (hrefused mem).symm.trans hok
  · refine ⟨hs, ?_⟩
    unfold resolveReference
    simp only [canon_of_get? hd, defines_of_get? hd, if_true]

theorem canonical_provider (hx : x.Keyed) : x.provider.Canonical x.Remembers where
  get n s hs := by
    refine (get_answers hx n hs).imp ?_ ?_
    · rintro found t ⟨ht, hanswer⟩
      refine ⟨ht, ?_⟩
      rintro d rfl
      cases hanswer with
      | known he ha => exact knows_of_describes hx he ha
    · rintro f t ⟨ht, hanswer⟩
      refine ⟨ht, ?_⟩
      rintro ⟨r, rfl, -⟩
      cases hanswer with
      | refused _ hf => exact describe_error_not_rejection (hf Ordered.empty) ⟨r, rfl⟩
  resolve r := .pure _

end Source.Index

/-! ### Whatever is extracted -/

/-- A marked declaration gives a record under the text of its marker, or a rejection, whatever its
provider does, unless what is wrong with its marker has no text; then what is raised for that text
is raised. With a store and with an index of sources, the group of a record is settled from then on,
however its type was given. -/
theorem extraction_settles {σ : Type} (p : Provider σ) (s : σ) {d : Declaration} {a : Marking}
    (hd : d.marking = some a) :
    (a.unshown? = none → (∃ r, (Record.extract p d).answer s = .ok r ∧ r.Reads d a) ∨
      ∃ r, (Record.extract p d).answer s = .error (.rejected r)) ∧
    (∀ u, a.unshown? = some u → (Record.extract p d).answer s = .error (.unshown u)) ∧
    (∀ ds, Store.provider.SettlesGroups (Store.ofDeclarations ds)) ∧
    ∀ modules annotationNames x, Source.Index.make modules annotationNames = .ok x →
      x.provider.SettlesGroups Source.Index.Memory.empty := by
  refine ⟨extract_record_or_rejection p s hd, fun u hu => ?_, fun ds => ?_, ?_⟩
  · rw [extract_unshown p hd hu]
    rfl
  · refine (Store.canonical_provider (Store.keyed_ofDeclarations ds)).settlesGroups rfl ?_
    rintro questions s rfl
    exact Store.after_eq questions
  · intro modules annotationNames x hx
    have hkeyed := (Source.Index.keyed_make hx).1
    exact (Source.Index.canonical_provider hkeyed).settlesGroups (Source.Index.remembers_empty x)
      fun questions s hs => Source.Index.remembers_after hkeyed questions hs

/-- A member of a group whose type is written as given. -/
def juice (type : Value) : Declaration :=
  Declaration.complete ⟨"m", "Juice"⟩ .ordinary none false [] none ["m.Drink"] [.standard]
    (some ⟨.text "juice", type⟩) none

def kiosk : Store :=
  Store.ofDeclarations [Declaration.complete ⟨"m", "Drink"⟩ .ordinary none false [] none []
    [.standard] none none, juice (.text " Drink ")]

/-- A module with a class, and one that imports the class under another name. -/
def kioskModules : List Source.Module :=
  [Source.Module.make "m" (Path.ofText "m.py") [.classDef 1 1 "Drink" [] [] [] [.pass]],
   Source.Module.make "n" (Path.ofText "n.py") [.importFrom (some "m") [⟨"Drink", some "D"⟩] 0]]

def kioskIndex : Source.Index :=
  (Source.Index.make kioskModules []).toOption.getD ⟨Ordered.empty, Ordered.empty, []⟩

theorem kiosk_groups_settled :
    (∃ r t, (Record.extract Store.provider (juice (.text " Drink "))).run kiosk = (.ok r, t) ∧
      r.Reads (juice (.text " Drink ")) ⟨.text "juice", .text " Drink "⟩ ∧ r.group = "m.Drink" ∧
      Store.provider.Settles t "m.Drink") ∧
    Source.Index.make kioskModules [] = .ok kioskIndex ∧
    ∃ r t, (Record.extract kioskIndex.provider (juice (.reference ⟨"D", some "n"⟩))).run
        (kioskIndex.provider.after [.get "m.Drink"] Source.Index.Memory.empty) = (.ok r, t) ∧
      r.group = "m.Drink" ∧
      kioskIndex.provider.Settles (kioskIndex.provider.after [.get "n.D", .iterate] t)
        "m.Drink" := by
  obtain ⟨htotal, -, hstore, hsource⟩ :=
    extraction_settles (d := juice (.text " Drink ")) Store.provider kiosk rfl
  have hmake : Source.Index.make kioskModules [] = .ok kioskIndex := rfl
  have hkiosk : (Record.extract Store.provider (juice (.text " Drink "))).run kiosk =
      (.ok ⟨"juice", "m.Drink", juice (.text " Drink ")⟩, kiosk) := rfl
  have hreads : (⟨"juice", "m.Drink", juice (.text " Drink ")⟩ : Record).Reads
      (juice (.text " Drink ")) ⟨.text "juice", .text " Drink "⟩ := by
    obtain ⟨r, hr, hreads⟩ | ⟨r, hr⟩ := htotal rfl
    · obtain rfl := Except.ok.inj (hr.symm.trans (congrArg Prod.fst hkiosk))
      exact hreads
    · cases hr.symm.trans (congrArg Prod.fst hkiosk)
  have hindex : (Record.extract kioskIndex.provider (juice (.reference ⟨"D", some "n"⟩))).answer
      (kioskIndex.provider.after [.get "m.Drink"] Source.Index.Memory.empty) =
      .ok ⟨"juice", "m.Drink", juice (.reference ⟨"D", some "n"⟩)⟩ := rfl
  have hrun := Query.run_of_answer hindex
  refine ⟨⟨_, _, hkiosk, hreads, rfl, hstore _ [] _ _ _ hkiosk []⟩, hmake, _, _, hrun, rfl, ?_⟩
  exact hsource _ _ _ hmake [.get "m.Drink"] _ _ _ hrun [.get "n.D", .iterate]

/-- A member whose identifier is a number with too many digits. -/
def bulkJuice : Declaration :=
  { juice (.text "Drink") with marking := some ⟨Value.enormous, .text "Drink"⟩ }

/-- What is raised for the number is no rejection, and there is no record either. -/
theorem enormous_identifier_raises :
    bulkJuice.marking = some ⟨Value.enormous, .text "Drink"⟩ ∧
    (Record.extract Store.provider bulkJuice).answer kiosk = .error (.unshown .tooLong) ∧
    ¬ ((∃ r, (Record.extract Store.provider bulkJuice).answer kiosk = .ok r) ∨
      ∃ r, (Record.extract Store.provider bulkJuice).answer kiosk = .error (.rejected r)) := by
  have hraised : (Record.extract Store.provider bulkJuice).answer kiosk =
      .error (.unshown .tooLong) := by
    rw [extract_unshown _ rfl (unshown?_enormous _)]
    rfl
  refine ⟨rfl, hraised, ?_⟩
  rw [hraised]
  rintro (⟨r, hr⟩ | ⟨r, hr⟩)
  · cases hr
  · cases hr

end Foundry
