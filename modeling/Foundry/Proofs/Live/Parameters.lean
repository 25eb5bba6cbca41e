import Foundry.Proofs.Live.Constructors

/-!
Parameters of constructors: how many a construction without arguments leaves open, as the source
counts them, against the binding of the call.

The count is a difference of lengths that is cut off at zero once, at the end. It is exact unless
the first parameter has a default and a parameter by name only has none: the default of the one
then makes up for what the other lacks.
-/

namespace Foundry

open Source (Index Definition Params Param)

/-! ### Calls by position -/

namespace Signature

variable {α : Type} {b : Binding α} {ps : List Parameter} {s : Signature}

/-- What arguments by position are bound to before anything is found to be missing. -/
def opening (s : Signature) (args : List α) : Binding α :=
  ⟨(s.positional.map (·.name)).zip args, args.drop s.positional.length, []⟩

theorem bind_positions (s : Signature) (args : List α) :
    s.bind args [] =
      if !(s.opening args).more.isEmpty && !s.takesMore then .error (s.tooMany args.length)
      else match lacking (s.opening args) s.positional, lacking (s.opening args) s.named with
        | [], [] => .ok (s.opening args)
        | [], names => .error (s.missing "keyword-only" names)
        | names, _ => .error (s.missing "positional" names) :=
  rfl

theorem exists_bind_iff (s : Signature) (args : List α) :
    (∃ b, s.bind args [] = .ok b) ↔
      ((s.opening args).more = [] ∨ s.takesMore = true) ∧
      lacking (s.opening args) s.positional = [] ∧ lacking (s.opening args) s.named = [] := by
  rw [bind_positions]
  by_cases hroom : (s.opening args).more = [] ∨ s.takesMore = true
  · rw [if_neg (by simpa [or_iff_not_imp_left] using hroom)]
    cases lacking (s.opening args) s.positional with
    | nil => cases lacking (s.opening args) s.named <;> simp [hroom]
    | cons n names => simp
  · rw [if_pos (by simpa using hroom)]
    simp [hroom]

/-- Parameters that nothing is bound to have to be optional. -/
theorem lacking_eq_nil_iff (hfree : ∀ p ∈ ps, p.name ∉ b.bound.map Prod.fst) :
    lacking b ps = [] ↔ ∀ p ∈ ps, p.isOptional = true := by
  rw [lacking, List.map_eq_nil_iff, List.filter_eq_nil_iff]
  refine forall₂_congr fun p hp => ?_
  have hunbound : (b.bound.any fun e => e.1 = p.name) = false := by
    rw [List.any_eq_false]
    intro e he hname
    exact hfree p hp (of_decide_eq_true hname ▸ List.mem_map_of_mem he)
  rw [hunbound]
  simp

theorem lacking_cons_of_mem {p : Parameter} (h : p.name ∈ b.bound.map Prod.fst) :
    lacking b (p :: ps) = lacking b ps := by
  have hbound : (b.bound.any fun e => e.1 = p.name) = true := by
    simpa using h
  simp [lacking, hbound]

/-- One argument binds when a parameter takes it and all the others are optional. -/
theorem exists_bind_single_iff
    (hnames : ((s.positional ++ s.named).map (·.name)).Nodup) (o : α) :
    (∃ b, s.bind [o] [] = .ok b) ↔
      (s.positional ≠ [] ∨ s.takesMore = true) ∧
      ∀ p ∈ s.positional.tail ++ s.named, p.isOptional = true := by
  rw [exists_bind_iff, List.forall_mem_append]
  cases hpositional : s.positional with
  | nil =>
    have hbound : (s.opening [o]).bound.map Prod.fst = [] := by
      simp [opening, hpositional]
    have hmore : (s.opening [o]).more = [o] := by
      simp [opening, hpositional]
    have hnamed : lacking (s.opening [o]) s.named = [] ↔ ∀ p ∈ s.named, p.isOptional = true :=
      lacking_eq_nil_iff (by simp [hbound])
    rw [hnamed, hmore]
    simp [lacking]
  | cons first rest =>
    rw [hpositional, List.cons_append, List.map_cons, List.nodup_cons, List.mem_map] at hnames
    have hbound : (s.opening [o]).bound.map Prod.fst = [first.name] := by
      simp [opening, hpositional]
    have hmore : (s.opening [o]).more = [] := by
      simp [opening, hpositional]
    -- The argument is bound under the first name, which no other parameter bears.
    have hfree : ∀ p ∈ rest ++ s.named, p.name ∉ (s.opening [o]).bound.map Prod.fst := by
      intro p hp hname
      rw [hbound, List.mem_singleton] at hname
      exact hnames.1 ⟨p, hp, hname⟩
    rw [lacking_cons_of_mem (by simp [hbound]),
      lacking_eq_nil_iff fun p hp => hfree p (List.mem_append_left _ hp),
      lacking_eq_nil_iff fun p hp => hfree p (List.mem_append_right _ hp), hmore]
    simp

end Signature

namespace Source.Params

open Live (paramName signatureOf)

variable {ps : Params} {l r : List Param}

/-- Every parameter, in the order of the text. -/
def all : Params → List Param
  | .mk posOnly args vararg kwOnly kwarg =>
    posOnly ++ args ++ vararg.toList ++ kwOnly ++ kwarg.toList

def takesMore : Params → Bool
  | .mk _ _ vararg _ _ => vararg.isSome

/-- The defaults of the parameters that can be given by position. -/
def defaults (ps : Params) : List Expr :=
  ps.positional.filterMap Param.default

def withoutDefault (l : List Param) : Nat :=
  (l.filter fun p => p.default.isNone).length

/-- The number of parameters without a default, other than the first one that can be given by
position and those that take what is left over. -/
def needed (ps : Params) : Nat :=
  withoutDefault (ps.positional.tail ++ ps.kwOnly)

/-- A parameter list as a function may have it: no name stands twice, and of the parameters that
can be given by position those after one with a default have one too. -/
structure Legal (ps : Params) : Prop where
  names : (ps.all.map paramName).Nodup
  defaults : ps.positional.Pairwise fun p q => p.default.isSome = true → q.default.isSome = true

/-- The first parameter has a default. -/
def StartsOptional (ps : Params) : Prop :=
  ∃ p ∈ ps.positional.head?, p.default.isSome = true

/-- Some parameter takes an argument by position. -/
def TakesInstance (ps : Params) : Prop :=
  ps.positional ≠ [] ∨ ps.takesMore = true

theorem StartsOptional.takesInstance (h : ps.StartsOptional) : ps.TakesInstance := by
  obtain ⟨p, hp, -⟩ := h
  exact .inl (List.ne_nil_of_mem (List.mem_of_head? hp))

/-! ### Counting -/

theorem withoutDefault_append :
    withoutDefault (l ++ r) = withoutDefault l + withoutDefault r := by
  simp [withoutDefault]

theorem withoutDefault_eq_zero_iff :
    withoutDefault l = 0 ↔ ∀ p ∈ l, p.default.isSome = true := by
  simp [withoutDefault, Option.isSome_iff_ne_none]

theorem needed_eq (ps : Params) :
    ps.needed = withoutDefault ps.positional.tail + withoutDefault ps.kwOnly :=
  withoutDefault_append

theorem needed_of_not_takesInstance (h : ¬ps.TakesInstance) :
    ps.needed = withoutDefault ps.kwOnly := by
  have hnone : ps.positional = [] := by
    by_contra hsome
    exact h (.inl hsome)
  rw [needed, hnone]
  rfl

theorem length_sub_defaults (ps : Params) :
    (ps.positional.length : Int) - ps.defaults.length = withoutDefault ps.positional := by
  have hsplit := List.length_eq_length_filter_add (l := ps.positional) fun p => p.default.isNone
  have hdefaults : ps.defaults.length =
      (ps.positional.filter fun p => !p.default.isNone).length := by
    rw [defaults, List.length_filterMap_eq_countP, List.countP_eq_length_filter]
    simp
  rw [withoutDefault]
  omega

/-- The count by lengths: positions less their defaults, less one for the first parameter, and the
names without a default, cut off at zero. -/
theorem requiredParameters_eq_max (ps : Params) :
    (requiredParameters ps : Int) =
      max ((ps.positional.length : Int) - ps.defaults.length - min ps.positional.length 1 +
        withoutDefault ps.kwOnly) 0 := by
  rw [length_sub_defaults]
  unfold requiredParameters
  cases hpositional : ps.positional with
  | nil => simp [withoutDefault]
  | cons p rest => simp [withoutDefault]

theorem Legal.withoutDefault_positional (h : ps.Legal) (hstart : ps.StartsOptional) :
    withoutDefault ps.positional = 0 := by
  obtain ⟨p, hp, hdefault⟩ := hstart
  obtain ⟨rest, hpositional⟩ := List.head?_eq_some_iff.1 hp
  have hafter := h.defaults
  rw [hpositional, List.pairwise_cons] at hafter
  rw [withoutDefault_eq_zero_iff, hpositional, List.forall_mem_cons]
  exact ⟨hdefault, fun q hq => hafter.1 q hq hdefault⟩

/-- A default of the first parameter takes one off what the names need. -/
theorem Legal.required_of_startsOptional (h : ps.Legal) (hstart : ps.StartsOptional) :
    requiredParameters ps = withoutDefault ps.kwOnly - 1 ∧
      ps.needed = withoutDefault ps.kwOnly := by
  have hnone := h.withoutDefault_positional hstart
  obtain ⟨p, hp, -⟩ := hstart
  obtain ⟨rest, hpositional⟩ := List.head?_eq_some_iff.1 hp
  -- Every position has a default, so what is counted before the names is minus one.
  have hcount := requiredParameters_eq_max ps
  rw [length_sub_defaults, hnone, hpositional, List.length_cons] at hcount
  have hrest : withoutDefault rest = 0 := by
    rw [hpositional, withoutDefault_eq_zero_iff, List.forall_mem_cons] at hnone
    exact withoutDefault_eq_zero_iff.2 hnone.2
  rw [needed_eq, hpositional, List.tail_cons, hrest]
  omega

theorem required_of_not_startsOptional (hstart : ¬ps.StartsOptional) :
    requiredParameters ps = ps.needed := by
  have hcount := requiredParameters_eq_max ps
  rw [length_sub_defaults] at hcount
  rw [needed_eq]
  cases hpositional : ps.positional with
  | nil =>
    have hnil : withoutDefault [] = 0 := rfl
    rw [hpositional, hnil, List.length_nil] at hcount
    rw [List.tail_nil, hnil]
    omega
  | cons p rest =>
    have hplain : p.default = none := by
      by_contra hdefault
      exact hstart ⟨p, by simp [hpositional], Option.isSome_iff_ne_none.2 hdefault⟩
    have hfirst : withoutDefault (p :: rest) = withoutDefault rest + 1 := by
      simp [withoutDefault, hplain]
    rw [hpositional, hfirst, List.length_cons] at hcount
    rw [List.tail_cons]
    omega

theorem Legal.required_eq_needed_iff (h : ps.Legal) :
    requiredParameters ps = ps.needed ↔ ¬(ps.StartsOptional ∧ 0 < withoutDefault ps.kwOnly) := by
  by_cases hstart : ps.StartsOptional
  · obtain ⟨hrequired, hneeded⟩ := h.required_of_startsOptional hstart
    simp only [hstart, true_and]
    omega
  · simp only [hstart, false_and, not_false_eq_true, iff_true]
    exact required_of_not_startsOptional hstart

/-- To count nothing is to need nothing but the instance, with two exceptions. -/
theorem Legal.required_eq_zero_iff (h : ps.Legal) :
    (requiredParameters ps = 0 ↔ ps.TakesInstance ∧ ps.needed = 0) ↔
      ¬(ps.StartsOptional ∧ withoutDefault ps.kwOnly = 1) ∧
        (ps.TakesInstance ∨ 0 < withoutDefault ps.kwOnly) := by
  by_cases hstart : ps.StartsOptional
  · obtain ⟨hrequired, hneeded⟩ := h.required_of_startsOptional hstart
    simp only [hstart, hstart.takesInstance, true_and, true_or, and_true]
    omega
  · rw [required_of_not_startsOptional hstart]
    simp only [hstart, false_and, not_false_eq_true, true_and]
    by_cases htakes : ps.TakesInstance
    · simp only [htakes, true_and, true_or]
    · have hneeded := needed_of_not_takesInstance htakes
      simp only [htakes, false_and, false_or, iff_false]
      omega

/-! ### Binding -/

def parameterOf (p : Param) : Parameter :=
  ⟨paramName p, p.default.isSome⟩

theorem signatureOf_positional (function : String) (ps : Params) :
    (signatureOf function ps).positional = ps.positional.map parameterOf := by
  obtain ⟨posOnly, args, vararg, kwOnly, kwarg⟩ := ps
  refine List.map_congr_left fun p _ => ?_
  cases p
  rfl

theorem signatureOf_named (function : String) (ps : Params) :
    (signatureOf function ps).named = ps.kwOnly.map parameterOf := by
  obtain ⟨posOnly, args, vararg, kwOnly, kwarg⟩ := ps
  refine List.map_congr_left fun p _ => ?_
  cases p
  rfl

theorem signatureOf_takesMore (function : String) (ps : Params) :
    (signatureOf function ps).takesMore = ps.takesMore := by
  obtain ⟨posOnly, args, vararg, kwOnly, kwarg⟩ := ps
  rfl

theorem Legal.nodup_names (h : ps.Legal) :
    ((ps.positional.map parameterOf ++ ps.kwOnly.map parameterOf).map Parameter.name).Nodup := by
  obtain ⟨posOnly, args, vararg, kwOnly, kwarg⟩ := ps
  have hsub : List.Sublist ((posOnly ++ args) ++ kwOnly)
      (posOnly ++ args ++ vararg.toList ++ kwOnly ++ kwarg.toList) :=
    ((List.sublist_append_left _ _).append_right _).trans (List.sublist_append_left _ _)
  rw [← List.map_append, List.map_map]
  exact h.names.sublist (hsub.map paramName)

/-- The instance alone binds when some parameter takes it and nothing else is needed. -/
theorem Legal.exists_bind_instance_iff {α : Type} (h : ps.Legal) (function : String) (o : α) :
    (∃ b, (signatureOf function ps).bind [o] [] = .ok b) ↔ ps.TakesInstance ∧ ps.needed = 0 := by
  have hnames := h.nodup_names
  rw [← signatureOf_positional function, ← signatureOf_named function] at hnames
  rw [Signature.exists_bind_single_iff hnames, signatureOf_positional, signatureOf_named,
    signatureOf_takesMore, needed, withoutDefault_eq_zero_iff, TakesInstance, ← List.map_tail,
    ← List.map_append, List.forall_mem_map, Ne, List.map_eq_nil_iff]
  rfl

end Source.Params

theorem Source.Index.isSome_parts_of_ownConstructor? {x : Index} {d : Definition} {ps : Params}
    (hown : x.ownConstructor? d = some ps) : d.parts.isSome = true := by
  unfold ownConstructor? at hown
  cases hparts : d.parts with
  | none =>
    rw [hparts] at hown
    cases hown
  | some c => rfl

namespace Live

open Source (requiredParameters)

variable {x : Index} {d : Definition} {ps : Params} {a : Declaration}

/-- The count of the source is exact unless a default of the first parameter makes up for a name
that has none. A class with a constructor of its own is accepted exactly when a construction without
arguments binds, unless such a default makes up for the only name, or no parameter takes the
instance and none is needed. -/
theorem parameter_count_exact_iff (hown : x.ownConstructor? d = some ps) (hlegal : ps.Legal)
    (ha : x.Describes d a) :
    (requiredParameters ps : Int) =
      max ((ps.positional.length : Int) - ps.defaults.length - min ps.positional.length 1 +
        Params.withoutDefault ps.kwOnly) 0 ∧
    a.constructors = [⟨requiredParameters ps, true⟩] ∧
    (requiredParameters ps = ps.needed ↔
      ¬(ps.StartsOptional ∧ 0 < Params.withoutDefault ps.kwOnly)) ∧
    ∀ {σ α : Type} (p : Provider σ) (limit : Nat) (identifier group : String) (s : σ)
      (function : String) (o : α),
      ((Rule.check p limit ⟨identifier, group, a⟩ .constructor).answer s = .ok () ↔
        ∃ b, (signatureOf function ps).bind [o] [] = .ok b) ↔
      ¬(ps.StartsOptional ∧ Params.withoutDefault ps.kwOnly = 1) ∧
        (ps.TakesInstance ∨ 0 < Params.withoutDefault ps.kwOnly) := by
  have hconstructors : a.constructors = [⟨requiredParameters ps, true⟩] := by
    rw [ha.constructors (Index.isSome_parts_of_ownConstructor? hown), Index.bound,
      Index.requiredFrom, hown]
  refine ⟨Params.requiredParameters_eq_max ps, hconstructors, hlegal.required_eq_needed_iff, ?_⟩
  intro σ α p limit identifier group s function o
  have haccepted : (Rule.check p limit ⟨identifier, group, a⟩ .constructor).answer s = .ok () ↔
      requiredParameters ps = 0 := by
    rw [check_constructor_iff, hconstructors]
    simp [Constructor.isDefault]
  rw [haccepted, hlegal.exists_bind_instance_iff]
  exact hlegal.required_eq_zero_iff

/-- A constructor without any parameter: nothing is counted, and the instance is one too many. -/
example : requiredParameters (.mk [] [] none [] none) = 0 ∧
    (signatureOf "Lid.__init__" (.mk [] [] none [] none)).bind [Object.value .none] [] =
      .error (.raised "TypeError"
        "Lid.__init__() takes 0 positional arguments but 1 was given") := by
  exact ⟨rfl, rfl⟩

/-! ### Pots and their constructors -/

def cupParams : Params :=
  .mk [.mk "self" none none] [.mk "size" none (some (.constant (.int 1)))]
    (some (.mk "more" none none)) [.mk "deep" none (some (.constant (.bool false)))]
    (some (.mk "others" none none))

/-- The instance has a default, the parameter by name has none. -/
def jugParams : Params :=
  .mk [] [.mk "self" none (some (.constant .none))] none [.mk "size" none none] none

/-- A class that has nothing but its constructor. -/
def potParts (line : Nat) (params : Params) : Source.ClassParts :=
  ⟨[], [], [.functionDef (line + 1) (line + 1) "__init__" params [] [.pass]]⟩

def potsModule : Source.Module :=
  let pot := fun line name params =>
    Source.Stmt.classDef line line name [] [] [] (potParts line params).body
  Source.Module.make "m" (Path.ofText "m.py") [pot 1 "Cup" cupParams, pot 3 "Jug" jugParams]

def potsIndex : Index :=
  (Index.make [potsModule] []).toOption.getD ⟨Ordered.empty, Ordered.empty, []⟩

theorem pots_source : ∀ m ∈ [potsModule], m.IsSource := by
  intro m hm
  obtain rfl := List.mem_singleton.1 hm
  refine ⟨⟨_, _, _, rfl⟩, rfl, ?_⟩
  decide

theorem pot_described {n name : String} {line : Nat}
    (hd : potsIndex.definitions.get? n = some ⟨"m", name, line, [], some (potParts line ps)⟩) :
    ∃ a, potsIndex.Describes ⟨"m", name, line, [], some (potParts line ps)⟩ a := by
  have hmake : Index.make [potsModule] [] = .ok potsIndex := rfl
  have hunmarked : potsIndex.marking? ⟨"m", name, line, [], some (potParts line ps)⟩ = .ok none :=
    rfl
  obtain ⟨a, -, ha⟩ := Index.described_of_definition hmake pots_source hd hunmarked (.inl rfl) []
  exact ⟨a, ha⟩

theorem cup_count_exact :
    Index.make [potsModule] [] = .ok potsIndex ∧ cupParams.Legal ∧
    ∃ d a, potsIndex.definitions.get? "m.Cup" = some d ∧
      potsIndex.ownConstructor? d = some cupParams ∧ potsIndex.Describes d a ∧
      requiredParameters cupParams = cupParams.needed ∧
      (Rule.check potsIndex.provider defaultDepth ⟨"cup", "m.Pot", a⟩ .constructor).answer
        Index.Memory.empty = .ok () ∧
      ∃ b, (signatureOf "Cup.__init__" cupParams).bind [Object.value .none] [] = .ok b := by
  have hlegal : cupParams.Legal :=
    ⟨by decide, by simp [cupParams, Params.positional, Param.default]⟩
  have hplain : ¬cupParams.StartsOptional := by
    rintro ⟨p, hp, hdefault⟩
    obtain rfl := Option.some.inj hp
    cases hdefault
  have htakes : cupParams.TakesInstance := .inl (by decide)
  have hd : potsIndex.definitions.get? "m.Cup" =
      some ⟨"m", "Cup", 1, [], some (potParts 1 cupParams)⟩ := rfl
  obtain ⟨a, ha⟩ := pot_described hd
  obtain ⟨-, -, hexact, hverdict⟩ := parameter_count_exact_iff rfl hlegal ha
  have hbinds : ∃ b, (signatureOf "Cup.__init__" cupParams).bind [Object.value .none] [] =
      .ok b := ⟨_, rfl⟩
  have haccepted := (hverdict potsIndex.provider defaultDepth "cup" "m.Pot" Index.Memory.empty
    "Cup.__init__" (Object.value .none)).2 ⟨fun h => hplain h.1, .inl htakes⟩
  exact ⟨rfl, hlegal, _, a, hd, rfl, ha, hexact.2 fun h => hplain h.1, haccepted.2 hbinds,
    hbinds⟩

/-- The jug needs its size, but is counted to need nothing and accepted, and the construction
without arguments fails. The count of running code is right. -/
theorem default_of_first_hides_name :
    Index.make [potsModule] [] = .ok potsIndex ∧ jugParams.Legal ∧
    requiredParameters jugParams = 0 ∧ jugParams.needed = 1 ∧
    requiredAfterFirst jugParams = some 1 ∧
    (∃ d a, potsIndex.definitions.get? "m.Jug" = some d ∧
      potsIndex.ownConstructor? d = some jugParams ∧ potsIndex.Describes d a ∧
      (Rule.check potsIndex.provider defaultDepth ⟨"jug", "m.Pot", a⟩ .constructor).answer
        Index.Memory.empty = .ok ()) ∧
    (signatureOf "Jug.__init__" jugParams).bind [Object.value .none] [] =
      .error (.raised "TypeError"
        "Jug.__init__() missing 1 required keyword-only argument: 'size'") := by
  have hlegal : jugParams.Legal := ⟨by decide, by simp [jugParams, Params.positional]⟩
  have hd : potsIndex.definitions.get? "m.Jug" =
      some ⟨"m", "Jug", 3, [], some (potParts 3 jugParams)⟩ := rfl
  obtain ⟨a, ha⟩ := pot_described hd
  refine ⟨rfl, hlegal, rfl, rfl, rfl, ⟨_, a, hd, rfl, ha, ?_⟩, by rfl⟩
  rw [check_constructor_iff, ha.constructors rfl]
  rfl

end Live

end Foundry
