import Foundry.Proofs.Validation.Ancestry

/-!
A walk that finds the group climbed a chain to it; a walk that does not leaves nothing open but
names met at the limit.
-/

namespace Foundry

variable {known : String → Option Declaration} {own group : String}

/-! ### The chain that was found -/

theorem walkEach_error {step : String → Trace → Except Trace Trace} {ns : List String}
    {t t' : Trace} (hgrows : ∀ n t, Grows t (lastTrace (step n t)))
    (h : walkEach step ns t = .error t') :
    ∃ n ∈ ns, ∃ u, Grows t u ∧ step n u = .error t' := by
  induction ns generalizing t with
  | nil => cases h
  | cons n ns ih =>
    rw [walkEach] at h
    have hg := hgrows n t
    cases hw : step n t with
    | error u =>
      rw [hw] at h
      cases h
      exact ⟨n, List.mem_cons_self, t, Grows.refl t, hw⟩
    | ok u =>
      rw [hw] at h hg
      obtain ⟨m, hm, v, hv, hstep⟩ := ih h
      exact ⟨m, List.mem_cons_of_mem n hm, v, hg.trans hv, hstep⟩

/-- A chain found with some room left: its names, the last two apart, were met above the limit. -/
structure Found (known : String → Option Declaration) (own group : String) (room : Nat)
    (n : String) (t : Trace) (names : List String) : Prop where
  head : names.head? = some n
  climbs : Climbs known own group names
  length : names.length ≤ room + 1
  above : ∀ x ∈ names.dropLast.dropLast, ∃ k, (x, k + 1) ∈ t.met

theorem found_here (room : Nat) (t : Trace) : Found known own group room group t [group] :=
  ⟨rfl, rfl, by simp, by simp⟩

theorem Found.extend {room : Nat} {n m : String} {t : Trace} {names : List String}
    {d : Declaration} (h : Found known own group room m t names) (hn : n ≠ own)
    (hd : known n = some d) (hm : m ∈ d.superclasses) (hmet : (n, room) ∈ t.met) :
    Found known own group (room + 1) n t (n :: names) := by
  obtain ⟨rest, rfl⟩ := List.head?_eq_some_iff.1 h.head
  refine ⟨rfl, ⟨hn, ⟨d, hd, hm⟩, h.climbs⟩, Nat.succ_le_succ h.length, ?_⟩
  intro x hx
  cases rest with
  | nil => cases hx
  | cons y rest =>
    have hlen : 2 ≤ room + 1 := Nat.le_trans (Nat.le_add_left 2 rest.length) h.length
    rcases List.mem_cons.1 hx with rfl | hx
    · exact ⟨room - 1, by rwa [Nat.sub_add_cancel (by omega)]⟩
    · exact h.above x hx

theorem walkFrom_found {room : Nat} {path : List String} {n : String} {t t' : Trace}
    (hown : own ∈ path) (h : walkFrom known group room path n t = .error t') :
    ∃ names, Found known own group room n t' names := by
  induction room generalizing path n t with
  | zero =>
    rw [walkFrom] at h
    split at h
    · rename_i hn
      exact ⟨[group], hn ▸ found_here 0 t'⟩
    · cases h
  | succ room ih =>
    rw [walkFrom] at h
    split at h
    · rename_i hn
      exact ⟨[group], hn ▸ found_here (room + 1) t'⟩
    · split at h
      · cases h
      · rename_i hpath
        split at h
        · cases h
        · split at h
          · cases h
          · rename_i d hd
            -- Some base led to the group; its chain becomes one of `n`, which was met before it.
            obtain ⟨m, hm, u, hu, hstep⟩ := walkEach_error (walkFrom_grows known group room (n :: path)) h
            obtain ⟨names, hf⟩ := ih (List.mem_cons_of_mem n hown) hstep
            have hgrows : Grows u t' := by
              simpa [hstep, lastTrace] using walkFrom_grows known group room (n :: path) m u
            have hmet : (n, room) ∈ t'.met :=
              (hu.met.trans hgrows.met).subset List.mem_cons_self
            exact ⟨n :: names, hf.extend (fun he => hpath (he ▸ hown)) hd hm hmet⟩

/-! ### What a walk leaves open -/

/-- A name that the walk has dealt with: it was met, or it is the class itself, or the walk was cut
short for lack of room. -/
structure Settled (own group : String) (t : Trace) (room : Nat) (n : String) : Prop where
  ne : n ≠ group
  seen : (room = 0 ∧ t.truncated = true) ∨ n = own ∨ n ∈ t.names

/-- All bases of a name that was met are settled. -/
def Done (known : String → Option Declaration) (own group : String) (t : Trace)
    (e : String × Nat) : Prop :=
  ∀ d, known e.1 = some d → ∀ m ∈ d.superclasses, Settled own group t e.2 m

theorem Settled.mono {t t' : Trace} {room : Nat} {n : String} (h : Settled own group t room n)
    (hg : Grows t t') : Settled own group t' room n := by
  refine ⟨h.ne, ?_⟩
  rcases h.seen with ⟨hr, ht⟩ | hn | hn
  · exact .inl ⟨hr, hg.truncated ht⟩
  · exact .inr (.inl hn)
  · exact .inr (.inr (hg.names hn))

theorem Done.mono {t t' : Trace} {e : String × Nat} (h : Done known own group t e)
    (hg : Grows t t') : Done known own group t' e :=
  fun d hd m hm => (h d hd m hm).mono hg

/-- What a walk that goes on has added to a trace. -/
structure Closed (known : String → Option Declaration) (own group : String) (t t' : Trace) :
    Prop where
  grows : Grows t t'
  done : ∀ e ∈ t'.met, e ∈ t.met ∨ Done known own group t' e

theorem Closed.refl (t : Trace) : Closed known own group t t :=
  ⟨Grows.refl t, fun _ he => .inl he⟩

theorem Closed.trans {t₁ t₂ t₃ : Trace} (h : Closed known own group t₁ t₂)
    (h' : Closed known own group t₂ t₃) : Closed known own group t₁ t₃ := by
  refine ⟨h.grows.trans h'.grows, fun e he => ?_⟩
  rcases h'.done e he with he | hd
  · exact (h.done e he).imp id fun hd => hd.mono h'.grows
  · exact .inr hd

/-- Every name on the path is the class itself or was met. -/
def OnTrace (own : String) (path : List String) (t : Trace) : Prop :=
  ∀ x ∈ path, x = own ∨ x ∈ t.names

theorem OnTrace.mono {path : List String} {t t' : Trace} (h : OnTrace own path t)
    (hg : Grows t t') : OnTrace own path t' :=
  fun x hx => (h x hx).imp id hg.names

theorem walkEach_closed {step : String → Trace → Except Trace Trace} {room : Nat}
    {path : List String}
    (hstep : ∀ n t t', OnTrace own path t → step n t = .ok t' →
      Closed known own group t t' ∧ Settled own group t' room n)
    {ns : List String} {t t' : Trace} (ht : OnTrace own path t)
    (h : walkEach step ns t = .ok t') :
    Closed known own group t t' ∧ ∀ n ∈ ns, Settled own group t' room n := by
  induction ns generalizing t with
  | nil =>
    cases h
    exact ⟨Closed.refl _, fun _ hn => absurd hn List.not_mem_nil⟩
  | cons n ns ih =>
    rw [walkEach] at h
    cases hw : step n t with
    | error u =>
      rw [hw] at h
      cases h
    | ok u =>
      rw [hw] at h
      obtain ⟨hclosed, hsettled⟩ := hstep n t u ht hw
      obtain ⟨hrest, hall⟩ := ih (ht.mono hclosed.grows) h
      refine ⟨hclosed.trans hrest, fun m hm => ?_⟩
      rcases List.mem_cons.1 hm with rfl | hm
      · exact hsettled.mono hrest.grows
      · exact hall m hm

theorem walkFrom_closed {room : Nat} {path : List String} {n : String} {t t' : Trace}
    (ht : OnTrace own path t) (h : walkFrom known group room path n t = .ok t') :
    Closed known own group t t' ∧ Settled own group t' room n := by
  induction room generalizing path n t t' with
  | zero =>
    rw [walkFrom] at h
    split at h
    · cases h
    · rename_i hn
      cases h
      exact ⟨⟨grows_cut t, fun _ he => .inl he⟩, hn, .inl ⟨rfl, rfl⟩⟩
  | succ room ih =>
    rw [walkFrom] at h
    split at h
    · cases h
    · rename_i hn
      split at h
      · rename_i hpath
        cases h
        exact ⟨⟨grows_cut t, fun _ he => .inl he⟩, hn, .inr (ht n hpath)⟩
      · split at h
        · rename_i hnames
          cases h
          exact ⟨Closed.refl t, hn, .inr (.inr hnames)⟩
        · have hmet : n ∈ (t.meet n room).names := List.mem_cons_self
          split at h
          · rename_i hnone
            cases h
            refine ⟨⟨grows_meet t n room, fun e he => ?_⟩, hn, .inr (.inr hmet)⟩
            rcases List.mem_cons.1 he with rfl | he
            · exact .inr fun d hd => absurd (hnone.symm.trans hd) (by simp)
            · exact .inl he
          · rename_i d hd
            -- Climbing from `n` settles its bases; a way back to `n` itself is on the trace by now.
            have ht' : OnTrace own (n :: path) (t.meet n room) := by
              intro x hx
              rcases List.mem_cons.1 hx with rfl | hx
              · exact .inr hmet
              · exact ht.mono (grows_meet t n room) x hx
            obtain ⟨hclosed, hall⟩ := walkEach_closed (fun m u u' hu hw => ih hu hw) ht' h
            refine ⟨⟨(grows_meet t n room).trans hclosed.grows, fun e he => ?_⟩, hn,
              .inr (.inr (hclosed.grows.names hmet))⟩
            rcases hclosed.done e he with he | hdone
            · rcases List.mem_cons.1 he with rfl | he
              · exact .inr fun d' hd' m hm => hall m (by
                  obtain rfl : d = d' := Option.some.inj (hd.symm.trans hd')
                  exact hm)
              · exact .inl he
            · exact .inr hdone

/-! ### Whole walks -/

theorem walk_found {d : Declaration} {limit : Nat} {t : Trace}
    (h : walk known group limit d = .error t) :
    ∃ names, Ancestry known d group names ∧ names.length ≤ limit + 1 ∧
      ∀ x ∈ names.dropLast.dropLast, ∃ k, (x, k + 1) ∈ t.met := by
  obtain ⟨n, hn, u, -, hstep⟩ := walkEach_error (walkFrom_grows known group limit [d.qualifiedName]) h
  obtain ⟨names, hf⟩ := walkFrom_found List.mem_cons_self hstep
  exact ⟨names, ⟨⟨n, hn, hf.head⟩, hf.climbs⟩, hf.length, hf.above⟩

theorem walk_closed {d : Declaration} {limit : Nat} {t : Trace}
    (h : walk known group limit d = .ok t) :
    (∀ e ∈ t.met, Done known d.qualifiedName group t e) ∧
      ∀ n ∈ d.superclasses, Settled d.qualifiedName group t limit n := by
  have hstart : OnTrace d.qualifiedName [d.qualifiedName] Trace.start :=
    fun x hx => .inl (List.mem_singleton.1 hx)
  obtain ⟨hclosed, hall⟩ := walkEach_closed (fun n t t' ht hw => walkFrom_closed ht hw) hstart h
  exact ⟨fun e he => (hclosed.done e he).resolve_left List.not_mem_nil, hall⟩

/-- Everything directly above a name was met, or is the class itself. -/
def Explored (known : String → Option Declaration) (own : String) (t : Trace) (n : String) : Prop :=
  ∀ d, known n = some d → ∀ m ∈ d.superclasses, m = own ∨ m ∈ t.names

/-- No chain gets past names that were met and explored. -/
theorem climbs_absurd {t : Trace} (hdone : ∀ e ∈ t.met, Done known own group t e)
    {names : List String} {n : String} (hhead : names.head? = some n)
    (hclimbs : Climbs known own group names) (hne : n ≠ group)
    (hseen : 2 ≤ names.length → n = own ∨ n ∈ t.names)
    (hopen : ∀ x ∈ names.dropLast.dropLast, x ∈ t.names → Explored known own t x) : False := by
  induction names generalizing n with
  | nil => exact hclimbs
  | cons a rest ih =>
    obtain rfl : a = n := Option.some.inj hhead
    cases rest with
    | nil => exact hne hclimbs
    | cons m rest =>
      obtain ⟨hown, ⟨d, hd, hm⟩, hrest⟩ := hclimbs
      have hmet : a ∈ t.names := (hseen (Nat.le_add_left 2 rest.length)).resolve_left hown
      obtain ⟨e, he, rfl⟩ := List.mem_map.1 hmet
      -- The next name is no dead end: it is the group, or it was met because this one was explored.
      refine ih rfl hrest (hdone e he d hd m hm).ne ?_ ?_
      · intro hlen
        cases rest with
        | nil => simp at hlen
        | cons y rest => exact hopen e.1 List.mem_cons_self hmet d hd m hm
      · intro x hx
        cases rest with
        | nil => cases hx
        | cons y rest => exact hopen x (List.mem_cons_of_mem _ hx)

theorem walk_complete {d : Declaration} {limit : Nat} {t : Trace} {names : List String}
    (h : walk known group limit d = .ok t)
    (hbases : ∀ n ∈ d.superclasses, n = d.qualifiedName ∨ n ∈ t.names)
    (hopen : ∀ x ∈ names.dropLast.dropLast, x ∈ t.names → Explored known d.qualifiedName t x) :
    ¬Ancestry known d group names := by
  rintro ⟨⟨n, hn, hhead⟩, hclimbs⟩
  obtain ⟨hdone, hsettled⟩ := walk_closed h
  exact climbs_absurd hdone hhead hclimbs (hsettled n hn).ne (fun _ => hbases n hn) hopen

theorem walk_sound (known : String → Option Declaration) (group : String) (limit : Nat)
    (d : Declaration) :
    Sound d.qualifiedName (lastTrace (walk known group limit d)) := by
  have h := walkEach_invariant (P := Sound d.qualifiedName) (C := fun _ _ => True)
    (walkFrom known group limit [d.qualifiedName]) (fun _ _ _ h _ => h)
    (fun n t _ ht => ⟨walkFrom_sound List.mem_cons_self ht, walkFrom_grows _ _ limit _ n t⟩)
    d.superclasses Trace.start (fun _ _ => trivial) (sound_start _)
  exact h.1

end Foundry
