import Foundry.Proofs.Text.Snake

/-!
Snake case position by position. The two cuts of a name work from left to right and pass over what
they have matched; together they put an underscore exactly where a character, its neighbour and the
one behind it ask for one. A boundary that the first cut misses, because its left side was passed
over with the word before, has a small letter there, and the second cut finds it.
-/

namespace Foundry.Name

open Text

/-! ### Boundaries -/

/-- A word begins behind a position: with a capital that a small letter follows, or that comes after
a small letter or a digit. -/
def isBoundary (cs : List Char) (i : Nat) : Bool :=
  cs[i + 1]?.any Char.isUpper &&
    (cs[i + 2]?.any Char.isLower || cs[i]?.any fun c => c.isLower || c.isDigit)

/-- An underscore at every boundary. -/
def underscored (cs : List Char) : List Char :=
  cs.zipIdx.flatMap fun e => if isBoundary cs e.2 then [e.1, '_'] else [e.1]

/-- A character, and the underscore behind it where there is one. -/
def closed (c : Char) (boundary : Bool) : List Char :=
  if boundary then [c, '_'] else [c]

theorem isBoundary_cons (c : Char) (cs : List Char) :
    isBoundary (c :: cs) 0 =
      (cs.head?.any Char.isUpper && (cs[1]?.any Char.isLower || (c.isLower || c.isDigit))) := by
  simp [isBoundary, List.head?_eq_getElem?]

theorem underscored_cons (c : Char) (cs : List Char) :
    underscored (c :: cs) = closed c (isBoundary (c :: cs) 0) ++ underscored cs := by
  have hsucc : ∀ i, isBoundary (c :: cs) (i + 1) = isBoundary cs i := fun _ => rfl
  simp only [underscored, List.zipIdx_cons', List.flatMap_cons, List.flatMap_map, Prod.map, id,
    hsucc]
  rfl

/-! ### The cuts -/

theorem not_lower_of_upper {u : Char} (hu : u.isUpper = true) :
    u.isLower = false ∧ u.isDigit = false := by
  have hstart : isWordStart u = true := by
    change (u.isUpper || u.isLower || u == '_') = true
    rw [hu, Bool.true_or, Bool.true_or]
  refine forall_ascii (P := fun u => u.isUpper = true → u.isLower = false ∧ u.isDigit = false) ?_
    (isWordStart_lt hstart) hu
  decide

theorem splitCapitals_of_upper {u : Char} (hu : u.isUpper = true) (cs : List Char) :
    splitCapitals (u :: cs) = u :: splitCapitals cs := by
  obtain ⟨hlower, hdigit⟩ := not_lower_of_upper hu
  cases cs with
  | nil => rfl
  | cons v cs => simp [splitCapitals, hlower, hdigit]

/-- The second cut looks at neighbours only: what it passes over begins with a capital, behind which
it puts nothing. -/
theorem splitCapitals_cons (c : Char) (cs : List Char) :
    splitCapitals (c :: cs) =
      closed c (cs.head?.any Char.isUpper && (c.isLower || c.isDigit)) ++ splitCapitals cs := by
  cases cs with
  | nil => rfl
  | cons u cs =>
    have hhead : (u :: cs).head?.any Char.isUpper = u.isUpper := rfl
    rw [splitCapitals, hhead, Bool.and_comm]
    cases h : u.isUpper && (c.isLower || c.isDigit) with
    | true =>
      have hu := (Bool.and_eq_true_iff.1 h).1
      rw [if_pos rfl, splitCapitals_of_upper hu]
      rfl
    | false => rw [if_neg (by decide)]; rfl

/-- Where the first cut puts nothing behind a character, the second one decides alone. -/
theorem splitCapitals_kept {c : Char} {cs rest : List Char} (hhead : cs.head? = rest.head?)
    (hcs : splitCapitals cs = underscored rest)
    (hfirst : rest.head?.any Char.isUpper = true → rest[1]?.any Char.isLower = true →
      (c.isLower || c.isDigit) = true) : splitCapitals (c :: cs) = underscored (c :: rest) := by
  rw [splitCapitals_cons, underscored_cons, isBoundary_cons, hhead, hcs]
  congr 2
  revert hfirst
  cases rest.head?.any Char.isUpper <;> cases rest[1]?.any Char.isLower <;> simp

/-- The small letters of a word that the first cut has passed over. -/
theorem splitCapitals_word {word cs rest : List Char} (hword : ∀ c ∈ word, c.isLower = true)
    (hhead : cs.head? = rest.head?) (hcs : splitCapitals cs = underscored rest) :
    splitCapitals (word ++ cs) = underscored (word ++ rest) := by
  induction word with
  | nil => exact hcs
  | cons c word ih =>
    obtain ⟨hc, hword⟩ := List.forall_mem_cons.1 hword
    have hnext : (word ++ cs).head? = (word ++ rest).head? := by
      rw [List.head?_append, List.head?_append, hhead]
    exact splitCapitals_kept hnext (ih hword) fun _ _ => by rw [hc, Bool.true_or]

/-- Both cuts together put an underscore at every boundary and nowhere else. -/
theorem splitCapitals_splitWords {n : Nat} {cs : List Char} (hn : cs.length ≤ n)
    (hline : '\n' ∉ cs) : splitCapitals (splitWords n cs) = underscored cs := by
  fun_induction splitWords n cs with
  | case1 cs =>
    obtain rfl := List.eq_nil_of_length_eq_zero (Nat.le_zero.1 hn)
    rfl
  | case2 n => rfl
  | case3 n c u v rest hwords word ih =>
    obtain ⟨-, hu, hv⟩ := hwords
    have hcut : word ++ (v :: rest).drop word.length = v :: rest :=
      List.prefix_iff_eq_append.1 (List.takeWhile_prefix Char.isLower)
    have hlength : ((v :: rest).drop word.length).length ≤ n := by
      simp only [List.length_drop, List.length_cons] at hn ⊢
      omega
    have hfree : '\n' ∉ (v :: rest).drop word.length := fun hmem =>
      hline (List.mem_cons_of_mem _ (List.mem_cons_of_mem _ (List.drop_subset _ _ hmem)))
    have hword : ∀ x ∈ word, x.isLower = true := List.all_eq_true.1 List.all_takeWhile
    have hrest := splitCapitals_word hword (head?_splitWords n _) (ih hlength hfree)
    rw [hcut] at hrest
    obtain ⟨hlower, hdigit⟩ := not_lower_of_upper hu
    have hv' : v.isUpper = false := by
      rw [Bool.eq_false_iff]
      intro h
      rw [(not_lower_of_upper h).1] at hv
      cases hv
    have hbefore : isBoundary (c :: u :: v :: rest) 0 = true := by simp [isBoundary, hu, hv]
    have hbehind : isBoundary (u :: v :: rest) 0 = false := by simp [isBoundary, hv']
    rw [underscored_cons, underscored_cons, hbefore, hbehind, ← hrest, List.cons_append,
      List.cons_append, List.cons_append, splitCapitals_cons, splitCapitals_cons,
      splitCapitals_of_upper hu]
    simp [closed]
  | case4 n c u v rest hwords ih =>
    rw [List.mem_cons, not_or] at hline
    refine splitCapitals_kept (head?_splitWords n _) (ih (Nat.le_of_succ_le_succ hn) hline.2) ?_
    exact fun hu hv => absurd ⟨Ne.symm hline.1, hu, hv⟩ hwords
  | case5 n c cs hshort ih =>
    rw [List.mem_cons, not_or] at hline
    refine splitCapitals_kept (head?_splitWords n _) (ih (Nat.le_of_succ_le_succ hn) hline.2) ?_
    intro _ hv
    rcases cs with _ | ⟨u, _ | ⟨v, rest⟩⟩
    · cases hv
    · cases hv
    · exact absurd rfl (hshort u v rest)

/-! ### Words -/

theorem toLower_underscore : '_'.toLower = '_' := by decide

theorem filter_underscored (cs : List Char) :
    ((underscored cs).map Char.toLower).filter (· ≠ '_') =
      (cs.map Char.toLower).filter (· ≠ '_') := by
  induction cs with
  | nil => rfl
  | cons c cs ih =>
    have hclosed : ∀ b, ((closed c b).map Char.toLower).filter (· ≠ '_') =
        [c.toLower].filter (· ≠ '_') := by
      intro b
      cases b
      · rfl
      · simp [closed, List.filter_cons, toLower_underscore]
    rw [underscored_cons, List.map_append, List.filter_append, ih, hclosed, ← List.filter_append]
    rfl

theorem lower_of_isWord {s : String} (h : isWord s.toList = true) :
    (lower s).toList = s.toList.map Char.toLower := by
  rw [lower, String.toList_ofList]
  exact lowerFrom_ascii (fun c hc => isWordPart_lt ((isWord_iff.1 h).2 c hc)) []

/-- The snake case of a plain word is its lower case with an underscore at every boundary. It is a
plain word without capitals, it differs from the lower case by underscores only, and it is its own
snake case. -/
theorem snake_underscores {s : String} (h : isWord s.toList = true) :
    snake s = lower (String.ofList (underscored s.toList)) ∧
    IsSmall (snake s) ∧
    (snake s).toList.filter (· ≠ '_') = (lower s).toList.filter (· ≠ '_') ∧
    snake (snake s) = snake s := by
  have hline : '\n' ∉ s.toList := fun hmem => absurd ((isWord_iff.1 h).2 '\n' hmem) (by decide)
  have hcuts := splitCapitals_splitWords (Nat.le_succ s.toList.length) hline
  refine ⟨?_, isSmall_snake h, ?_, snake_of_isSmall (isSmall_snake h)⟩
  · rw [snake, ← hcuts]
  · rw [snake_toList h, lower_of_isWord h, hcuts, filter_underscored]

/-- Capitals in a row, a digit in front of one, and an underscore that is there already. -/
theorem snake_underscores_client :
    isWord "HTTP2Client_forXML".toList = true ∧
    underscored "HTTP2Client_forXML".toList = "HTTP2_Client_for_XML".toList ∧
    snake "HTTP2Client_forXML" = "http2_client_for_xml" := by
  have hword : isWord "HTTP2Client_forXML".toList = true := by decide
  have hsplit : underscored "HTTP2Client_forXML".toList = "HTTP2_Client_for_XML".toList := by decide
  refine ⟨hword, hsplit, (snake_underscores hword).1.trans ?_⟩
  rw [hsplit]
  decide

end Foundry.Name
