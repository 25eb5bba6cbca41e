import Foundry.Factory.Generated
import Foundry.Proofs.Text.Quoting
import Foundry.Proofs.Text.Words

/-!
Fixed texts, names and quoted texts are read back from the front of a line.
-/

namespace Foundry.Factory

open Foundry.Text

/-! ### Fixed texts -/

theorem startsWithList_append (p cs : List Char) : startsWithList p (p ++ cs) = true := by
  induction p with
  | nil => rfl
  | cons c p ih => simp [startsWithList, ih]

theorem expect_append (text : String) (cs : List Char) :
    expect text (text.toList ++ cs) = some cs := by
  rw [expect, if_pos (startsWithList_append text.toList cs), ← String.length_toList, List.drop_left]

theorem expect_of_startsWithList {text : String} {cs : List Char}
    (h : startsWithList text.toList cs = false) : expect text cs = none := by
  rw [expect, if_neg (by rw [h]; decide)]

/-! ### Names -/

/-- No name goes on here. -/
def Ends (cs : List Char) : Prop :=
  ∀ c ∈ cs.head?, isIdentifierContinue c = false

theorem isGap_ascii {c : Char} (h : isGap c = true) : c = ' ' ∨ c = '\t' ∨ c = Char.ofNat 12 := by
  simpa [isGap, or_assoc] using h

theorem not_isGap_of_continue {c : Char} (h : isIdentifierContinue c = true) :
    isGap c = false := by
  refine Bool.eq_false_iff.2 fun hgap => ?_
  rcases isGap_ascii hgap with rfl | rfl | rfl
  · exact absurd h (by decide)
  · exact absurd h (by decide)
  · exact absurd h (by decide)

theorem dropWhile_isGap_of_name {s : String} (h : IsName s) (cs : List Char) :
    (s.toList ++ cs).dropWhile isGap = s.toList ++ cs := by
  obtain ⟨c, rest, hs, hc⟩ := h.exists_cons
  have hgap := not_isGap_of_continue (isIdentifierContinue_of_start hc)
  rw [hs, List.cons_append, List.dropWhile_cons, hgap]
  rfl

theorem takeWhile_name {s : String} (h : IsName s) {cs : List Char} (hcs : Ends cs) :
    (s.toList ++ cs).takeWhile isIdentifierContinue = s.toList := by
  rw [List.takeWhile_append_of_pos h.continues]
  cases cs with
  | nil => simp
  | cons c cs =>
    have hc : isIdentifierContinue c = false := hcs c rfl
    rw [List.takeWhile_cons, hc]
    simp

theorem readName_append {s : String} (h : IsName s) {cs : List Char} (hcs : Ends cs) :
    readName (s.toList ++ cs) = some (s, cs.dropWhile isGap) := by
  have hname : (isIdentifier s && !isKeyword s) = true := by
    rw [h.identifier, h.free]
    rfl
  unfold readName
  simp only [dropWhile_isGap_of_name h, takeWhile_name h hcs, String.ofList_toList, hname, if_true,
    List.drop_left]

theorem ends_of_cons {c : Char} (h : isIdentifierContinue c = false) (cs : List Char) :
    Ends (c :: cs) := by
  intro x hx
  obtain rfl : c = x := Option.some.inj hx
  exact h

theorem readPath_append {ps : List String} (hne : ps ≠ []) (hps : ∀ p ∈ ps, IsName p)
    {cs : List Char} (hcs : Ends cs) (hdot : ∀ c ∈ (cs.dropWhile isGap).head?, c ≠ '.')
    {fuel : Nat} (hfuel : ps.length ≤ fuel) :
    readPath fuel ((dotted ps).toList ++ cs) = some (ps, cs.dropWhile isGap) := by
  induction ps generalizing fuel with
  | nil => exact absurd rfl hne
  | cons p ps ih =>
    have hp : IsName p := hps p List.mem_cons_self
    cases fuel with
    | zero => exact absurd hfuel (by simp)
    | succ fuel =>
      cases ps with
      | nil =>
        have hread := readName_append hp hcs
        change readPath (fuel + 1) (p.toList ++ cs) = _
        rw [readPath, hread]
        cases hrest : cs.dropWhile isGap with
        | nil => rfl
        | cons c rest =>
          have hc : c ≠ '.' := hdot c (by rw [hrest]; rfl)
          simp [hc]
      | cons q ps =>
        have hread := readName_append hp (ends_of_cons (c := '.') (by decide)
          ((dotted (q :: ps)).toList ++ cs))
        have hrest := ih (List.cons_ne_nil q ps) (fun x hx => hps x (List.mem_cons_of_mem p hx))
          (Nat.le_of_succ_le_succ hfuel)
        have hgap : ('.' :: ((dotted (q :: ps)).toList ++ cs)).dropWhile isGap =
            '.' :: ((dotted (q :: ps)).toList ++ cs) := rfl
        have htext : (dotted (p :: q :: ps)).toList ++ cs =
            p.toList ++ '.' :: ((dotted (q :: ps)).toList ++ cs) := by
          rw [dotted_cons (List.cons_ne_nil q ps)]
          simp
        rw [htext, readPath, hread, hgap]
        simp [hrest]

theorem length_le_dotted {ps : List String} (hps : ∀ p ∈ ps, IsName p) :
    ps.length ≤ (dotted ps).toList.length := by
  induction ps with
  | nil => exact Nat.zero_le _
  | cons p ps ih =>
    have hrest := ih fun q hq => hps q (List.mem_cons_of_mem p hq)
    obtain ⟨c, cs, hp, -⟩ := (hps p List.mem_cons_self).exists_cons
    cases ps with
    | nil => simp [dotted, join, hp]
    | cons q ps =>
      rw [dotted_cons (List.cons_ne_nil q ps)]
      simp only [String.toList_append, List.length_append, hp, List.length_cons] at hrest ⊢
      omega

theorem readDotted_append {s : String} (h : IsPath s) {cs : List Char} (hcs : Ends cs)
    (hdot : ∀ c ∈ (cs.dropWhile isGap).head?, c ≠ '.') :
    readDotted (s.toList ++ cs) = some (segments s, cs.dropWhile isGap) := by
  have hlen := length_le_dotted h
  rw [dotted_segments] at hlen
  have hfuel : (segments s).length ≤ (s.toList ++ cs).length + 1 := by
    rw [List.length_append]
    omega
  have hread := readPath_append (segments_ne_nil s) h hcs hdot hfuel
  rwa [dotted_segments] at hread

/-! ### Items -/

theorem quoted_toList (s : String) :
    (quoted s).toList =
      quoteFor s.toList :: (s.toList.flatMap (quotedChar (quoteFor s.toList)) ++
        [quoteFor s.toList]) := by
  rw [quoted, String.toList_ofList, quotedList, List.cons_append]

theorem dropWhile_isGap_of_quoted (s : String) (cs : List Char) :
    ((quoted s).toList ++ cs).dropWhile isGap = (quoted s).toList ++ cs := by
  have hgap : isGap (quoteFor s.toList) = false := by
    rcases quoteFor_eq s.toList with h | h <;> rw [h] <;> decide
  rw [quoted_toList, List.cons_append, List.dropWhile_cons, hgap]
  rfl

theorem quoted_ne_bracket (s : String) (cs : List Char) : (quoted s).toList ++ cs ≠ [')'] := by
  intro h
  rw [quoted_toList, List.cons_append, List.cons.injEq] at h
  rcases quoteFor_eq s.toList with hq | hq <;> exact absurd (hq.symm.trans h.1) (by decide)

theorem readItems_last (fuel : Nat) (s : String) :
    readItems (fuel + 1) ((quoted s).toList ++ [')']) = some [s] := by
  rw [readItems, readQuoted_quoted]
  · rfl
  · exact quoted_ne_bracket s [')']

theorem readItems_comma (fuel : Nat) (s : String) (cs : List Char) :
    readItems (fuel + 1) ((quoted s).toList ++ ',' :: cs) =
      (readItems fuel (cs.dropWhile isGap)).map (s :: ·) := by
  rw [readItems, readQuoted_quoted]
  · simp only [Option.bind_eq_bind, Option.bind_some]
    cases readItems fuel (cs.dropWhile isGap) <;> rfl
  · exact quoted_ne_bracket s (',' :: cs)

theorem readItems_join (items : List String) (hne : items ≠ []) {fuel : Nat}
    (hfuel : items.length ≤ fuel) :
    readItems fuel ((join ", " (items.map quoted)).toList ++ [')']) = some items := by
  induction items generalizing fuel with
  | nil => exact absurd rfl hne
  | cons s items ih =>
    cases fuel with
    | zero => exact absurd hfuel (by simp)
    | succ fuel =>
      cases items with
      | nil => exact readItems_last fuel s
      | cons u items =>
        have hrest := ih (List.cons_ne_nil u items) (Nat.le_of_succ_le_succ hfuel)
        have htext : (join ", " ((s :: u :: items).map quoted)).toList ++ [')'] =
            (quoted s).toList ++
              ',' :: ' ' :: ((join ", " ((u :: items).map quoted)).toList ++ [')']) := by
          rw [List.map_cons, List.map_cons, join_cons_cons]
          simp
        have hgap : (' ' :: ((join ", " ((u :: items).map quoted)).toList ++ [')'])).dropWhile
            isGap = (join ", " ((u :: items).map quoted)).toList ++ [')'] := by
          rw [List.dropWhile_cons]
          simp only [show isGap ' ' = true by decide, if_true]
          cases items with
          | nil => exact dropWhile_isGap_of_quoted u [')']
          | cons v items =>
            rw [List.map_cons, List.map_cons, join_cons_cons, String.append_assoc,
              String.toList_append, List.append_assoc]
            exact dropWhile_isGap_of_quoted u _
        rw [htext, readItems_comma, hgap, hrest]
        rfl

theorem length_le_join (items : List String) :
    items.length ≤ (join ", " (items.map quoted)).toList.length := by
  induction items with
  | nil => exact Nat.zero_le _
  | cons s items ih =>
    cases items with
    | nil => simp [join, quoted_toList]
    | cons u items =>
      rw [List.map_cons, List.map_cons, join_cons_cons]
      simp only [String.toList_append, List.length_append, quoted_toList, List.length_cons,
        List.map_cons] at ih ⊢
      omega

theorem reprList_texts (items : List String) :
    Value.reprList (items.map .text) = .ok (items.map quoted) := by
  induction items with
  | nil => rfl
  | cons s items ih =>
    rw [List.map_cons, Value.reprList, ih]
    rfl

/-- The identifiers are written as the tuple they are. -/
theorem repr_tuple_texts (items : List String) :
    (Value.tuple (items.map .text)).repr = .ok (tupleText items) := by
  rw [Value.repr, reprList_texts]
  rfl

/-- A tuple of quoted texts is read back, from what follows its opening bracket. -/
theorem exists_tupleText (items : List String) :
    ∃ cs, (tupleText items).toList = '(' :: cs ∧ readItems (cs.length + 1) cs = some items := by
  unfold tupleText
  rcases items with _ | ⟨s, _ | ⟨u, items⟩⟩
  · exact ⟨[')'], rfl, rfl⟩
  · refine ⟨(quoted s).toList ++ [',', ')'], by simp [Value.tupled], ?_⟩
    rw [readItems_comma, quoted_toList]
    rfl
  · refine ⟨(join ", " ((s :: u :: items).map quoted)).toList ++ [')'], by simp [Value.tupled], ?_⟩
    have hlen := length_le_join (s :: u :: items)
    refine readItems_join _ (List.cons_ne_nil _ _) ?_
    rw [List.length_append]
    omega

end Foundry.Factory
