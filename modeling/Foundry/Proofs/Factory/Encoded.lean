import Foundry.Proofs.Factory.SourceText
import Foundry.Proofs.Factory.Program

/-!
Generated texts as source files. A generated text opens with two comments that name no encoding, so
its bytes are read as UTF-8, behind a mark or without one. They lead back to the text when they are
UTF-8, or when each is that of a plain character.
-/

namespace Foundry.Factory

open Text Encoding

variable {codecs : Codecs} {e : Encoding} {cs ds : List Char} {bs rest : Bytes}
  {marked : Bool} {s : String}

/-! ### How generated texts open -/

/-- The header, and a line about a group whose name announces nothing. -/
def Opens (cs : List Char) : Prop :=
  ∃ name rest, cs = header.toList ++ '\n' :: ("# Group: ".toList ++ name ++ '\n' :: rest) ∧
    '\n' ∉ name ∧ ':' ∉ name ∧ '=' ∉ name

theorem exists_line (cs rest : List Char) :
    ∃ line more, cs ++ '\n' :: rest = line ++ '\n' :: more ∧ '\n' ∉ line ∧ line ⊆ cs := by
  induction cs with
  | nil => exact ⟨[], rest, rfl, List.not_mem_nil, List.Subset.refl _⟩
  | cons c cs ih =>
    by_cases hc : c = '\n'
    · subst hc
      exact ⟨[], cs ++ '\n' :: rest, rfl, List.not_mem_nil, List.nil_subset _⟩
    · obtain ⟨line, more, heq, hline, hsub⟩ := ih
      refine ⟨c :: line, more, by rw [List.cons_append, heq, List.cons_append], ?_,
        List.cons_subset_cons c hsub⟩
      rw [List.mem_cons, not_or]
      exact ⟨Ne.symm hc, hline⟩

theorem Opens.exists_cons (h : Opens cs) : ∃ ds, cs = '#' :: ' ' :: ds := by
  obtain ⟨name, rest, rfl, -⟩ := h
  exact ⟨_, rfl⟩

theorem opens_render {p : Plan} (runtimeModule : String) (hcolon : ':' ∉ p.group.text.toList)
    (hequals : '=' ∉ p.group.text.toList) : Opens (render runtimeModule p).toList := by
  obtain ⟨third, more, hlines⟩ : ∃ third more, lines runtimeModule p =
      header :: ("# Group: " ++ p.group.text) :: third :: more := ⟨_, _, lines_eq runtimeModule p⟩
  obtain ⟨name, rest, heq, hline, hsub⟩ :=
    exists_line p.group.text.toList (join "\n" (third :: more)).toList
  refine ⟨name, rest, ?_, hline, fun h => hcolon (hsub h), fun h => hequals (hsub h)⟩
  rw [render, hlines, join_cons_cons, join_cons_cons]
  simp only [String.toList_append, List.append_assoc]
  rw [← heq]
  rfl

/-! ### Encodings that keep plain characters -/

/-- Two encodings agree on texts when they agree on their lines. -/
theorem bytesOf_join {e' : Encoding} {text : String} {ps qs : List String}
    (htext : e.bytesOf text.toList = e'.bytesOf text.toList)
    (h : ps.map (fun p => e.bytesOf p.toList) = qs.map fun q => e'.bytesOf q.toList) :
    e.bytesOf (join text ps).toList = e'.bytesOf (join text qs).toList := by
  induction ps generalizing qs with
  | nil => rw [List.map_eq_nil_iff.1 h.symm]; rfl
  | cons p ps ih =>
    cases qs with
    | nil => cases h
    | cons q qs =>
      have hhead : e.bytesOf p.toList = e'.bytesOf q.toList := (List.cons.inj h).1
      have htail := (List.cons.inj h).2
      cases ps with
      | nil =>
        obtain rfl := List.map_eq_nil_iff.1 htail.symm
        exact hhead
      | cons p' ps =>
        cases qs with
        | nil => cases htail
        | cons q' qs =>
          have hrest := ih htail
          simp only [join_cons_cons, String.toList_append, bytesOf_append] at hrest ⊢
          rw [hhead, htext, hrest]

theorem oneByOne_bytesOf (he : e.KeepsAscii) (hall : ∀ c ∈ cs, (e.charBytes? c).isSome = true)
    (h : ∀ c ∈ cs, c.toNat < 128) : oneByOne (e.bytesOf cs) = cs := by
  rw [bytesOf_ascii he hall h, oneByOne, List.map_map]
  refine (List.map_congr_left fun c hc => ?_).trans (List.map_id cs)
  rw [Function.comp_apply, toNat_byte (Nat.lt_trans (h c hc) (by decide)), Char.ofNat_toNat]
  rfl

theorem notMem_oneByOne_bytesOf (he : e.KeepsAscii) {c : Char} (hc : c.toNat < 128)
    (h : c ∉ cs) : c ∉ oneByOne (e.bytesOf cs) := by
  intro hmem
  obtain ⟨b, hb, rfl⟩ := List.mem_map.1 hmem
  have hvalid : b.toNat.isValidChar := .inl (Nat.lt_trans b.toNat_lt (by decide))
  refine byte_notMem_bytesOf he hc h ?_
  rwa [toNat_ofNat hvalid, byte_eq rfl]

/-- The first two lines of the bytes are those of the first two lines of the text. -/
theorem Opens.lines (he : e.KeepsAscii) (hall : ∀ c ∈ cs, (e.charBytes? c).isSome = true)
    (h : Opens cs) : ∃ name, "# Group: ".toList ++ name ⊆ cs ∧ ':' ∉ name ∧ '=' ∉ name ∧
      firstLine (e.bytesOf cs) = e.bytesOf header.toList ∧
      firstLine (afterLine (e.bytesOf cs)) = e.bytesOf ("# Group: ".toList ++ name) := by
  obtain ⟨name, rest, rfl, hline, hcolon, hequals⟩ := h
  obtain ⟨own, hown⟩ := Option.isSome_iff_exists.1 (hall '\n' (by simp))
  have hnewline : (e.charBytes? '\n').getD [] = [10] := by
    rw [hown, Option.getD_some]
    exact (he _ _ hown).1 (by decide)
  have hfirst : 10 ∉ e.bytesOf header.toList :=
    byte_notMem_bytesOf (c := '\n') he (by decide) (by decide)
  have hsecond : 10 ∉ e.bytesOf ("# Group: ".toList ++ name) := by
    refine byte_notMem_bytesOf (c := '\n') he (by decide) ?_
    rw [List.mem_append, not_or]
    exact ⟨by decide, hline⟩
  refine ⟨name, fun c hc => ?_, hcolon, hequals, ?_⟩
  · exact List.mem_append_right _ (List.mem_cons_of_mem _ (List.mem_append_left _ hc))
  rw [bytesOf_append, bytesOf_cons, hnewline, bytesOf_append, bytesOf_cons, hnewline]
  simp only [List.singleton_append]
  rw [firstLine_append hfirst, afterLine_append hfirst, firstLine_append hsecond]
  exact ⟨rfl, rfl⟩

theorem Opens.decodeSource_eq (he : e.KeepsAscii)
    (hall : ∀ c ∈ cs, (e.charBytes? c).isSome = true) (h : Opens cs) :
    decodeSource codecs (e.bytesOf cs) = decodeBody codecs false (e.bytesOf cs) := by
  obtain ⟨ds, rfl⟩ := h.exists_cons
  obtain ⟨own, hown⟩ := Option.isSome_iff_exists.1 (hall '#' List.mem_cons_self)
  rw [bytesOf_cons, hown, Option.getD_some, (he _ _ hown).1 (by decide)]
  exact decodeSource_of_head (by decide) _

theorem Opens.silent (he : e.KeepsAscii) (hall : ∀ c ∈ cs, (e.charBytes? c).isSome = true)
    (h : Opens cs) : Silent (e.bytesOf cs) := by
  have hheader : header.toList ⊆ cs := by
    obtain ⟨name, rest, rfl, -⟩ := h
    exact fun c hc => List.mem_append_left _ hc
  obtain ⟨name, hsub, hcolon, hequals, hfirst, hsecond⟩ := h.lines he hall
  have hstart : oneByOne (e.bytesOf "# Group: ".toList) = "# Group: ".toList :=
    oneByOne_bytesOf he (fun c hc => hall c (hsub (List.mem_append_left _ hc)))
      (forall_mem_of_all (by decide))
  constructor
  · have hplain : ∀ c ∈ header.toList, c.toNat < 128 := forall_mem_of_all (by decide)
    rw [hfirst, oneByOne_bytesOf he (fun c hc => hall c (hheader hc)) hplain]
    decide
  · intro _
    have hgroup : "# Group: ".toList = '#' :: " Group: ".toList := by decide
    rw [hsecond, bytesOf_append, oneByOne_append, hstart, hgroup, List.cons_append,
      coding?_comment, announcement?_append (by decide)]
    exact announcement?_of_notMem (notMem_oneByOne_bytesOf he (by decide) hcolon)
      (notMem_oneByOne_bytesOf he (by decide) hequals)

/-- A text in UTF-8 is read back but for the endings of its lines. -/
theorem Opens.decodeBody_utf8 (h : Opens cs) (marked : Bool) :
    decodeBody codecs marked (bytesOf .utf8 cs) = some (String.ofList (unifyLineEnds cs)) :=
  (h.silent (keepsAscii_utf8 (e := .utf8) trivial) fun _ _ => rfl).decodeBody_iff.2 ⟨cs, rfl, rfl⟩

theorem Opens.decodeSource_utf8 (h : Opens cs) :
    decodeSource codecs (bytesOf .utf8 cs) = some (String.ofList (unifyLineEnds cs)) := by
  rw [h.decodeSource_eq (keepsAscii_utf8 (e := .utf8) trivial) fun _ _ => rfl,
    h.decodeBody_utf8]

theorem ofList_unifyLineEnds_iff :
    some (String.ofList (unifyLineEnds cs)) = some (String.ofList cs) ↔ '\r' ∉ cs := by
  rw [Option.some_inj, String.ofList_inj, unifyLineEnds_eq_self_iff]

/-- One byte for each character leads back to the text where all of them are plain. -/
theorem Opens.decodeSource_table (he : e.IsTable)
    (hall : ∀ c ∈ cs, (e.charBytes? c).isSome = true) (h : Opens cs) :
    decodeSource codecs (e.bytesOf cs) = some (String.ofList cs) ↔
      '\r' ∉ cs ∧ ∀ c ∈ cs, c.toNat < 128 := by
  have hkeeps := keepsAscii_table he
  have hutf8 : (∀ c ∈ cs, c.toNat < 128) → e.bytesOf cs = bytesOf .utf8 cs := fun hplain => by
    rw [bytesOf_ascii hkeeps hall hplain,
      bytesOf_ascii (keepsAscii_utf8 (e := .utf8) trivial) (fun _ _ => rfl) hplain]
  constructor
  · intro hread
    have hplain : ∀ c ∈ cs, c.toNat < 128 := by
      -- No byte makes two characters, and there are as many bytes as characters.
      rw [h.decodeSource_eq hkeeps hall] at hread
      obtain ⟨ds, hds, htext⟩ := (h.silent hkeeps hall).exists_of_decodeBody hread
      rw [String.ofList_inj] at htext
      obtain ⟨hle, heq⟩ := length_of_decodeUtf8 hds
      have hends := length_unifyLineEnds_le ds
      rw [← htext, ← length_bytesOf he hall] at hends
      exact lt_of_bytesOf he hall (heq (Nat.le_antisymm hle hends)).1
    rw [hutf8 hplain, h.decodeSource_utf8, ofList_unifyLineEnds_iff] at hread
    exact ⟨hread, hplain⟩
  · rintro ⟨hends, hplain⟩
    rw [hutf8 hplain, h.decodeSource_utf8, ofList_unifyLineEnds_iff]
    exact hends

/-! ### Encodings of two and four bytes -/

theorem decodeBody_of_error {x : CodecError}
    (h : Encoding.decodeChars .utf8 (firstLine bs) = .error x) :
    decodeBody codecs marked bs = none := by
  simp [decodeBody, sourceCodec?, lineCodec?, h]

/-- A text behind the mark of two or four bytes is refused. -/
theorem decodeSource_marked (bs : Bytes) : decodeSource codecs (0xFF :: bs) = none := by
  rw [decodeSource_of_head (by decide)]
  exact decodeBody_of_error rfl

/-- A zero byte in front becomes a character. -/
theorem decodeSource_zero (bs : Bytes) (h : decodeSource codecs (0 :: bs) = some s) :
    ∃ ds, s.toList = Char.ofNat 0 :: ds := by
  have hsilent : Silent (0 :: bs) := ⟨rfl, fun hbare => by cases hbare⟩
  rw [decodeSource_of_head (by decide)] at h
  obtain ⟨cs, hcs, rfl⟩ := hsilent.exists_of_decodeBody h
  obtain ⟨ds, -, rfl⟩ := exists_of_decodeUtf8_cons (by decide) hcs
  exact ⟨unifyLineEnds ds, by rw [unifyLineEnds_cons (by decide), String.toList_ofList]; rfl⟩

/-- A text whose characters start with their low bytes: the zero behind the first of them becomes a
character. -/
theorem Opens.decodeSource_little (he : e = .utf16 .little ∨ e = .utf32 .little)
    (h : Opens cs) : decodeSource codecs (e.bytesOf cs) ≠ some (String.ofList cs) := by
  have hheader : 10 ∉ e.bytesOf header.toList ∧
      coding? (oneByOne (e.bytesOf header.toList)) = none := by
    rcases he with rfl | rfl <;> decide
  have hnewline : ∃ more, (e.charBytes? '\n').getD [] = 10 :: 0 :: more := by
    rcases he with rfl | rfl <;> exact ⟨_, rfl⟩
  have hstart : ∃ more, e.bytesOf cs = 35 :: 0 :: more := by
    obtain ⟨ds, rfl⟩ := h.exists_cons
    rcases he with rfl | rfl <;> exact ⟨_, rfl⟩
  have hsilent : Silent (e.bytesOf cs) := by
    obtain ⟨more, hmore⟩ := hnewline
    obtain ⟨name, rest, rfl, -⟩ := h
    rw [bytesOf_append, bytesOf_cons, hmore, List.cons_append]
    refine ⟨?_, fun _ => ?_⟩
    · rw [firstLine_append hheader.1]
      exact hheader.2
    · rw [afterLine_append hheader.1]
      rfl
  intro hread
  obtain ⟨more, hmore⟩ := hstart
  rw [hmore, decodeSource_of_head (by decide), ← hmore] at hread
  obtain ⟨ds, hds, htext⟩ := hsilent.exists_of_decodeBody hread
  rw [hmore] at hds
  obtain ⟨ds, hds', rfl⟩ := exists_of_decodeUtf8_cons (by decide) hds
  obtain ⟨ds, -, rfl⟩ := exists_of_decodeUtf8_cons (by decide) hds'
  obtain ⟨cs, rfl⟩ := h.exists_cons
  rw [String.ofList_inj, unifyLineEnds_cons (by decide), unifyLineEnds_cons (by decide)] at htext
  exact absurd (List.cons.inj (List.cons.inj htext).2).1 (by decide)

/-- No encoding of two or four bytes leads back to the text. -/
theorem Opens.decodeSource_wide (hutf8 : ¬ e.IsUtf8) (htable : ¬ e.IsTable) (h : Opens cs) :
    decodeSource codecs (e.mark ++ e.bytesOf cs) ≠ some (String.ofList cs) := by
  obtain ⟨ds, hcs⟩ := h.exists_cons
  have hzero : ∀ rest, decodeSource codecs (0 :: rest) ≠ some (String.ofList cs) := by
    intro rest hread
    obtain ⟨more, hmore⟩ := decodeSource_zero rest hread
    rw [String.toList_ofList, hcs] at hmore
    exact absurd (List.cons.inj hmore).1 (by decide)
  have hmarked : ∀ rest, decodeSource codecs (0xFF :: rest) ≠ some (String.ofList cs) := by
    intro rest
    rw [decodeSource_marked]
    exact nofun
  cases e with
  | utf16Marked => exact hmarked _
  | utf32Marked => exact hmarked _
  | utf16 order =>
    cases order with
    | little => exact h.decodeSource_little (.inl rfl)
    | big => exact (congrArg (bytesOf (.utf16 .big)) hcs).symm ▸ hzero _
  | utf32 order =>
    cases order with
    | little => exact h.decodeSource_little (.inr rfl)
    | big => exact (congrArg (bytesOf (.utf32 .big)) hcs).symm ▸ hzero _
  | utf8 => exact absurd trivial hutf8
  | utf8Marked => exact absurd trivial hutf8
  | _ => exact absurd trivial htable

/-! ### Any encoding -/

theorem Opens.decodeSource_mark (he : e.IsUtf8) (h : Opens cs) :
    decodeSource codecs (e.mark ++ e.bytesOf cs) = some (String.ofList (unifyLineEnds cs)) := by
  cases e with
  | utf8 => exact h.decodeSource_utf8
  | utf8Marked => exact h.decodeBody_utf8 true
  | _ => exact he.elim

theorem mark_of_table (he : e.IsTable) : e.mark = [] ∧ ¬ e.IsUtf8 := by
  cases e with
  | ascii => exact ⟨rfl, id⟩
  | latin1 => exact ⟨rfl, id⟩
  | oneByte set => exact ⟨rfl, id⟩
  | _ => exact he.elim

/-- The bytes of a text that opens as generated ones do lead back to it exactly when they are UTF-8,
or one byte for each character and each of them plain, and no line of the text ends in a carriage
return. -/
theorem decodeSource_encode_iff (h : Opens s.toList) (hbs : e.encode s = .ok bs) :
    decodeSource codecs bs = some s ↔
      '\r' ∉ s.toList ∧ (e.IsUtf8 ∨ e.IsTable ∧ ∀ c ∈ s.toList, c.toNat < 128) := by
  obtain ⟨rfl, hall⟩ := encode_ok_iff.1 hbs
  have hs : some s = some (String.ofList s.toList) := by rw [String.ofList_toList]
  rw [hs]
  by_cases hutf8 : e.IsUtf8
  · rw [h.decodeSource_mark hutf8, ofList_unifyLineEnds_iff]
    exact ⟨fun hends => ⟨hends, .inl hutf8⟩, And.left⟩
  by_cases htable : e.IsTable
  · rw [(mark_of_table htable).1, List.nil_append, h.decodeSource_table htable hall]
    simp [hutf8, htable]
  · simp only [h.decodeSource_wide hutf8 htable, hutf8, htable, false_and, or_false, and_false]

/-! ### Any codec -/

/-- Whatever wrote it, a file that names no encoding leads back to a text exactly if its bytes,
behind a mark or without one, are UTF-8 for the text but for the endings of lines. -/
theorem Silent.decodeSource_iff (h : Silent (unmarked bs)) :
    decodeSource codecs bs = some s ↔
      ∃ cs, unmarked bs = bytesOf .utf8 cs ∧ unifyLineEnds cs = s.toList := by
  rw [decodeSource, h.decodeBody_iff]
  refine exists_congr fun cs => and_congr_right fun _ => ?_
  rw [← String.toList_inj, String.toList_ofList, eq_comm]

theorem Opens.decodeSource_iff (h : Opens s.toList)
    (hbs : unmarked bs = bytesOf .utf8 s.toList) :
    decodeSource codecs bs = some s ↔ '\r' ∉ s.toList := by
  rw [decodeSource, hbs, h.decodeBody_utf8, ← ofList_unifyLineEnds_iff, String.ofList_toList]

end Foundry.Factory
