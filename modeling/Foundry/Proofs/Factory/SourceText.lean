import Foundry.Factory.Generated
import Foundry.FileTree
import Foundry.Proofs.Text.Bytes
import Foundry.Proofs.Text.Splitting
import Foundry.Text.Codec

/-!
Files as source texts. The bytes of a file are UTF-8, unless a byte order mark or a comment in one
of the first two lines says otherwise, and every ending of a line becomes a line feed.
-/

namespace Foundry.Factory

open Text Encoding

variable {codecs : Codecs} {cs ds : List Char} {bs line rest : Bytes} {marked : Bool}

/-! ### Endings of lines -/

theorem unifyLineEnds_cons {c : Char} (h : c ≠ '\r') (cs : List Char) :
    unifyLineEnds (c :: cs) = c :: unifyLineEnds cs := by
  rw [unifyLineEnds]
  · rintro ds rfl
    exact fun _ => h rfl
  · exact h

theorem carriage_notMem_unifyLineEnds (cs : List Char) : '\r' ∉ unifyLineEnds cs := by
  fun_induction unifyLineEnds cs with
  | case1 => exact List.not_mem_nil
  | case2 cs ih => simpa using ih
  | case3 cs _ ih => simpa using ih
  | case4 c cs _ hc ih =>
    rw [List.mem_cons, not_or]
    exact ⟨fun h => hc h.symm, ih⟩

theorem length_unifyLineEnds_le (cs : List Char) : (unifyLineEnds cs).length ≤ cs.length := by
  fun_induction unifyLineEnds cs with
  | case1 => exact Nat.le_refl 0
  | case2 cs ih => exact Nat.succ_le_succ (Nat.le_succ_of_le ih)
  | case3 cs _ ih => exact Nat.succ_le_succ ih
  | case4 c cs _ hc ih => exact Nat.succ_le_succ ih

theorem unifyLineEnds_eq_self_iff : unifyLineEnds cs = cs ↔ '\r' ∉ cs := by
  refine ⟨fun h => h ▸ carriage_notMem_unifyLineEnds cs, fun h => ?_⟩
  induction cs with
  | nil => rfl
  | cons c cs ih =>
    rw [List.mem_cons, not_or] at h
    rw [unifyLineEnds_cons (Ne.symm h.1), ih h.2]

/-! ### Lines of bytes -/

def firstLine (bs : Bytes) : Bytes :=
  bs.takeWhile (· != 10)

/-- What stands behind the first line. -/
def afterLine (bs : Bytes) : Bytes :=
  (bs.dropWhile (· != 10)).drop 1

theorem ne_of_mem_line (h : 10 ∉ line) : ∀ b ∈ line, (b != 10) = true :=
  fun _ hb => bne_iff_ne.2 (ne_of_mem_of_not_mem hb h)

theorem firstLine_append (h : 10 ∉ line) (rest : Bytes) :
    firstLine (line ++ 10 :: rest) = line := by
  rw [firstLine, List.takeWhile_append_of_pos (ne_of_mem_line h),
    List.takeWhile_cons_of_neg (by decide), List.append_nil]

theorem afterLine_append (h : 10 ∉ line) (rest : Bytes) :
    afterLine (line ++ 10 :: rest) = rest := by
  rw [afterLine, List.dropWhile_append_of_pos (ne_of_mem_line h),
    List.dropWhile_cons_of_neg (by decide)]
  rfl

theorem firstLine_of_notMem (h : 10 ∉ line) : firstLine line = line := by
  have hline : firstLine (line ++ []) = line ++ List.takeWhile _ [] :=
    List.takeWhile_append_of_pos (ne_of_mem_line h)
  rwa [List.takeWhile_nil, List.append_nil] at hline

theorem afterLine_of_notMem (h : 10 ∉ line) : afterLine line = [] := by
  have hline : (line ++ []).dropWhile (· != 10) = [] :=
    List.dropWhile_append_of_pos (ne_of_mem_line h)
  rw [List.append_nil] at hline
  rw [afterLine, hline]
  rfl

/-! ### Comments that name an encoding -/

/-- Bytes as characters one by one, whatever the encoding. -/
def oneByOne (bs : Bytes) : List Char :=
  bs.map fun b => Char.ofNat b.toNat

def isNamePart (c : Char) : Bool :=
  isWordPart c || c == '-' || c == '.'

/-- The name of an encoding, where its announcement starts right here. -/
def announced? (cs : List Char) : Option String :=
  if startsWithList "coding:".toList cs || startsWithList "coding=".toList cs then
    let name := ((cs.drop 7).dropWhile fun c => c == ' ' || c == '\t').takeWhile isNamePart
    if name.isEmpty then none else some (String.ofList name)
  else none

/-- The first announcement in a text. -/
def announcement? : List Char → Option String
  | [] => none
  | c :: cs => (announced? (c :: cs)).or (announcement? cs)

/-- The name of the encoding in a line that is a comment. -/
def coding? (cs : List Char) : Option String :=
  match cs.dropWhile isGap with
  | '#' :: comment => announcement? comment
  | _ => none

/-- A line with at most a comment. -/
def isBare (cs : List Char) : Bool :=
  match cs.dropWhile isGap with
  | [] => true
  | c :: _ => c == '#' || c == '\r'

/-- Common spellings of two encodings are made one. -/
def usualName (name : String) : String :=
  let short := String.ofList ((name.toList.take 12).map fun c =>
    if c == '_' then '-' else c.toLower)
  let spelled := fun (s : String) => short == s || startsWith short (s ++ "-")
  if spelled "utf-8" then "utf-8"
  else if ["latin-1", "iso-8859-1", "iso-latin-1"].any spelled then "iso-8859-1"
  else name

/-- The codec a line names, if it names one. A line that is no UTF-8 is refused, and so is a name
that no codec has, or one that contradicts a mark. -/
def lineCodec? (codecs : Codecs) (marked : Bool) (line : Bytes) : Option (Option Codec) :=
  match Encoding.decodeChars .utf8 line with
  | .error _ => none
  | .ok _ =>
    match coding? (oneByOne line) with
    | none => some none
    | some name =>
      let name := usualName name
      if marked && name != "utf-8" then none else (codecs name).toOption.map some

/-- The codec of a file. The second line counts when the first is bare. -/
def sourceCodec? (codecs : Codecs) (marked : Bool) (bs : Bytes) : Option Codec := do
  match ← lineCodec? codecs marked (firstLine bs) with
  | some k => return k
  | none =>
    if isBare (oneByOne (firstLine bs)) then
      return (← lineCodec? codecs marked (firstLine (afterLine bs))).getD (toCodec .utf8)
    else return toCodec .utf8

/-- The text of a file behind its mark, if it has one. -/
def decodeBody (codecs : Codecs) (marked : Bool) (bs : Bytes) : Option String := do
  let k ← sourceCodec? codecs marked bs
  let s ← (k.decode bs).toOption
  return String.ofList (unifyLineEnds s.toList)

def hasMark (bs : Bytes) : Bool :=
  bs.take 3 == [0xEF, 0xBB, 0xBF]

/-- The bytes of a file behind its mark, if it has one. -/
def unmarked (bs : Bytes) : Bytes :=
  if hasMark bs then bs.drop 3 else bs

/-- The text of a source file. -/
def decodeSource (codecs : Codecs) (bs : Bytes) : Option String :=
  decodeBody codecs (hasMark bs) (unmarked bs)

theorem hasMark_of_head {b : UInt8} (h : b ≠ 0xEF) (bs : Bytes) : hasMark (b :: bs) = false := by
  simp [hasMark, h]

theorem unmarked_of_head {b : UInt8} (h : b ≠ 0xEF) (bs : Bytes) :
    unmarked (b :: bs) = b :: bs := by
  rw [unmarked, hasMark_of_head h]
  rfl

theorem decodeSource_of_head {b : UInt8} (h : b ≠ 0xEF) (bs : Bytes) :
    decodeSource codecs (b :: bs) = decodeBody codecs false (b :: bs) := by
  rw [decodeSource, hasMark_of_head h, unmarked_of_head h]

/-! ### Files that name no encoding -/

theorem oneByOne_append (bs rest : Bytes) :
    oneByOne (bs ++ rest) = oneByOne bs ++ oneByOne rest :=
  List.map_append

theorem coding?_comment (comment : List Char) : coding? ('#' :: comment) = announcement? comment :=
  rfl

theorem announced?_of_ne {c : Char} (h : c ≠ 'c') (cs : List Char) :
    announced? (c :: cs) = none := by
  have hne : ('c' == c) = false := beq_eq_false_iff_ne.2 h.symm
  simp [announced?, startsWithList, hne]

theorem announcement?_append {ps : List Char} (h : 'c' ∉ ps) (cs : List Char) :
    announcement? (ps ++ cs) = announcement? cs := by
  induction ps with
  | nil => rfl
  | cons p ps ih =>
    rw [List.mem_cons, not_or] at h
    rw [List.cons_append, announcement?, announced?_of_ne (Ne.symm h.1), Option.none_or, ih h.2]

/-- An announcement has a colon or an equals sign. -/
theorem announcement?_of_notMem (hcolon : ':' ∉ cs) (hequals : '=' ∉ cs) :
    announcement? cs = none := by
  induction cs with
  | nil => rfl
  | cons c cs ih =>
    have hnone : announced? (c :: cs) = none := by
      unfold announced?
      rw [if_neg]
      rw [Bool.or_eq_true, not_or]
      exact ⟨fun h => hcolon (mem_of_startsWithList h (by decide)),
        fun h => hequals (mem_of_startsWithList h (by decide))⟩
    rw [announcement?, hnone, Option.none_or, ih (fun h => hcolon (List.mem_cons_of_mem c h))
      fun h => hequals (List.mem_cons_of_mem c h)]

/-- Neither of the two lines that count names an encoding. -/
structure Silent (bs : Bytes) : Prop where
  first : coding? (oneByOne (firstLine bs)) = none
  second : isBare (oneByOne (firstLine bs)) = true →
    coding? (oneByOne (firstLine (afterLine bs))) = none

theorem lineCodec?_of_coding? (h : coding? (oneByOne line) = none) {found : Option Codec}
    (hfound : lineCodec? codecs marked line = some found) : found = none := by
  unfold lineCodec? at hfound
  rw [h] at hfound
  split at hfound
  · cases hfound
  · exact (Option.some.inj hfound).symm

theorem lineCodec?_of_ok (h : coding? (oneByOne line) = none)
    (hcs : Encoding.decodeChars .utf8 line = .ok cs) :
    lineCodec? codecs marked line = some none := by
  rw [lineCodec?, hcs, h]

theorem Silent.eq_utf8 (h : Silent bs) {k : Codec} (hk : sourceCodec? codecs marked bs = some k) :
    k = toCodec .utf8 := by
  obtain ⟨found, hfound, hk⟩ := Option.bind_eq_some_iff.1 hk
  obtain rfl := lineCodec?_of_coding? h.first hfound
  simp only at hk
  split at hk
  · rename_i hbare
    obtain ⟨found, hfound, hk⟩ := Option.bind_eq_some_iff.1 hk
    obtain rfl := lineCodec?_of_coding? (h.second hbare) hfound
    exact (Option.some.inj hk).symm
  · exact (Option.some.inj hk).symm

/-- A file that is read and names no encoding is read as UTF-8. -/
theorem Silent.exists_of_decodeBody (h : Silent bs) {s : String}
    (hs : decodeBody codecs marked bs = some s) :
    ∃ cs, Encoding.decodeChars .utf8 bs = .ok cs ∧ s = String.ofList (unifyLineEnds cs) := by
  obtain ⟨k, hk, hbody⟩ := Option.bind_eq_some_iff.1 hs
  obtain ⟨text, htext, hunified⟩ := Option.bind_eq_some_iff.1 hbody
  obtain rfl := h.eq_utf8 hk
  change (((Encoding.decodeChars .utf8 bs).map String.ofList).toOption = some text) at htext
  cases hdecode : Encoding.decodeChars .utf8 bs with
  | error x =>
    rw [hdecode] at htext
    cases htext
  | ok cs =>
    rw [hdecode] at htext
    obtain rfl : String.ofList cs = text := Option.some.inj htext
    refine ⟨cs, rfl, ?_⟩
    rw [← Option.some.inj hunified, String.toList_ofList]

/-- A file that names no encoding is read when it is UTF-8 and its first two lines are. -/
theorem Silent.decodeBody_eq (h : Silent bs) {first second : List Char}
    (hfirst : Encoding.decodeChars .utf8 (firstLine bs) = .ok first)
    (hsecond : Encoding.decodeChars .utf8 (firstLine (afterLine bs)) = .ok second)
    (hcs : Encoding.decodeChars .utf8 bs = .ok cs) :
    decodeBody codecs marked bs = some (String.ofList (unifyLineEnds cs)) := by
  have hk : sourceCodec? codecs marked bs = some (toCodec .utf8) := by
    unfold sourceCodec?
    rw [lineCodec?_of_ok h.first hfirst]
    by_cases hbare : isBare (oneByOne (firstLine bs)) = true
    · simp only [Option.bind_eq_bind, Option.bind_some, if_pos hbare]
      rw [lineCodec?_of_ok (h.second hbare) hsecond]
      rfl
    · simp [hbare]
  have hdecode : (toCodec .utf8).decode bs = .ok (String.ofList cs) :=
    congrArg (Except.map String.ofList) hcs
  rw [decodeBody, hk, Option.bind_eq_bind, Option.bind_some, hdecode]
  change some (String.ofList (unifyLineEnds (String.ofList cs).toList)) = _
  rw [String.toList_ofList]

/-! ### Lines of UTF-8 -/

theorem byte_notMem_bytesOf {e : Encoding} (he : e.KeepsAscii) {c : Char} (hc : c.toNat < 128)
    (h : c ∉ cs) : byte c.toNat ∉ e.bytesOf cs := by
  intro hmem
  have hbyte := toNat_byte (Nat.lt_trans hc (show 128 < 256 by decide))
  obtain ⟨d, hd, hsame⟩ := mem_of_mem_bytesOf he hmem (hbyte.symm ▸ hc)
  have heq : d = c := by rw [← Char.ofNat_toNat d, hsame, hbyte, Char.ofNat_toNat]
  exact h (heq ▸ hd)

/-- The bytes up to a line feed are those of the characters up to it, and so are those behind it. -/
theorem lines_bytesOf (cs : List Char) :
    (∃ line, firstLine (bytesOf .utf8 cs) = bytesOf .utf8 line) ∧
      ∃ more, afterLine (bytesOf .utf8 cs) = bytesOf .utf8 more := by
  have hfree : 10 ∉ bytesOf .utf8 (cs.takeWhile (· != '\n')) :=
    byte_notMem_bytesOf (c := '\n') (keepsAscii_utf8 (e := .utf8) trivial) (by decide) fun h =>
      absurd (List.all_eq_true.1 List.all_takeWhile _ h) (by decide)
  have hsplit := List.takeWhile_append_dropWhile (p := (· != '\n')) (l := cs)
  cases hrest : cs.dropWhile (· != '\n') with
  | nil =>
    rw [hrest, List.append_nil] at hsplit
    rw [hsplit] at hfree
    exact ⟨⟨cs, firstLine_of_notMem hfree⟩, [], afterLine_of_notMem hfree⟩
  | cons c more =>
    have hc : c = '\n' := by
      have hhead := List.head?_dropWhile_not (· != '\n') cs
      rw [hrest] at hhead
      simpa using hhead
    have hbytes : bytesOf .utf8 cs =
        bytesOf .utf8 (cs.takeWhile (· != '\n')) ++ 10 :: bytesOf .utf8 more := by
      rw [hrest, hc] at hsplit
      rw [← congrArg (bytesOf .utf8) hsplit, bytesOf_append, bytesOf_cons]
      rfl
    rw [hbytes, firstLine_append hfree, afterLine_append hfree]
    exact ⟨⟨_, rfl⟩, more, rfl⟩

/-- A file that names no encoding is read exactly if it is UTF-8. -/
theorem Silent.decodeBody_iff (h : Silent bs) {s : String} :
    decodeBody codecs marked bs = some s ↔
      ∃ cs, bs = bytesOf .utf8 cs ∧ s = String.ofList (unifyLineEnds cs) := by
  constructor
  · intro hs
    obtain ⟨cs, hcs, rfl⟩ := h.exists_of_decodeBody hs
    exact ⟨cs, decodeChars_utf8_iff.1 hcs, rfl⟩
  · rintro ⟨cs, rfl, rfl⟩
    obtain ⟨⟨line, hline⟩, more, hmore⟩ := lines_bytesOf cs
    obtain ⟨⟨next, hnext⟩, -⟩ := lines_bytesOf more
    exact h.decodeBody_eq (decodeChars_utf8_iff.2 hline)
      (decodeChars_utf8_iff.2 ((congrArg firstLine hmore).trans hnext)) (decodeChars_bytesOf cs)

end Foundry.Factory
