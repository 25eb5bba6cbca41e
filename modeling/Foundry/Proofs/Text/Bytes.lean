import Foundry.Text.Encoding

/-!
Texts as bytes. The bytes of a text are those of its characters, one after the other. UTF-8 reads
back what it wrote, and nothing else. Of the bytes that one-byte encodings write it makes as many
characters only where every byte is ASCII.
-/

namespace Foundry.Text.Encoding

variable {e : Encoding} {c : Char} {cs ds : List Char} {bs rest : List UInt8} {i n : Nat}

/-! ### The bytes of a text -/

/-- The bytes of characters that the encoding has. -/
def bytesOf (e : Encoding) (cs : List Char) : List UInt8 :=
  cs.flatMap fun c => (e.charBytes? c).getD []

theorem bytesOf_append (e : Encoding) (cs ds : List Char) :
    e.bytesOf (cs ++ ds) = e.bytesOf cs ++ e.bytesOf ds :=
  List.flatMap_append

theorem bytesOf_cons (e : Encoding) (c : Char) (cs : List Char) :
    e.bytesOf (c :: cs) = (e.charBytes? c).getD [] ++ e.bytesOf cs :=
  List.flatMap_cons

theorem encodeFrom_of_isSome (h : ∀ c ∈ cs, (e.charBytes? c).isSome = true) (i : Nat) :
    e.encodeFrom i cs = .ok (e.bytesOf cs) := by
  induction cs generalizing i with
  | nil => rfl
  | cons c cs ih =>
    obtain ⟨hc, hcs⟩ := List.forall_mem_cons.1 h
    obtain ⟨own, hown⟩ := Option.isSome_iff_exists.1 hc
    rw [encodeFrom, bytesOf_cons, hown, ih hcs]
    rfl

theorem isSome_of_encodeFrom (h : e.encodeFrom i cs = .ok bs) :
    ∀ c ∈ cs, (e.charBytes? c).isSome = true := by
  induction cs generalizing i bs with
  | nil => exact fun c hc => absurd hc List.not_mem_nil
  | cons c cs ih =>
    rw [encodeFrom] at h
    split at h
    · rename_i own hown
      cases hrest : e.encodeFrom (i + 1) cs with
      | error x =>
        rw [hrest] at h
        cases h
      | ok more => exact List.forall_mem_cons.2 ⟨by rw [hown]; rfl, ih hrest⟩
    · cases h

/-- A text that has bytes has those of its characters, behind the mark. -/
theorem encode_ok_iff {s : String} :
    e.encode s = .ok bs ↔
      bs = e.mark ++ e.bytesOf s.toList ∧ ∀ c ∈ s.toList, (e.charBytes? c).isSome = true := by
  have hencode : (∀ c ∈ s.toList, (e.charBytes? c).isSome = true) →
      e.encode s = .ok (e.mark ++ e.bytesOf s.toList) := fun hall => by
    rw [encode, encodeFrom_of_isSome hall]
    rfl
  constructor
  · intro h
    cases hfrom : e.encodeFrom 0 s.toList with
    | error x =>
      rw [encode, hfrom] at h
      cases h
    | ok own =>
      have hall := isSome_of_encodeFrom hfrom
      exact ⟨Except.ok.inj (h.symm.trans (hencode hall)), hall⟩
  · rintro ⟨rfl, hall⟩
    exact hencode hall

/-- Plain characters are their own bytes, and no other character has a plain byte. -/
def KeepsAscii (e : Encoding) : Prop :=
  ∀ c bs, e.charBytes? c = some bs →
    (c.toNat < 128 → bs = [byte c.toNat]) ∧ (128 ≤ c.toNat → ∀ b ∈ bs, 128 ≤ b.toNat)

/-- One byte for each character. -/
def IsTable : Encoding → Prop
  | .ascii | .latin1 | .oneByte _ => True
  | _ => False

/-- UTF-8 with a mark or without one. -/
def IsUtf8 : Encoding → Prop
  | .utf8 | .utf8Marked => True
  | _ => False

theorem toNat_byte (h : n < 256) : (byte n).toNat = n := by
  simp [byte, Nat.mod_eq_of_lt h]

theorem toNat_lt (c : Char) : c.toNat < 0x110000 := by
  have hvalid : c.toNat < 0xD800 ∨ 0xDFFF < c.toNat ∧ c.toNat < 0x110000 := c.valid
  omega

theorem points_length (set : CharacterSet) : set.points.length = 128 := by
  cases set <;> rfl

theorem exists_byte_of_table (h : e.IsTable) (hbs : e.charBytes? c = some bs) :
    ∃ k < 256, bs = [byte k] ∧ (c.toNat < 128 → k = c.toNat) ∧ (128 ≤ c.toNat → 128 ≤ k) := by
  cases e with
  | ascii =>
    simp only [charBytes?] at hbs
    split at hbs
    · exact ⟨c.toNat, by omega, (Option.some.inj hbs).symm, fun _ => rfl, id⟩
    · cases hbs
  | latin1 =>
    simp only [charBytes?] at hbs
    split at hbs
    · exact ⟨c.toNat, by omega, (Option.some.inj hbs).symm, fun _ => rfl, id⟩
    · cases hbs
  | oneByte set =>
    obtain ⟨b, hb, rfl⟩ := Option.map_eq_some_iff.1 hbs
    unfold CharacterSet.byte? at hb
    split at hb
    · exact ⟨c.toNat, by omega, by rw [Option.some.inj hb], fun _ => rfl, id⟩
    · rename_i hlarge
      obtain ⟨k, hk, rfl⟩ := Option.map_eq_some_iff.1 hb
      have hlt := (List.findIdx?_eq_some_iff_findIdx_eq.1 hk).1
      rw [points_length] at hlt
      exact ⟨k + 128, by omega, rfl, fun hc => absurd hc hlarge, fun _ => by omega⟩
  | _ => exact h.elim

theorem keepsAscii_table (h : e.IsTable) : e.KeepsAscii := by
  intro c bs hbs
  obtain ⟨k, hk, rfl, hplain, hother⟩ := exists_byte_of_table h hbs
  refine ⟨fun hc => by rw [hplain hc], fun hc b hb => ?_⟩
  rw [List.mem_singleton.1 hb, toNat_byte hk]
  exact hother hc

theorem keepsAscii_utf8 (h : e.IsUtf8) : e.KeepsAscii := by
  intro c bs hbs
  have hbytes : bs = utf8Bytes c.toNat := by
    cases e with
    | utf8 => exact (Option.some.inj hbs).symm
    | utf8Marked => exact (Option.some.inj hbs).symm
    | _ => exact h.elim
  have hlt := toNat_lt c
  subst hbytes
  constructor
  · intro hc
    rw [utf8Bytes, if_pos hc]
  · intro hc b hb
    unfold utf8Bytes at hb
    rw [if_neg (by omega)] at hb
    split at hb
    · simp only [List.mem_cons, List.not_mem_nil, or_false] at hb
      rcases hb with rfl | rfl <;> rw [toNat_byte (by omega)] <;> omega
    · split at hb
      · simp only [List.mem_cons, List.not_mem_nil, or_false] at hb
        rcases hb with rfl | rfl | rfl <;> rw [toNat_byte (by omega)] <;> omega
      · simp only [List.mem_cons, List.not_mem_nil, or_false] at hb
        rcases hb with rfl | rfl | rfl | rfl <;> rw [toNat_byte (by omega)] <;> omega

theorem bytesOf_ascii (he : e.KeepsAscii) (hall : ∀ c ∈ cs, (e.charBytes? c).isSome = true)
    (h : ∀ c ∈ cs, c.toNat < 128) : e.bytesOf cs = cs.map fun c => byte c.toNat := by
  induction cs with
  | nil => rfl
  | cons c cs ih =>
    obtain ⟨hsome, hall⟩ := List.forall_mem_cons.1 hall
    obtain ⟨hlt, h⟩ := List.forall_mem_cons.1 h
    obtain ⟨own, hown⟩ := Option.isSome_iff_exists.1 hsome
    rw [bytesOf_cons, hown, ih hall h, List.map_cons, Option.getD_some, (he c own hown).1 hlt]
    rfl

/-- A plain byte is that of a plain character. -/
theorem mem_of_mem_bytesOf (he : e.KeepsAscii) {b : UInt8} (hb : b ∈ e.bytesOf cs)
    (hlt : b.toNat < 128) : ∃ c ∈ cs, c.toNat = b.toNat := by
  obtain ⟨c, hc, hmem⟩ := List.mem_flatMap.1 hb
  refine ⟨c, hc, ?_⟩
  cases hown : e.charBytes? c with
  | none =>
    rw [hown] at hmem
    exact absurd hmem List.not_mem_nil
  | some own =>
    rw [hown, Option.getD_some] at hmem
    obtain ⟨hplain, hother⟩ := he c own hown
    by_cases hc' : c.toNat < 128
    · rw [hplain hc', List.mem_singleton] at hmem
      rw [hmem, toNat_byte (by omega)]
    · exact absurd (hother (by omega) b hmem) (by omega)

theorem length_bytesOf (he : e.IsTable) (hall : ∀ c ∈ cs, (e.charBytes? c).isSome = true) :
    (e.bytesOf cs).length = cs.length := by
  induction cs with
  | nil => rfl
  | cons c cs ih =>
    obtain ⟨hsome, hall⟩ := List.forall_mem_cons.1 hall
    obtain ⟨own, hown⟩ := Option.isSome_iff_exists.1 hsome
    obtain ⟨k, -, rfl, -⟩ := exists_byte_of_table he hown
    rw [bytesOf_cons, hown, List.length_append, ih hall, List.length_cons, Nat.add_comm]
    rfl

theorem lt_of_bytesOf (he : e.IsTable) (hall : ∀ c ∈ cs, (e.charBytes? c).isSome = true)
    (h : ∀ b ∈ e.bytesOf cs, b.toNat < 128) : ∀ c ∈ cs, c.toNat < 128 := by
  intro c hc
  obtain ⟨own, hown⟩ := Option.isSome_iff_exists.1 (hall c hc)
  obtain ⟨k, hk, rfl, -, hother⟩ := exists_byte_of_table he hown
  have hmem : byte k ∈ (e.charBytes? c).getD [] := by
    rw [hown]
    exact List.mem_singleton.2 rfl
  have hbyte := h (byte k) (List.mem_flatMap.2 ⟨c, hc, hmem⟩)
  rw [toNat_byte hk] at hbyte
  omega

/-! ### UTF-8 back to characters -/

theorem utf8Tail_cons {low high bits want : Nat} {b : UInt8} {r : Nat × List UInt8}
    (hlow : low ≤ b.toNat) (hhigh : b.toNat ≤ high)
    (h : utf8Tail 0x80 0xBF (bits * 64 + (b.toNat - 0x80)) want rest = .ok r) :
    utf8Tail low high bits (want + 1) (b :: rest) = .ok r := by
  simp [utf8Tail, hlow, hhigh, h]

theorem decodeUtf8_lead {size low high bits point : Nat} {b : UInt8} (hb : 128 ≤ b.toNat)
    (hlead : utf8Lead b.toNat = some (size, low, high, bits))
    (htail : utf8Tail low high bits (size - 1) bs = .ok (point, rest)) (n i : Nat) :
    decodeUtf8 (n + 1) i (b :: bs) =
      (decodeUtf8 n (i + size) rest).map (Char.ofNat point :: ·) := by
  rw [decodeUtf8, if_neg (by omega), hlead]
  simp only [htail]

/-- A leading byte of three asks for what the second one then is. -/
theorem utf8Lead_three {k : Nat} (hlow : 0x800 ≤ k) (hhigh : k < 0x10000)
    (hvalid : k < 0xD800 ∨ 0xDFFF < k) :
    ∃ low high, utf8Lead (0xE0 + k / 4096) = some (3, low, high, k / 4096) ∧
      low ≤ 0x80 + k / 64 % 64 ∧ 0x80 + k / 64 % 64 ≤ high := by
  unfold utf8Lead
  rw [if_neg (by omega), if_neg (by omega)]
  by_cases h0 : k / 4096 = 0
  · rw [h0]
    exact ⟨_, _, rfl, by omega, by omega⟩
  rw [if_neg (by omega)]
  by_cases h13 : k / 4096 = 13
  · rw [h13]
    exact ⟨_, _, rfl, by omega, by omega⟩
  rw [if_neg (by omega), if_pos (by omega), Nat.add_sub_cancel_left]
  exact ⟨_, _, rfl, by omega, by omega⟩

/-- A leading byte of four asks for what the second one then is. -/
theorem utf8Lead_four {k : Nat} (hlow : 0x10000 ≤ k) (hhigh : k < 0x110000) :
    ∃ low high, utf8Lead (0xF0 + k / 262144) = some (4, low, high, k / 262144) ∧
      low ≤ 0x80 + k / 4096 % 64 ∧ 0x80 + k / 4096 % 64 ≤ high := by
  unfold utf8Lead
  rw [if_neg (by omega), if_neg (by omega), if_neg (by omega), if_neg (by omega),
    if_neg (by omega)]
  by_cases h0 : k / 262144 = 0
  · rw [h0]
    exact ⟨_, _, rfl, by omega, by omega⟩
  rw [if_neg (by omega)]
  by_cases h4 : k / 262144 = 4
  · rw [h4]
    exact ⟨_, _, rfl, by omega, by omega⟩
  rw [if_pos (by omega), Nat.add_sub_cancel_left]
  exact ⟨_, _, rfl, by omega, by omega⟩

/-- The bytes of a character lead back to it. -/
theorem decodeUtf8_utf8Bytes (c : Char) (n i : Nat) (rest : List UInt8) :
    decodeUtf8 (n + 1) i (utf8Bytes c.toNat ++ rest) =
      (decodeUtf8 n (i + (utf8Bytes c.toNat).length) rest).map (c :: ·) := by
  obtain ⟨k, hk⟩ : ∃ k, c.toNat = k := ⟨_, rfl⟩
  have hvalid : k < 0xD800 ∨ 0xDFFF < k ∧ k < 0x110000 := hk ▸ c.valid
  have hback : Char.ofNat k = c := by rw [← hk, Char.ofNat_toNat]
  have hstep : ∀ {low high bits want m : Nat} {bs : List UInt8}, m < 256 → low ≤ m → m ≤ high →
      utf8Tail 0x80 0xBF (bits * 64 + (m - 0x80)) want bs = .ok (k, rest) →
      utf8Tail low high bits (want + 1) (byte m :: bs) = .ok (k, rest) := by
    intro low high bits want m bs hm hlow hhigh h
    refine utf8Tail_cons ?_ ?_ ?_ <;> rwa [toNat_byte hm]
  have hend : ∀ point, point = k → utf8Tail 0x80 0xBF point 0 rest = .ok (k, rest) := by
    rintro _ rfl
    rfl
  rw [hk]
  unfold utf8Bytes
  by_cases h1 : k < 0x80
  · rw [if_pos h1, List.singleton_append, decodeUtf8, toNat_byte (by omega), if_pos h1, hback]
    rfl
  rw [if_neg h1]
  by_cases h2 : k < 0x800
  · have hlead : utf8Lead (0xC0 + k / 64) = some (2, 0x80, 0xBF, k / 64) := by
      unfold utf8Lead
      rw [if_neg (by omega), if_pos (by omega), Nat.add_sub_cancel_left]
    rw [if_pos h2, ← hback]
    refine decodeUtf8_lead ?_ ((congrArg utf8Lead (toNat_byte (by omega))).trans hlead)
      (hstep ?_ ?_ ?_ (hend _ ?_)) n i
    · rw [toNat_byte (by omega)]
      omega
    all_goals omega
  rw [if_neg h2]
  by_cases h3 : k < 0x10000
  · obtain ⟨low, high, hlead, hlow, hhigh⟩ := utf8Lead_three (by omega) h3 (by omega)
    rw [if_pos h3, ← hback]
    refine decodeUtf8_lead ?_ ((congrArg utf8Lead (toNat_byte (by omega))).trans hlead)
      (hstep ?_ hlow hhigh (hstep ?_ ?_ ?_ (hend _ ?_))) n i
    · rw [toNat_byte (by omega)]
      omega
    all_goals omega
  · obtain ⟨low, high, hlead, hlow, hhigh⟩ := utf8Lead_four (k := k) (by omega) (by omega)
    rw [if_neg h3, ← hback]
    refine decodeUtf8_lead ?_ ((congrArg utf8Lead (toNat_byte (by omega))).trans hlead)
      (hstep ?_ hlow hhigh (hstep ?_ ?_ ?_ (hstep ?_ ?_ ?_ (hend _ ?_)))) n i
    · rw [toNat_byte (by omega)]
      omega
    all_goals omega

/-- UTF-8 reads back the characters it wrote. -/
theorem decodeUtf8_bytesOf {n : Nat} (h : cs.length < n) (i : Nat) :
    decodeUtf8 n i (bytesOf .utf8 cs) = .ok cs := by
  induction cs generalizing n i with
  | nil =>
    obtain ⟨n, rfl⟩ := Nat.exists_eq_succ_of_ne_zero (Nat.ne_of_gt h)
    rfl
  | cons c cs ih =>
    obtain ⟨n, rfl⟩ := Nat.exists_eq_succ_of_ne_zero (Nat.ne_of_gt (Nat.zero_lt_of_lt h))
    rw [bytesOf_cons]
    refine (decodeUtf8_utf8Bytes c n i _).trans ?_
    rw [ih (Nat.lt_of_succ_lt_succ h)]
    rfl

theorem length_le_bytesOf (cs : List Char) : cs.length ≤ (bytesOf .utf8 cs).length := by
  have hown : ∀ c : Char, 1 ≤ (utf8Bytes c.toNat).length := by
    intro c
    unfold utf8Bytes
    repeat' split
    all_goals simp
  induction cs with
  | nil => exact Nat.le_refl 0
  | cons c cs ih =>
    have hc : 1 ≤ (((Encoding.utf8).charBytes? c).getD []).length := hown c
    rw [bytesOf_cons, List.length_append, List.length_cons]
    omega

theorem decodeChars_bytesOf (cs : List Char) : decodeChars .utf8 (bytesOf .utf8 cs) = .ok cs :=
  decodeUtf8_bytesOf (Nat.lt_succ_of_le (length_le_bytesOf cs)) 0

theorem exists_of_map_cons {r : Except CodecError (List Char)}
    (h : r.map (c :: ·) = .ok cs) : ∃ ds, r = .ok ds ∧ cs = c :: ds := by
  cases r with
  | error x => cases h
  | ok ds =>
    cases h
    exact ⟨ds, rfl, rfl⟩

/-- A plain byte in front is a character of its own. -/
theorem exists_of_decodeUtf8_cons {b : UInt8} (hb : b.toNat < 128)
    (h : decodeUtf8 (n + 1) i (b :: bs) = .ok cs) :
    ∃ ds, decodeUtf8 n (i + 1) bs = .ok ds ∧ cs = Char.ofNat b.toNat :: ds := by
  rw [decodeUtf8, if_pos hb] at h
  exact exists_of_map_cons h

theorem length_of_utf8Tail {low high bits want point : Nat}
    (h : utf8Tail low high bits want bs = .ok (point, rest)) :
    rest.length + want = bs.length := by
  induction want generalizing low high bits bs with
  | zero =>
    rw [utf8Tail] at h
    cases h
    rfl
  | succ want ih =>
    cases bs with
    | nil => cases h
    | cons b bs =>
      rw [utf8Tail] at h
      split at h
      · split at h
        · rename_i hrest
          cases h
          rw [List.length_cons, ← ih hrest, Nat.add_assoc]
        · cases h
      · cases h

theorem two_le_of_utf8Lead {b size low high bits : Nat}
    (h : utf8Lead b = some (size, low, high, bits)) : 2 ≤ size := by
  unfold utf8Lead at h
  repeat' split at h
  all_goals cases h <;> decide

/-- No byte makes two characters, and where each makes one, all of them are plain. -/
theorem length_of_decodeUtf8 (h : decodeUtf8 n i bs = .ok cs) :
    cs.length ≤ bs.length ∧
      (cs.length = bs.length → (∀ b ∈ bs, b.toNat < 128) ∧
        cs = bs.map fun b => Char.ofNat b.toNat) := by
  induction n generalizing i bs cs with
  | zero =>
    cases h
    refine ⟨Nat.zero_le _, fun hlen => ?_⟩
    rw [List.length_eq_zero_iff.1 hlen.symm]
    exact ⟨fun b hb => absurd hb List.not_mem_nil, rfl⟩
  | succ n ih =>
    cases bs with
    | nil =>
      cases h
      exact ⟨Nat.le_refl _, fun _ => ⟨fun b hb => absurd hb List.not_mem_nil, rfl⟩⟩
    | cons b bs =>
      by_cases hb : b.toNat < 128
      · obtain ⟨ds, hds, rfl⟩ := exists_of_decodeUtf8_cons hb h
        obtain ⟨hle, heq⟩ := ih hds
        refine ⟨Nat.succ_le_succ hle, fun hlen => ?_⟩
        obtain ⟨hall, hchars⟩ := heq (Nat.succ.inj hlen)
        refine ⟨List.forall_mem_cons.2 ⟨hb, hall⟩, ?_⟩
        rw [List.map_cons, ← hchars]
      · rw [decodeUtf8, if_neg hb] at h
        split at h
        · cases h
        · rename_i hlead
          split at h
          · rename_i htail
            obtain ⟨ds, hds, rfl⟩ := exists_of_map_cons h
            have hle := (ih hds).1
            have htwo := two_le_of_utf8Lead hlead
            have hlen := length_of_utf8Tail htail
            rw [List.length_cons, List.length_cons]
            exact ⟨by omega, fun hsame => by omega⟩
          all_goals cases h

/-! ### Bytes that are read -/

theorem byte_eq {b : UInt8} {k : Nat} (h : k = b.toNat) : byte k = b := by
  rw [h, byte, UInt8.ofNat_toNat]

/-- What a leading byte asks for. -/
theorem utf8Lead_cases {b size low high bits : Nat}
    (h : utf8Lead b = some (size, low, high, bits)) : 0x80 ≤ low ∧ high ≤ 0xBF ∧
      (size = 2 ∧ b = 0xC0 + bits ∧ 2 ≤ bits ∧ bits < 32 ∨
        size = 3 ∧ b = 0xE0 + bits ∧ bits < 16 ∧ (bits = 0 → 0xA0 ≤ low) ∧
          (bits = 13 → high ≤ 0x9F) ∨
        size = 4 ∧ b = 0xF0 + bits ∧ bits ≤ 4 ∧ (bits = 0 → 0x90 ≤ low) ∧
          (bits = 4 → high ≤ 0x8F)) := by
  unfold utf8Lead at h
  repeat' split at h
  all_goals first
    | cases h; done
    | (simp only [Option.some.injEq, Prod.mk.injEq] at h; omega)

theorem exists_of_utf8Tail {low high bits want : Nat} {r : Nat × List UInt8}
    (h : utf8Tail low high bits (want + 1) bs = .ok r) :
    ∃ b more, bs = b :: more ∧ low ≤ b.toNat ∧ b.toNat ≤ high ∧
      utf8Tail 0x80 0xBF (bits * 64 + (b.toNat - 0x80)) want more = .ok r := by
  cases bs with
  | nil => cases h
  | cons b more =>
    rw [utf8Tail] at h
    split at h
    · rename_i hrange
      rw [Bool.and_eq_true, decide_eq_true_eq, decide_eq_true_eq] at hrange
      refine ⟨b, more, rfl, hrange.1, hrange.2, ?_⟩
      split at h
      · rename_i hrest
        rw [hrest, Except.ok.inj h]
      · cases h
    · cases h

/-- The character that several bytes were read as has just these bytes. -/
theorem utf8Bytes_of_lead {b : UInt8} {size low high bits point : Nat}
    (hlead : utf8Lead b.toNat = some (size, low, high, bits))
    (htail : utf8Tail low high bits (size - 1) bs = .ok (point, rest)) :
    point.isValidChar ∧ b :: bs = utf8Bytes point ++ rest := by
  obtain ⟨hlow, hhigh, hsize⟩ := utf8Lead_cases hlead
  rcases hsize with ⟨rfl, hb, hmin, hmax⟩ | ⟨rfl, hb, hmax, hfirst, hlast⟩ |
    ⟨rfl, hb, hmax, hfirst, hlast⟩
  · obtain ⟨b₁, bs, rfl, h₁, h₁', hend⟩ := exists_of_utf8Tail htail
    obtain ⟨rfl, rfl⟩ := Prod.mk.inj (Except.ok.inj hend)
    refine ⟨.inl (by omega), ?_⟩
    rw [utf8Bytes, if_neg (by omega), if_pos (by omega), byte_eq (b := b) (by omega),
      byte_eq (b := b₁) (by omega)]
    rfl
  · obtain ⟨b₁, bs, rfl, h₁, h₁', hnext⟩ := exists_of_utf8Tail htail
    obtain ⟨b₂, bs, rfl, h₂, h₂', hend⟩ := exists_of_utf8Tail hnext
    obtain ⟨rfl, rfl⟩ := Prod.mk.inj (Except.ok.inj hend)
    refine ⟨?_, ?_⟩
    · unfold Nat.isValidChar
      omega
    rw [utf8Bytes, if_neg (by omega), if_neg (by omega), if_pos (by omega),
      byte_eq (b := b) (by omega), byte_eq (b := b₁) (by omega), byte_eq (b := b₂) (by omega)]
    rfl
  · obtain ⟨b₁, bs, rfl, h₁, h₁', hnext⟩ := exists_of_utf8Tail htail
    obtain ⟨b₂, bs, rfl, h₂, h₂', hnext⟩ := exists_of_utf8Tail hnext
    obtain ⟨b₃, bs, rfl, h₃, h₃', hend⟩ := exists_of_utf8Tail hnext
    obtain ⟨rfl, rfl⟩ := Prod.mk.inj (Except.ok.inj hend)
    refine ⟨.inr ⟨by omega, by omega⟩, ?_⟩
    rw [utf8Bytes, if_neg (by omega), if_neg (by omega), if_neg (by omega),
      byte_eq (b := b) (by omega), byte_eq (b := b₁) (by omega), byte_eq (b := b₂) (by omega),
      byte_eq (b := b₃) (by omega)]
    rfl

theorem toNat_ofNat {k : Nat} (h : k.isValidChar) : (Char.ofNat k).toNat = k := by
  rw [Char.ofNat, dif_pos h]
  rfl

/-- Bytes that are read are those of the characters they are read as. -/
theorem bytesOf_of_decodeUtf8 (h : decodeUtf8 n i bs = .ok cs) (hn : bs.length < n) :
    bs = bytesOf .utf8 cs := by
  induction n generalizing i bs cs with
  | zero => exact absurd hn (Nat.not_lt_zero _)
  | succ n ih =>
    cases bs with
    | nil =>
      cases h
      rfl
    | cons b bs =>
      by_cases hb : b.toNat < 128
      · obtain ⟨ds, hds, rfl⟩ := exists_of_decodeUtf8_cons hb h
        have hvalid : b.toNat.isValidChar := .inl (by omega)
        have hown : (Encoding.utf8.charBytes? (Char.ofNat b.toNat)).getD [] = [b] := by
          rw [charBytes?, toNat_ofNat hvalid, utf8Bytes, if_pos hb, byte_eq rfl]
          rfl
        rw [bytesOf_cons, hown, ← ih hds (Nat.lt_of_succ_lt_succ hn)]
        rfl
      · rw [decodeUtf8, if_neg hb] at h
        split at h
        · cases h
        · rename_i hlead
          split at h
          · rename_i htail
            obtain ⟨ds, hds, rfl⟩ := exists_of_map_cons h
            obtain ⟨hvalid, hbytes⟩ := utf8Bytes_of_lead hlead htail
            have hlen := length_of_utf8Tail htail
            rw [List.length_cons] at hn
            have hrest := ih hds (by omega)
            rw [bytesOf_cons, charBytes?, toNat_ofNat hvalid, ← hrest, hbytes]
            rfl
          all_goals cases h

theorem decodeChars_utf8_iff : decodeChars .utf8 bs = .ok cs ↔ bs = bytesOf .utf8 cs := by
  constructor
  · exact fun h => bytesOf_of_decodeUtf8 h (Nat.lt_succ_self _)
  · rintro rfl
    exact decodeChars_bytesOf cs

end Foundry.Text.Encoding
