import Foundry.Text.Quoted
import Mathlib.Algebra.Group.Nat.Defs

/-!
A quoted text is read back as it was, and stands on one line.
-/

namespace Foundry.Text

/-! ### Hexadecimal digits -/

theorem hexValue_hexDigit : ∀ d, d < 16 → hexValue [hexDigit d] = d := by decide

theorem hexDigit_ne_lineEnd : ∀ d, d < 16 → hexDigit d ≠ '\n' ∧ hexDigit d ≠ '\r' := by decide

theorem hexValue_append (cs : List Char) (c : Char) :
    hexValue (cs ++ [c]) = hexValue cs * 16 + hexValue [c] := by
  simp [hexValue]

theorem hexValue_hexDigits (width n : Nat) : hexValue (hexDigits width n) = n % 16 ^ width := by
  induction width generalizing n with
  | zero => simp [hexDigits, hexValue, Nat.mod_one]
  | succ width ih =>
    have hdigit := hexValue_hexDigit (n % 16) (Nat.mod_lt n (by decide))
    have hpow : 16 ^ (width + 1) = 16 * 16 ^ width := Nat.pow_succ'
    rw [hexDigits, hexValue_append, ih, hdigit, hpow, Nat.mod_mul]
    omega

theorem lineEnd_notMem_hexDigits {x : Char} (hx : x = '\n' ∨ x = '\r') (width n : Nat) :
    x ∉ hexDigits width n := by
  induction width generalizing n with
  | zero => exact List.not_mem_nil
  | succ width ih =>
    obtain ⟨hnewline, hreturn⟩ := hexDigit_ne_lineEnd (n % 16) (Nat.mod_lt n (by decide))
    rw [hexDigits, List.mem_append, List.mem_singleton, not_or]
    refine ⟨ih (n / 16), ?_⟩
    rcases hx with rfl | rfl
    · exact hnewline.symm
    · exact hreturn.symm

/-! ### One character -/

theorem quoteFor_eq (cs : List Char) : quoteFor cs = '\'' ∨ quoteFor cs = '"' := by
  unfold quoteFor
  split
  · exact .inr rfl
  · exact .inl rfl

theorem unquotedList_escapePoint (q c : Char) (cs : List Char) :
    unquotedList q (escapePoint c.toNat ++ cs) =
      (unquotedList q cs).map fun r => (c :: r.1, r.2) := by
  have hback : ∀ width, c.toNat < 16 ^ width →
      Char.ofNat (hexValue (hexDigits width c.toNat)) = c := by
    intro width h
    rw [hexValue_hexDigits, Nat.mod_eq_of_lt h, Char.ofNat_toNat]
  unfold escapePoint
  split
  · have h := hback 2 (by omega)
    simp only [hexDigits, List.nil_append, List.cons_append] at h ⊢
    rw [unquotedList, h]
  · split
    · have h := hback 4 (by omega)
      simp only [hexDigits, List.nil_append, List.cons_append] at h ⊢
      rw [unquotedList, h]
    · have hlt : c.toNat < 16 ^ 8 := by
        have hmax := UInt32.toNat_lt c.val
        exact hmax
      have h := hback 8 hlt
      simp only [hexDigits, List.nil_append, List.cons_append] at h ⊢
      rw [unquotedList, h]

theorem unquotedList_quotedChar {q : Char} (hq : q = '\'' ∨ q = '"') (c : Char)
    (cs : List Char) :
    unquotedList q (quotedChar q c ++ cs) =
      (unquotedList q cs).map fun r => (c :: r.1, r.2) := by
  -- One case for each way to write a character: after a backslash, as it is, or by its number.
  unfold quotedChar
  split
  · rename_i h
    rcases h with rfl | rfl
    · rcases hq with rfl | rfl <;> simp [unquotedList, unescaped]
    · simp [unquotedList, unescaped]
  · rename_i h
    rw [not_or] at h
    split
    · subst c
      simp [unquotedList, unescaped]
    · split
      · subst c
        simp [unquotedList, unescaped]
      · split
        · subst c
          simp [unquotedList, unescaped]
        · split
          · simp [unquotedList, h.1, h.2]
          · exact unquotedList_escapePoint q c cs

/-- A character that ends a line is never written as it is. -/
theorem lineEnd_notMem_quotedChar {x : Char} (hx : x = '\n' ∨ x = '\r') {q : Char}
    (hq : q = '\'' ∨ q = '"') (c : Char) : x ∉ quotedChar q c := by
  unfold quotedChar
  split
  · rename_i h
    rcases h with rfl | rfl
    · rcases hq with rfl | rfl <;> rcases hx with rfl | rfl <;> decide
    · rcases hx with rfl | rfl <;> decide
  · split
    · rcases hx with rfl | rfl <;> decide
    · split
      · rcases hx with rfl | rfl <;> decide
      · split
        · rcases hx with rfl | rfl <;> decide
        · split
          · rename_i hnewline hreturn _
            rw [List.mem_singleton]
            rintro rfl
            rcases hx with h | h
            · exact hnewline h
            · exact hreturn h
          · have hdigits := lineEnd_notMem_hexDigits hx
            unfold escapePoint
            rcases hx with rfl | rfl
            · split
              · simp [hdigits]
              · split <;> simp [hdigits]
            · split
              · simp [hdigits]
              · split <;> simp [hdigits]

/-! ### Texts -/

theorem unquotedList_quotedChars {q : Char} (hq : q = '\'' ∨ q = '"') (cs rest : List Char) :
    unquotedList q (cs.flatMap (quotedChar q) ++ q :: rest) = some (cs, rest) := by
  induction cs with
  | nil => rcases hq with rfl | rfl <;> simp [unquotedList]
  | cons c cs ih =>
    rw [List.flatMap_cons, List.append_assoc, unquotedList_quotedChar hq, ih]
    rfl

theorem readQuoted_quoted (s : String) (rest : List Char) :
    readQuoted ((quoted s).toList ++ rest) = some (s, rest) := by
  have hq := quoteFor_eq s.toList
  have hread := unquotedList_quotedChars hq s.toList rest
  rw [quoted, String.toList_ofList, quotedList, List.append_assoc, List.singleton_append,
    List.cons_append, readQuoted, if_pos hq, hread]
  simp

theorem lineEnd_notMem_quoted {x : Char} (hx : x = '\n' ∨ x = '\r') (s : String) :
    x ∉ (quoted s).toList := by
  have hq := quoteFor_eq s.toList
  have hchars : x ∉ s.toList.flatMap (quotedChar (quoteFor s.toList)) := by
    rw [List.mem_flatMap]
    rintro ⟨c, -, hc⟩
    exact lineEnd_notMem_quotedChar hx hq c hc
  have hne : x ≠ quoteFor s.toList := by
    rcases hx with rfl | rfl <;> rcases hq with h | h <;> rw [h] <;> decide
  rw [quoted, String.toList_ofList, quotedList]
  simp only [List.cons_append, List.mem_cons, List.mem_append, List.not_mem_nil, or_false]
  rintro (h | h | h)
  · exact hne h
  · exact hchars h
  · exact hne h

end Foundry.Text
