/-
Quoted texts can be read back, whatever stands behind them.

A character between marks is read back by looking at its first letters (`readQuoteChar_quoteChar`), and none of them
starts with the mark. So the closing mark is found where it stands, and what is in front of it and behind it is known:
`quoteChars_append_inj`.
-/
import Mathlib.Tactic.Common
import LinePrompt.Text.Quoted

namespace LinePrompt.Text

variable {mark c : Char} {s s' x y : List Char}

/-! ## Single characters -/

/-- a character by a code point of so many digits, and the rest -/
def readCode (width : Nat) (cs : List Char) : Option (Char × List Char) :=
  (hexNumber? (cs.take width)).map fun n => (Char.ofNat n, cs.drop width)

/-- the character that stands at the front between marks, and the rest -/
def readQuoteChar : List Char → Option (Char × List Char)
  | '\\' :: 't' :: rest => some ('\t', rest)
  | '\\' :: 'n' :: rest => some ('\n', rest)
  | '\\' :: 'r' :: rest => some ('\r', rest)
  | '\\' :: 'x' :: rest => readCode 2 rest
  | '\\' :: 'u' :: rest => readCode 4 rest
  | '\\' :: 'U' :: rest => readCode 8 rest
  | '\\' :: c :: rest => some (c, rest)
  | c :: rest => some (c, rest)
  | [] => none

theorem readCode_hexDigits (width : Nat) (h : c.toNat < Nat.pow 16 width) (rest : List Char) :
    readCode width (hexDigits width c.toNat ++ rest) = some (c, rest) := by
  have htake : (hexDigits width c.toNat ++ rest).take width = hexDigits width c.toNat :=
    List.take_left' (length_hexDigits _ _)
  have hdrop : (hexDigits width c.toNat ++ rest).drop width = rest := List.drop_left' (length_hexDigits _ _)
  rw [readCode, htake, hdrop, hexValue_hexDigits width _ h, Option.map_some, Char.ofNat_toNat]

theorem readQuoteChar_codeEscape (c : Char) (rest : List Char) :
    readQuoteChar (codeEscape c ++ rest) = some (c, rest) := by
  have hlast : c.toNat < Nat.pow 16 8 := Nat.lt_of_lt_of_le c.val.toNat_lt (by decide)
  unfold codeEscape
  dsimp only
  split_ifs with htwo hfour
  · exact readCode_hexDigits 2 htwo rest
  · exact readCode_hexDigits 4 hfour rest
  · exact readCode_hexDigits 8 hlast rest

theorem readQuoteChar_of_ne (hc : c ≠ '\\') (rest : List Char) : readQuoteChar (c :: rest) = some (c, rest) := by
  unfold readQuoteChar
  split <;> simp_all

/-- a quoted character is read back, whatever stands behind it -/
theorem readQuoteChar_quoteChar (hmark : mark = '"' ∨ mark = '\x27') (c : Char) (rest : List Char) :
    readQuoteChar (quoteChar mark c ++ rest) = some (c, rest) := by
  unfold quoteChar
  split_ifs with hescaped htab hfeed hreturn
  · rcases hescaped with rfl | rfl
    · rcases hmark with rfl | rfl <;> rfl
    · rfl
  · rw [htab]
    rfl
  · rw [hfeed]
    rfl
  · rw [hreturn]
    rfl
  · exact readQuoteChar_of_ne (fun h => hescaped (Or.inr h)) rest
  · exact readQuoteChar_codeEscape c rest

/-- a quoted character never starts with the mark -/
theorem head?_quoteChar_ne (hmark : mark = '"' ∨ mark = '\x27') (c : Char) (rest : List Char) :
    (quoteChar mark c ++ rest).head? ≠ some mark := by
  have hslash : '\\' ≠ mark := by rcases hmark with rfl | rfl <;> decide
  have hcode : (codeEscape c ++ rest).head? = some '\\' := by
    unfold codeEscape
    dsimp only
    split_ifs <;> rfl
  unfold quoteChar
  split_ifs with hescaped
  · simpa using hslash
  · simpa using hslash
  · simpa using hslash
  · simpa using hslash
  · simpa using fun h : c = mark => hescaped (Or.inl h)
  · rw [hcode]
    simpa using hslash

/-! ## Texts -/

/-- the first closing mark ends the text -/
theorem flatMap_quoteChar_inj (hmark : mark = '"' ∨ mark = '\x27')
    (h : s.flatMap (quoteChar mark) ++ mark :: x = s'.flatMap (quoteChar mark) ++ mark :: y) : s = s' ∧ x = y := by
  induction s generalizing s' with
  | nil =>
    cases s' with
    | nil => exact ⟨rfl, (List.cons.inj h).2⟩
    | cons c' s' =>
      rw [List.flatMap_cons, List.append_assoc] at h
      exact absurd (congrArg List.head? h).symm (head?_quoteChar_ne hmark c' _)
  | cons c s ih =>
    rw [List.flatMap_cons, List.append_assoc] at h
    cases s' with
    | nil => exact absurd (congrArg List.head? h) (head?_quoteChar_ne hmark c _)
    | cons c' s' =>
      rw [List.flatMap_cons, List.append_assoc] at h
      have hread := congrArg readQuoteChar h
      rw [readQuoteChar_quoteChar hmark, readQuoteChar_quoteChar hmark, Option.some.injEq, Prod.mk.injEq] at hread
      obtain ⟨rfl, hrest⟩ := hread
      obtain ⟨rfl, hxy⟩ := ih hrest
      exact ⟨rfl, hxy⟩

/-- **A quoted text ends where its closing mark stands**, and is known by its quoted form. -/
theorem quoteChars_append_inj (h : quoteChars s ++ x = quoteChars s' ++ y) : s = s' ∧ x = y := by
  unfold quoteChars at h
  simp only [List.cons_append, List.append_assoc, List.nil_append, List.cons.injEq] at h
  obtain ⟨hmark, hrest⟩ := h
  rw [← hmark] at hrest
  exact flatMap_quoteChar_inj (quoteMark_eq s) hrest

end LinePrompt.Text
