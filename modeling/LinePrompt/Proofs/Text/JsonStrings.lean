/-
A string is read back from its JSON form, whatever stands behind it.

Each character is read back from its spelling (`readChar?_spell`), which has no quote at its front and holds printable
ASCII characters alone. So the closing quote is found where it stands (`readString?_flatMap`), and no character of the
string breaks the line that its form stands on (`isPlain_string`).
-/
import Mathlib.Tactic.Common
import LinePrompt.Text.Json
import LinePrompt.Text.Json.Value

namespace LinePrompt.Text.Json

variable {c : Char} {s : List Char}

/-! ## Units -/

theorem readUnit?_hexDigits {n : Nat} (h : n < 0x10000) (rest : List Char) :
    readUnit? (hexDigits 4 n ++ rest) = some (n, rest) := by
  have hvalue : hexNumber? (hexDigits 4 n) = some n := hexValue_hexDigits 4 n h
  show (hexNumber? (hexDigits 4 n)).map (·, rest) = some (n, rest)
  rw [hvalue]
  rfl

theorem readLowHalf?_unit {m : Nat} (hlow : 0xDC00 ≤ m) (hhigh : m ≤ 0xDFFF) (rest : List Char) :
    readLowHalf? (unit m ++ rest) = some (m, rest) := by
  show (readUnit? (hexDigits 4 m ++ rest)).filter _ = _
  rw [readUnit?_hexDigits (by omega), Option.filter_some_pos]
  simpa using ⟨hlow, hhigh⟩

/-- what a character's number can be: the halves of pairs are left out -/
theorem toNat_cases (c : Char) : c.toNat < 0xD800 ∨ (0xDFFF < c.toNat ∧ c.toNat < 0x110000) := c.valid

/-- a character of the first plane is read back from its unit -/
theorem readUnits?_unit {n : Nat} (hplane : n < 0x10000) (hwhole : n < 0xD800 ∨ 0xDFFF < n) (rest : List Char) :
    readUnits? (hexDigits 4 n ++ rest) = some (Char.ofNat n, rest) := by
  rw [readUnits?, readUnit?_hexDigits hplane]
  dsimp only
  rw [if_pos hwhole]

/-- two halves are read as a pair -/
theorem readUnits?_pair {n m : Nat} (hn : 0xD800 ≤ n) (hn' : n ≤ 0xDBFF) (hm : 0xDC00 ≤ m) (hm' : m ≤ 0xDFFF)
    (rest : List Char) : readUnits? (hexDigits 4 n ++ (unit m ++ rest)) =
      some (Char.ofNat (0x10000 + (n - 0xD800) * 0x400 + (m - 0xDC00)), rest) := by
  have hfirst : ¬ (n < 0xD800 ∨ 0xDFFF < n) := by omega
  have hsecond : ¬ 0xDBFF < n := by omega
  have hunit := readUnit?_hexDigits (show n < 0x10000 by omega) (unit m ++ rest)
  unfold readUnits?
  simp only [hunit, if_neg hfirst, if_neg hsecond, readLowHalf?_unit hm hm', Option.map_some]

theorem readChar?_unit (n : Nat) (rest : List Char) :
    readChar? (unit n ++ rest) = readUnits? (hexDigits 4 n ++ rest) := rfl

/-- a character is read back from its units -/
theorem readChar?_units (c : Char) (rest : List Char) : readChar? (units c ++ rest) = some (c, rest) := by
  unfold units
  dsimp only
  split_ifs with hplane
  · have hwhole : c.toNat < 0xD800 ∨ 0xDFFF < c.toNat := (toNat_cases c).imp_right And.left
    rw [readChar?_unit, readUnits?_unit hplane hwhole, Char.ofNat_toNat]
  · have hbound : c.toNat < 0x110000 := by
      rcases toNat_cases c with h | ⟨-, h⟩ <;> omega
    -- the halves hold the upper and the lower ten bits of what is beyond the first plane
    generalize hn : 0xD800 + (c.toNat - 0x10000) / 0x400 = n
    generalize hm : 0xDC00 + (c.toNat - 0x10000) % 0x400 = m
    have hback : 0x10000 + (n - 0xD800) * 0x400 + (m - 0xDC00) = c.toNat := by omega
    rw [List.append_assoc, readChar?_unit, readUnits?_pair (by omega) (by omega) (by omega) (by omega), hback,
      Char.ofNat_toNat]

/-! ## Characters -/

theorem readChar?_plain (hquote : c ≠ '"') (hslash : c ≠ '\\') (hprintable : 32 ≤ c.toNat) (rest : List Char) :
    readChar? (c :: rest) = some (c, rest) := by
  have hplain : ¬ (c = '"' ∨ c = '\\' ∨ c.toNat < 32) := by
    rintro (h | h | h)
    · exact hquote h
    · exact hslash h
    · omega
  unfold readChar?
  split
  · simp_all
  · simp_all
  · rename_i heq
    obtain ⟨rfl, rfl⟩ := List.cons.inj heq
    rw [if_neg hplain]
  · simp_all

theorem eq_of_toNat {n : Nat} (h : c.toNat = n) : c = Char.ofNat n := by
  rw [← h, Char.ofNat_toNat]

/-- **A character is read back from its spelling**, whatever stands behind it. -/
theorem readChar?_spell (c : Char) (rest : List Char) : readChar? (spell c ++ rest) = some (c, rest) := by
  unfold spell
  split_ifs with hmark hfeed hreturn htab hback hform hprintable
  · rcases hmark with rfl | rfl <;> rfl
  · rw [hfeed]
    rfl
  · rw [hreturn]
    rfl
  · rw [htab]
    rfl
  · rw [eq_of_toNat hback]
    rfl
  · rw [eq_of_toNat hform]
    rfl
  · apply readChar?_plain
    · exact fun h => hmark (Or.inl h)
    · exact fun h => hmark (Or.inr h)
    · exact hprintable.1
  · exact readChar?_units c rest

/-- a spelling starts with a backslash, or it is the character, which is no quote -/
theorem spell_eq_cons (c : Char) : ∃ x more, spell c = x :: more ∧ x ≠ '"' := by
  have hslash : '\\' ≠ '"' := by decide
  unfold spell
  split_ifs with hmark
  · exact ⟨'\\', _, rfl, hslash⟩
  · exact ⟨'\\', _, rfl, hslash⟩
  · exact ⟨'\\', _, rfl, hslash⟩
  · exact ⟨'\\', _, rfl, hslash⟩
  · exact ⟨'\\', _, rfl, hslash⟩
  · exact ⟨'\\', _, rfl, hslash⟩
  · exact ⟨c, _, rfl, fun h => hmark (Or.inl h)⟩
  · unfold units
    dsimp only
    split_ifs
    · exact ⟨'\\', _, rfl, hslash⟩
    · exact ⟨'\\', _, rfl, hslash⟩

/-! ## Strings -/

/-- the characters are read up to the quote behind the last one -/
theorem readChars?_flatMap {n : Nat} (hn : s.length < n) (rest : List Char) :
    readChars? n (s.flatMap spell ++ '"' :: rest) = some (s, rest) := by
  induction s generalizing n with
  | nil =>
    obtain ⟨m, rfl⟩ := Nat.exists_eq_succ_of_ne_zero (Nat.ne_of_gt hn)
    rfl
  | cons c s ih =>
    obtain ⟨m, rfl⟩ := Nat.exists_eq_succ_of_ne_zero (Nat.ne_of_gt (Nat.zero_lt_of_lt hn))
    have hread := readChar?_spell c (s.flatMap spell ++ '"' :: rest)
    obtain ⟨x, more, hspell, hx⟩ := spell_eq_cons c
    rw [List.flatMap_cons, List.append_assoc]
    rw [hspell, List.cons_append] at hread ⊢
    rw [readChars?]
    · simp only [hread, ih (Nat.lt_of_succ_lt_succ hn), Option.map_some]
    · intro rest' h
      exact hx (List.cons.inj h).1

theorem length_le_flatMap_spell (s : List Char) : s.length ≤ (s.flatMap spell).length := by
  induction s with
  | nil => exact Nat.zero_le _
  | cons c s ih =>
    obtain ⟨x, more, hspell, -⟩ := spell_eq_cons c
    rw [List.flatMap_cons, List.length_append, hspell]
    simp only [List.length_cons]
    omega

/-- **A string is read back from its form**, whatever stands behind it. -/
theorem readString?_flatMap (s rest : List Char) :
    readString? (s.flatMap spell ++ '"' :: rest) = some (String.ofList s, rest) := by
  have hlength : s.length < (s.flatMap spell ++ '"' :: rest).length := by
    have hle := length_le_flatMap_spell s
    simp only [List.length_append, List.length_cons]
    omega
  rw [readString?, readChars?_flatMap hlength]
  rfl

theorem string_append (s rest : List Char) : string s ++ rest = '"' :: (s.flatMap spell ++ '"' :: rest) := by
  simp [string]

theorem readValue?_string (depth : Nat) (s rest : List Char) :
    readValue? (depth + 1) (string s ++ rest) = some (.string (String.ofList s), rest) := by
  have hfront : skipBlanks ('"' :: (s.flatMap spell ++ '"' :: rest)) = '"' :: (s.flatMap spell ++ '"' :: rest) := rfl
  unfold readValue?
  rw [string_append, hfront]
  simp only [readString?_flatMap, Option.map_some]

/-- an entry whose value is a string, with or without a blank in front -/
theorem readPair?_string (depth : Nat) (name s rest : List Char) :
    readPair? (readValue? (depth + 1)) (string name ++ ':' :: ' ' :: (string s ++ rest)) =
      some ((String.ofList name, .string (String.ofList s)), rest) := by
  have hfront (cs : List Char) : skipBlanks ('"' :: cs) = '"' :: cs := rfl
  have hcolon (cs : List Char) : skipBlanks (':' :: cs) = ':' :: cs := rfl
  have hblank (cs : List Char) : readValue? (depth + 1) (' ' :: cs) = readValue? (depth + 1) cs := rfl
  unfold readPair?
  rw [string_append, hfront]
  simp only [readString?_flatMap, bind, Option.bind, hcolon, hblank, readValue?_string, Option.map_some]

/-! ## Printable characters -/

/-- printable ASCII, which holds no line break -/
def IsPlain (c : Char) : Prop := 32 ≤ c.toNat ∧ c.toNat ≤ 126

instance (c : Char) : Decidable (IsPlain c) := inferInstanceAs (Decidable (_ ∧ _))

theorem isPlain_unit (n : Nat) : ∀ x ∈ unit n, IsPlain x := by
  have hdigit : ∀ m : Fin 16, IsPlain (hexDigit m.val) := by decide
  intro x hx
  simp only [unit, List.cons_append, List.nil_append, List.mem_cons] at hx
  rcases hx with rfl | rfl | hx
  · decide
  · decide
  · obtain ⟨m, rfl⟩ := mem_hexDigits hx
    exact hdigit m

theorem isPlain_units (c : Char) : ∀ x ∈ units c, IsPlain x := by
  unfold units
  dsimp only
  split_ifs
  · exact isPlain_unit _
  · intro x hx
    rcases List.mem_append.1 hx with hx | hx
    · exact isPlain_unit _ x hx
    · exact isPlain_unit _ x hx

theorem isPlain_spell (c : Char) : ∀ x ∈ spell c, IsPlain x := by
  have hletter : ∀ letter : Char, IsPlain letter → ∀ x ∈ ['\\', letter], IsPlain x := by
    intro letter hletter
    exact List.forall_mem_cons.2 ⟨by decide, List.forall_mem_singleton.2 hletter⟩
  unfold spell
  split_ifs with hmark hfeed hreturn htab hback hform hprintable
  · apply hletter
    rcases hmark with rfl | rfl <;> decide
  · exact hletter 'n' (by decide)
  · exact hletter 'r' (by decide)
  · exact hletter 't' (by decide)
  · exact hletter 'b' (by decide)
  · exact hletter 'f' (by decide)
  · exact List.forall_mem_singleton.2 hprintable
  · exact isPlain_units c

/-- **The form of a string is printable ASCII**, whatever the string is. -/
theorem isPlain_string (s : List Char) : ∀ x ∈ string s, IsPlain x := by
  intro x hx
  simp only [string, List.mem_cons, List.mem_append, List.mem_flatMap, List.not_mem_nil, or_false] at hx
  rcases hx with rfl | ⟨c, -, hx⟩ | rfl
  · decide
  · exact isPlain_spell c x hx
  · decide

end LinePrompt.Text.Json
