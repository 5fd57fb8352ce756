/-
Hexadecimal digits of a number, in a fixed width, and their value back.

`hexValue_hexDigits`: a number that fits the width is read back from its digits.
-/
namespace LinePrompt.Text

/-- one hexadecimal digit, lower case; `n` is below 16 -/
def hexDigit (n : Nat) : Char :=
  if n < 10 then Char.ofNat (48 + n) else Char.ofNat (87 + n)

/-- the lowest `width` hexadecimal digits, highest first -/
def hexDigits : Nat → Nat → List Char
  | 0, _ => []
  | width + 1, n => hexDigits width (n / 16) ++ [hexDigit (n % 16)]

/-- the same in capitals -/
def hexDigitsUpper (width n : Nat) : List Char := (hexDigits width n).map Char.toUpper

/-- the value of a hexadecimal digit of either case -/
def hexValue? (c : Char) : Option Nat :=
  let n := c.toNat
  if 48 ≤ n ∧ n ≤ 57 then some (n - 48)
  else if 97 ≤ n ∧ n ≤ 102 then some (n - 87)
  else if 65 ≤ n ∧ n ≤ 70 then some (n - 55)
  else none

/-- the number that hexadecimal digits spell, none when one is no digit -/
def hexNumber? (cs : List Char) : Option Nat :=
  cs.foldl (fun acc c => acc.bind fun a => (hexValue? c).map (16 * a + ·)) (some 0)

theorem hexValue?_hexDigit {n : Nat} (h : n < 16) : hexValue? (hexDigit n) = some n := by
  have : ∀ m : Fin 16, hexValue? (hexDigit m.val) = some m.val := by decide
  exact this ⟨n, h⟩

theorem hexNumber?_append_digit (cs : List Char) (c : Char) :
    hexNumber? (cs ++ [c]) = (hexNumber? cs).bind fun a => (hexValue? c).map (16 * a + ·) := by
  simp [hexNumber?, List.foldl_append]

theorem hexValue_hexDigits (width n : Nat) (h : n < Nat.pow 16 width) : hexNumber? (hexDigits width n) = some n := by
  induction width generalizing n with
  | zero => simp at h; subst h; rfl
  | succ width ih =>
    have h : n < Nat.pow 16 width * 16 := h
    have hq : n / 16 < Nat.pow 16 width := Nat.div_lt_of_lt_mul (by omega)
    have hr : n % 16 < 16 := Nat.mod_lt _ (by decide)
    rw [hexDigits, hexNumber?_append_digit, ih _ hq, Option.bind_some, hexValue?_hexDigit hr]
    simp
    omega

@[simp] theorem length_hexDigits (width n : Nat) : (hexDigits width n).length = width := by
  induction width generalizing n with
  | zero => rfl
  | succ width ih => simp [hexDigits, ih]

theorem mem_hexDigits {width n : Nat} {c : Char} (h : c ∈ hexDigits width n) : ∃ m : Fin 16, c = hexDigit m.val := by
  induction width generalizing n with
  | zero => cases h
  | succ width ih =>
    rw [hexDigits, List.mem_append, List.mem_singleton] at h
    rcases h with h | rfl
    · exact ih h
    · exact ⟨⟨n % 16, Nat.mod_lt _ (by decide)⟩, rfl⟩

end LinePrompt.Text
