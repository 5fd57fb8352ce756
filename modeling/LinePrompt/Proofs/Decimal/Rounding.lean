/-
Rounding a quotient to a binary number.

The exponent is the one that leaves 53 bits of the quotient, or the least one; there is only one such (`Fits.unique`),
and `exponentFor` finds it (`fits_exponentFor`). The mantissa is the nearest whole number. So every quotient between a
number and the middles to its neighbours is rounded to that number (`ofRatio_eq`): below a power of two the neighbour is
closer, and what lies there is rounded up across the power.
-/
import Mathlib.Algebra.Order.Field.Power
import Mathlib.Data.Rat.Cast.Order
import Mathlib.Tactic.FieldSimp
import Mathlib.Tactic.Linarith
import Mathlib.Tactic.NormNum
import Mathlib.Tactic.Positivity
import Mathlib.Tactic.Ring
import LinePrompt.Decimal.Binary

namespace LinePrompt.Decimal.Binary

/-! ## Numbers in their one form -/

/-- The mantissa has at most 53 bits, and it has 53 unless the exponent is the least one. -/
structure Normal (m : Nat) (e : Int) : Prop where
  small : m < 2 ^ 53
  least : -1074 ≤ e
  most : e ≤ 971
  full : e = -1074 ∨ 2 ^ 52 ≤ m

/-- a number in the form that its value has -/
def Sound : Binary → Prop
  | finite _ m e => Normal m e
  | infinite _ => True
  | notANumber => True

/-! ## The nearest whole number -/

/-- the whole number nearest to `v`, the even one of two that are equally near -/
structure Nearest (v : ℚ) (k : ℕ) : Prop where
  low : k - 1 / 2 ≤ v
  high : v ≤ k + 1 / 2
  even : v = k - 1 / 2 ∨ v = k + 1 / 2 → k % 2 = 0

variable {num den k m : ℕ} {e : ℤ} {v : ℚ}

theorem roundDiv_eq (hden : 0 < den) (h : Nearest (num / den) k) : roundDiv num den = k := by
  have hpos : (0 : ℚ) < den := by exact_mod_cast hden
  have hlow : 2 * k * den ≤ 2 * num + den := by
    have hcross := (le_div_iff₀ hpos).1 h.low
    have hdouble : (2 * k * den : ℚ) ≤ 2 * num + den := by linarith
    exact_mod_cast hdouble
  have hhigh : 2 * num ≤ 2 * k * den + den := by
    have hcross := (div_le_iff₀ hpos).1 h.high
    have hdouble : (2 * num : ℚ) ≤ 2 * k * den + den := by linarith
    exact_mod_cast hdouble
  have heven : 2 * k * den = 2 * num + den ∨ 2 * num = 2 * k * den + den → k % 2 = 0 := by
    intro htie
    refine h.even ?_
    rw [div_eq_iff hpos.ne', div_eq_iff hpos.ne']
    rcases htie with htie | htie
    · have hcast : (2 * k * den : ℚ) = 2 * num + den := by exact_mod_cast htie
      left
      linarith
    · have hcast : (2 * num : ℚ) = 2 * k * den + den := by exact_mod_cast htie
      right
      linarith
  have hsplit := Nat.div_add_mod num den
  have hrest := Nat.mod_lt num hden
  unfold roundDiv
  dsimp only
  generalize hq : num / den = q at *
  generalize hr : num % den = r at *
  -- the quotient is `k`, or one less with a remainder above the middle
  have hcases : k = q ∨ k = q + 1 := by
    rcases Nat.lt_or_ge k q with hlt | hge
    · have hstep : (k + 1) * den ≤ q * den := Nat.mul_le_mul_right den hlt
      nlinarith
    · rcases Nat.lt_or_ge (q + 1) k with hgt | hle
      · have hstep : (q + 2) * den ≤ k * den := Nat.mul_le_mul_right den hgt
        nlinarith
      · omega
  rcases hcases with rfl | rfl
  · have hmiddle : 2 * r ≤ den := by nlinarith
    rcases Nat.lt_or_eq_of_le hmiddle with hlt | htie
    · rw [if_pos hlt]
    · have hk := heven (Or.inr (by nlinarith))
      rw [if_neg (by omega), if_neg (by omega), hk, Nat.add_zero]
  · have hmiddle : den ≤ 2 * r := by nlinarith
    rcases Nat.lt_or_eq_of_le hmiddle with hlt | htie
    · rw [if_neg (by omega), if_pos hlt]
    · have hk := heven (Or.inl (by nlinarith))
      rw [if_neg (by omega), if_neg (by omega)]
      omega

/-- scaling is a division by the power of two, as one quotient of whole numbers -/
theorem scaled_ratio (num : ℕ) (hden : 0 < den) (e : ℤ) :
    ∃ n d : ℕ, 0 < d ∧ (n / d : ℚ) = num / den / 2 ^ e ∧ scaledDiv num den e = roundDiv n d ∧
      scaledFloor num den e = n / d := by
  have hpos : (den : ℚ) ≠ 0 := by exact_mod_cast hden.ne'
  by_cases he : 0 ≤ e
  · refine ⟨num, den * twoTo e.toNat, Nat.mul_pos hden (twoTo_pos _), ?_, ?_, ?_⟩
    · obtain ⟨n, rfl⟩ := Int.eq_ofNat_of_zero_le he
      simp [twoTo, div_div]
    · simp [scaledDiv, he]
    · simp [scaledFloor, he]
  · refine ⟨num * twoTo (-e).toNat, den, hden, ?_, ?_, ?_⟩
    · obtain ⟨n, hn⟩ := Int.eq_ofNat_of_zero_le (show 0 ≤ -e by omega)
      obtain rfl : e = -n := by omega
      simp [twoTo]
      ring
    · simp [scaledDiv, he]
    · simp [scaledFloor, he]

theorem scaledDiv_eq (hden : 0 < den) (h : Nearest (num / den / 2 ^ e) k) : scaledDiv num den e = k := by
  obtain ⟨n, d, hd, hratio, hdiv, -⟩ := scaled_ratio num hden e
  rw [hdiv]
  exact roundDiv_eq hd (hratio ▸ h)

theorem scaledFloor_lt (hden : 0 < den) (e : ℤ) (k : ℕ) :
    scaledFloor num den e < k ↔ (num / den : ℚ) < k * 2 ^ e := by
  obtain ⟨n, d, hd, hratio, -, hfloor⟩ := scaled_ratio num hden e
  have hpos : (0 : ℚ) < d := by exact_mod_cast hd
  rw [hfloor, Nat.div_lt_iff_lt_mul hd, ← div_lt_iff₀ (by positivity : (0 : ℚ) < 2 ^ e), ← hratio, div_lt_iff₀ hpos]
  exact_mod_cast Iff.rfl

/-! ## The exponent -/

/-- the exponent leaves 53 bits of the number, or it is the least one -/
structure Fits (v : ℚ) (e : ℤ) : Prop where
  least : -1074 ≤ e
  below : v < 2 ^ 53 * 2 ^ e
  full : e = -1074 ∨ 2 ^ 52 * 2 ^ e ≤ v

theorem Fits.le {e' : ℤ} (h : Fits v e) (h' : Fits v e') : e' ≤ e := by
  by_contra hnot
  have hlt : e < e' := not_le.1 hnot
  rcases h'.full with hleast | hfull
  · have := h.least
    omega
  · have hpower : (2 : ℚ) ^ (e + 1) ≤ 2 ^ e' := zpow_le_zpow_right₀ (by norm_num) hlt
    rw [zpow_add_one₀ (by norm_num)] at hpower
    have hbelow := h.below
    linarith

theorem Fits.unique {e' : ℤ} (h : Fits v e) (h' : Fits v e') : e = e' :=
  le_antisymm (h'.le h) (h.le h')

/-- a whole number between two powers of two -/
theorem log2_bounds {n : ℕ} (hn : 0 < n) : (2 : ℚ) ^ (n.log2 : ℤ) ≤ n ∧ (n : ℚ) < 2 * 2 ^ (n.log2 : ℤ) := by
  have hlow := Nat.log2_self_le hn.ne'
  have hhigh := Nat.lt_log2_self (n := n)
  rw [pow_succ] at hhigh
  rw [zpow_natCast]
  constructor
  · exact_mod_cast hlow
  · have hcast : (n : ℚ) < 2 ^ n.log2 * 2 := by exact_mod_cast hhigh
    linarith

theorem fits_exponentFor (hnum : 0 < num) (hden : 0 < den) : Fits (num / den) (exponentFor num den) := by
  obtain ⟨hnumLow, hnumHigh⟩ := log2_bounds hnum
  obtain ⟨hdenLow, hdenHigh⟩ := log2_bounds hden
  have hpos : (0 : ℚ) < den := by exact_mod_cast hden
  generalize hguess : (num.log2 : ℤ) - den.log2 - 52 = g
  have hpower : (2 : ℚ) ^ (num.log2 : ℤ) = 2 ^ 52 * 2 ^ g * 2 ^ (den.log2 : ℤ) := by
    rw [← zpow_natCast (2 : ℚ) 52, ← zpow_add₀ (by norm_num), ← zpow_add₀ (by norm_num)]
    congr 1
    simp only [Nat.cast_ofNat]
    omega
  have hunit : (0 : ℚ) < 2 ^ g := by positivity
  have hhigh : (num / den : ℚ) < 2 ^ 53 * 2 ^ g := by
    rw [div_lt_iff₀ hpos]
    nlinarith
  have hlow : 2 ^ 51 * 2 ^ g < (num / den : ℚ) := by
    rw [lt_div_iff₀ hpos]
    nlinarith
  have hexponent : exponentFor num den = max (if scaledFloor num den g < twoTo 52 then g - 1 else g) (-1074) := by
    rw [exponentFor, hguess]
  have hhalf : (2 : ℚ) ^ g = 2 * 2 ^ (g - 1) := by
    rw [zpow_sub_one₀ (by norm_num)]
    ring
  have hfloor : scaledFloor num den g < twoTo 52 ↔ (num / den : ℚ) < (twoTo 52 : ℕ) * 2 ^ g :=
    scaledFloor_lt hden g (twoTo 52)
  have htwo : ((twoTo 52 : ℕ) : ℚ) = 2 ^ 52 := by norm_num [twoTo]
  rw [htwo] at hfloor
  -- the exponent without the least one as a bound fits
  have hfits : ∀ e, (num / den : ℚ) < 2 ^ 53 * 2 ^ e → 2 ^ 52 * 2 ^ e ≤ (num / den : ℚ) →
      Fits (num / den) (max e (-1074)) := by
    intro e hbelow hfull
    rcases max_cases e (-1074) with ⟨heq, hle⟩ | ⟨heq, hlt⟩
    · rw [heq]
      exact ⟨hle, hbelow, Or.inr hfull⟩
    · rw [heq]
      refine ⟨le_rfl, lt_of_lt_of_le hbelow ?_, Or.inl rfl⟩
      have hmono : (2 : ℚ) ^ e ≤ 2 ^ (-1074 : ℤ) := zpow_le_zpow_right₀ (by norm_num) hlt.le
      linarith
  rw [hexponent]
  split_ifs with hshort
  · have hbelow := hfloor.1 hshort
    refine hfits _ ?_ ?_
    · rw [hhalf] at hbelow
      linarith
    · rw [hhalf] at hlow
      linarith
  · have hfull := not_lt.1 fun h => hshort (hfloor.2 h)
    exact hfits _ hhigh hfull

/-! ## Rounding -/

/-- how far down the numbers that are rounded to this one reach, in units of its last place -/
def reach (m : ℕ) (e : ℤ) : ℚ := if m = 2 ^ 52 ∧ -1074 < e then 1 / 4 else 1 / 2

theorem reach_le (m : ℕ) (e : ℤ) : reach m e ≤ 1 / 2 := by
  unfold reach
  split_ifs <;> norm_num

theorem reach_odd (hodd : m % 2 = 1) : reach m e = 1 / 2 := by
  unfold reach
  rw [if_neg]
  rintro ⟨rfl, -⟩
  norm_num at hodd

/-- between a number and the middles to its neighbours; the middles count if the mantissa is even -/
structure Near (m : ℕ) (e : ℤ) (v : ℚ) : Prop where
  low : (m - reach m e) * 2 ^ e ≤ v
  high : v ≤ (m + 1 / 2) * 2 ^ e
  inside : m % 2 = 1 → v ≠ (m - reach m e) * 2 ^ e ∧ v ≠ (m + 1 / 2) * 2 ^ e

theorem Near.nearest (h : Near m e v) : Nearest (v / 2 ^ e) m := by
  have hunit : (0 : ℚ) < 2 ^ e := by positivity
  have hreach := reach_le m e
  have hlow := h.low
  refine ⟨?_, (div_le_iff₀ hunit).2 h.high, ?_⟩
  · rw [le_div_iff₀ hunit]
    nlinarith
  · intro htie
    by_contra hodd
    have hodd : m % 2 = 1 := by omega
    obtain ⟨hnotLow, hnotHigh⟩ := h.inside hodd
    rw [reach_odd hodd] at hnotLow
    rw [div_eq_iff hunit.ne', div_eq_iff hunit.ne'] at htie
    exact htie.elim hnotLow hnotHigh

section OfRatio

variable {negative : Bool} (hnum : 0 < num) (hden : 0 < den)

include hnum hden

theorem ofRatio_of_nearest (hfits : Fits (num / den) e) (h : Nearest (num / den / 2 ^ e) k) (hk : k ≠ 2 ^ 53)
    (he : e ≤ 971) : ofRatio negative num den = finite negative k e := by
  obtain rfl := (fits_exponentFor hnum hden).unique hfits
  have hcarry : k ≠ twoTo 53 := hk
  simp only [ofRatio, if_neg hnum.ne', scaledDiv_eq hden h, if_neg hcarry, if_neg (not_lt.2 he)]

/-- a mantissa that is rounded up to a bit too many is halved -/
theorem ofRatio_of_carry (hfits : Fits (num / den) e) (h : Nearest (num / den / 2 ^ e) (2 ^ 53)) (he : e + 1 ≤ 971) :
    ofRatio negative num den = finite negative (2 ^ 52) (e + 1) := by
  obtain rfl := (fits_exponentFor hnum hden).unique hfits
  have hcarry : 2 ^ 53 = twoTo 53 := rfl
  simp only [ofRatio, if_neg hnum.ne', scaledDiv_eq hden h, if_pos hcarry, if_neg (not_lt.2 he)]
  rfl

/-- a number is rounded to the one that it is near to -/
theorem ofRatio_eq (hm : Normal m e) (h : Near m e (num / den)) : ofRatio negative num den = finite negative m e := by
  have hunit : (0 : ℚ) < 2 ^ e := by positivity
  have hsmall : (m : ℚ) + 1 ≤ 2 ^ 53 := by exact_mod_cast hm.small
  have hlow := h.low
  have hhigh := h.high
  by_cases hcross : -1074 < e ∧ (num / den : ℚ) < 2 ^ 52 * 2 ^ e
  · -- just below a power of two: the exponent is one less, and the rounding carries
    obtain ⟨hleast, hbelow⟩ := hcross
    have hfull : 2 ^ 52 ≤ m := hm.full.resolve_left hleast.ne'
    obtain rfl : m = 2 ^ 52 := by
      refine le_antisymm ?_ hfull
      by_contra hmore
      have hcast : (2 : ℚ) ^ 52 + 1 ≤ m := by exact_mod_cast not_le.1 hmore
      have hreach := reach_le m e
      nlinarith
    have hreach : reach (2 ^ 52) e = 1 / 4 := if_pos ⟨rfl, hleast⟩
    have hhalf : (2 : ℚ) ^ e = 2 * 2 ^ (e - 1) := by
      rw [zpow_sub_one₀ (by norm_num)]
      ring
    have hunit' : (0 : ℚ) < 2 ^ (e - 1) := by positivity
    rw [hreach] at hlow
    rw [hhalf] at hlow hbelow
    push_cast at hlow
    have hfits' : Fits (num / den) (e - 1) := ⟨by omega, by linarith, Or.inr (by linarith)⟩
    have hnearest : Nearest (num / den / 2 ^ (e - 1)) (2 ^ 53) := by
      refine ⟨?_, ?_, fun _ => by norm_num⟩
      · rw [le_div_iff₀ hunit']
        push_cast
        linarith
      · rw [div_le_iff₀ hunit']
        push_cast
        linarith
    have hmost := hm.most
    have hrounded : ofRatio negative num den = finite negative (2 ^ 52) (e - 1 + 1) :=
      ofRatio_of_carry hnum hden hfits' hnearest (by omega)
    rwa [sub_add_cancel] at hrounded
  · have hfits' : Fits (num / den) e := by
      refine ⟨hm.least, by nlinarith, ?_⟩
      by_cases he : e = -1074
      · exact Or.inl he
      · have hleast := hm.least
        exact Or.inr (not_lt.1 fun hbelow => hcross ⟨by omega, hbelow⟩)
    exact ofRatio_of_nearest hnum hden hfits' h.nearest (Nat.ne_of_lt hm.small) hm.most

end OfRatio

/-- what is rounded to has its one form -/
theorem sound_ofRatio (negative : Bool) (num : ℕ) (hden : 0 < den) : (ofRatio negative num den).Sound := by
  by_cases hzero : num = 0
  · rw [ofRatio, if_pos hzero]
    exact ⟨by norm_num, le_rfl, by norm_num, Or.inl rfl⟩
  · have hfits := fits_exponentFor (Nat.pos_of_ne_zero hzero) hden
    obtain ⟨n, d, hd, hratio, hdiv, -⟩ := scaled_ratio num hden (exponentFor num den)
    have hpos : (0 : ℚ) < d := by exact_mod_cast hd
    have hunit : (0 : ℚ) < 2 ^ exponentFor num den := by positivity
    have hbelow : n / d < 2 ^ 53 := by
      have hlt := (div_lt_iff₀ hunit).2 hfits.below
      rw [← hratio, div_lt_iff₀ hpos] at hlt
      rw [Nat.div_lt_iff_lt_mul hd]
      exact_mod_cast hlt
    have hfull : exponentFor num den = -1074 ∨ 2 ^ 52 ≤ n / d := by
      refine hfits.full.imp_right fun hle => ?_
      have hle := (le_div_iff₀ hunit).2 hle
      rw [← hratio, le_div_iff₀ hpos] at hle
      rw [Nat.le_div_iff_mul_le hd]
      exact_mod_cast hle
    have hup := roundDiv_le n d
    have hdown := le_roundDiv n d
    rw [ofRatio, if_neg hzero]
    dsimp only
    rw [hdiv]
    have hleast := hfits.least
    generalize exponentFor num den = e at hleast hfull ⊢
    split_ifs with hcarry hinfinite hinfinite
    · trivial
    · exact ⟨by norm_num [twoTo], by omega, by omega, Or.inr le_rfl⟩
    · trivial
    · have hne : roundDiv n d ≠ 2 ^ 53 := hcarry
      exact ⟨by omega, hleast, by omega, hfull.imp_right fun h => by omega⟩

theorem Sound.negate {x : Binary} (h : x.Sound) : x.negate.Sound := by
  cases x with
  | finite s m e => exact h
  | infinite s => trivial
  | notANumber => trivial

/-- a sum is rounded -/
theorem sound_add {x y : Binary} : (x.add y).Sound := by
  unfold add
  split
  · exact sound_ofRatio _ _ (twoTo_pos _)
  · split <;> trivial
  · trivial
  · trivial
  · trivial

end LinePrompt.Decimal.Binary
