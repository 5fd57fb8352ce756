/-
The digits that a number is shown with.

`Interval.has` says of a point on a decimal grid that it lies between the number and the middles to its neighbours
(`has_iff`). The search goes from coarse grids to fine ones, and it cannot fail: the distance between the points of a
grid of 17 digits is less than that between the two middles (`near_grid`). So the digits that are found stand for a
decimal which is rounded to the number again (`shortest_spec`).
-/
import LinePrompt.Decimal.Shortest
import LinePrompt.Proofs.Decimal.Rounding

namespace LinePrompt.Decimal

open Binary

variable {m n : ℕ} {e k : ℤ}

/-! ## The interval of a number -/

theorem zpow_split (b : ℚ) (k : ℤ) : b ^ k = b ^ k.toNat / b ^ (-k).toNat := by
  rcases Int.le_total 0 k with hk | hk
  · obtain ⟨n, rfl⟩ := Int.eq_ofNat_of_zero_le hk
    simp
  · obtain ⟨n, hn⟩ := Int.eq_ofNat_of_zero_le (show 0 ≤ -k by omega)
    obtain rfl : k = -n := by omega
    simp

namespace Interval

theorem den_pos (m : ℕ) (e : ℤ) : 0 < (Interval.of m e).den := Nat.mul_pos (by decide) (twoTo_pos _)

theorem cast_twoTo (n : ℕ) : ((twoTo n : ℕ) : ℚ) = 2 ^ n := by simp [twoTo]

theorem value_ratio (m : ℕ) (e : ℤ) : ((Interval.of m e).value / (Interval.of m e).den : ℚ) = m * 2 ^ e := by
  rw [zpow_split]
  simp only [Interval.of]
  push_cast [cast_twoTo]
  field_simp

theorem high_ratio (m : ℕ) (e : ℤ) :
    ((Interval.of m e).high / (Interval.of m e).den : ℚ) = (m + 1 / 2) * 2 ^ e := by
  rw [zpow_split]
  simp only [Interval.of]
  push_cast [cast_twoTo]
  field_simp
  ring

theorem low_ratio (hm : 0 < m) (e : ℤ) :
    ((Interval.of m e).low / (Interval.of m e).den : ℚ) = (m - reach m e) * 2 ^ e := by
  have hbelow : ∃ b : ℕ, b ≤ 2 ∧ (Interval.of m e).low = (4 * m - b) * twoTo e.toNat ∧ (b : ℚ) = 4 * reach m e := by
    by_cases hpower : m = twoTo 52 ∧ -1074 < e
    · refine ⟨1, by decide, by simp only [Interval.of, if_pos hpower], ?_⟩
      have hreach : reach m e = 1 / 4 := if_pos hpower
      rw [hreach]
      norm_num
    · refine ⟨2, le_rfl, by simp only [Interval.of, if_neg hpower], ?_⟩
      have hreach : reach m e = 1 / 2 := if_neg hpower
      rw [hreach]
      norm_num
  obtain ⟨b, hb, hlow, hreach⟩ := hbelow
  have hden : (Interval.of m e).den = 4 * twoTo (-e).toNat := rfl
  rw [hlow, hden, Nat.cast_mul, Nat.cast_sub (by omega), zpow_split]
  push_cast [cast_twoTo]
  rw [hreach]
  field_simp

/-- the points of a grid in the interval are those near to the number -/
theorem has_iff (hm : 0 < m) (n : ℕ) (k : ℤ) : (Interval.of m e).has n k = true ↔ Near m e (n * 10 ^ k) := by
  have hden : (0 : ℚ) < (Interval.of m e).den := by exact_mod_cast den_pos m e
  have hunit : (0 : ℚ) < 10 ^ (-k).toNat := by positivity
  have hscaled : (n * 10 ^ k : ℚ) = n * 10 ^ k.toNat / 10 ^ (-k).toNat := by
    rw [zpow_split]
    ring
  have hlow := low_ratio hm e
  have hhigh := high_ratio m e
  have hlowLe : (m - reach m e) * 2 ^ e ≤ (n * 10 ^ k : ℚ) ↔
      (Interval.of m e).low * tenTo (-k).toNat ≤ n * tenTo k.toNat * (Interval.of m e).den := by
    rw [← hlow, hscaled, div_le_div_iff₀ hden hunit]
    exact_mod_cast Iff.rfl
  have hlowLt : (m - reach m e) * 2 ^ e < (n * 10 ^ k : ℚ) ↔
      (Interval.of m e).low * tenTo (-k).toNat < n * tenTo k.toNat * (Interval.of m e).den := by
    rw [← hlow, hscaled, div_lt_div_iff₀ hden hunit]
    exact_mod_cast Iff.rfl
  have hhighLe : (n * 10 ^ k : ℚ) ≤ (m + 1 / 2) * 2 ^ e ↔
      n * tenTo k.toNat * (Interval.of m e).den ≤ (Interval.of m e).high * tenTo (-k).toNat := by
    rw [← hhigh, hscaled, div_le_div_iff₀ hunit hden]
    exact_mod_cast Iff.rfl
  have hhighLt : (n * 10 ^ k : ℚ) < (m + 1 / 2) * 2 ^ e ↔
      n * tenTo k.toNat * (Interval.of m e).den < (Interval.of m e).high * tenTo (-k).toNat := by
    rw [← hhigh, hscaled, div_lt_div_iff₀ hunit hden]
    exact_mod_cast Iff.rfl
  have hclosed : (Interval.of m e).closed = decide (m % 2 = 0) := rfl
  unfold has
  rcases Nat.mod_two_eq_zero_or_one m with heven | hodd
  · simp only [hclosed, heven, decide_true, if_true, Bool.and_eq_true, decide_eq_true_eq, ← hlowLe, ← hhighLe]
    exact ⟨fun ⟨hl, hh⟩ => ⟨hl, hh, fun hodd => by omega⟩, fun h => ⟨h.low, h.high⟩⟩
  · simp only [hclosed, hodd, one_ne_zero, decide_false, Bool.false_eq_true, if_false, Bool.and_eq_true,
      decide_eq_true_eq, ← hlowLt, ← hhighLt]
    constructor
    · rintro ⟨hl, hh⟩
      exact ⟨hl.le, hh.le, fun _ => ⟨hl.ne', hh.ne⟩⟩
    · intro h
      obtain ⟨hneLow, hneHigh⟩ := h.inside hodd
      exact ⟨lt_of_le_of_ne h.low hneLow.symm, lt_of_le_of_ne h.high hneHigh⟩

theorem floorAt_lt (m : ℕ) (e k : ℤ) (n : ℕ) : (Interval.of m e).floorAt k < n ↔ (m * 2 ^ e : ℚ) < n * 10 ^ k := by
  have hden : (0 : ℚ) < (Interval.of m e).den := by exact_mod_cast den_pos m e
  rw [← value_ratio, zpow_split, mul_div_assoc', div_lt_div_iff₀ hden (by positivity)]
  unfold floorAt
  split_ifs with hk
  · rw [Nat.div_lt_iff_lt_mul (Nat.mul_pos (den_pos m e) (tenTo_pos _)), show (-k).toNat = 0 by omega]
    simp only [tenTo, pow_zero, mul_one]
    rw [show n * ((Interval.of m e).den * Nat.pow 10 k.toNat) = n * 10 ^ k.toNat * (Interval.of m e).den by
      simp only [Nat.pow_eq]; ring]
    exact_mod_cast Iff.rfl
  · rw [Nat.div_lt_iff_lt_mul (den_pos m e), show k.toNat = 0 by omega]
    simp only [tenTo, pow_zero, mul_one]
    exact_mod_cast Iff.rfl

theorem le_floorAt (m : ℕ) (e k : ℤ) (n : ℕ) : n ≤ (Interval.of m e).floorAt k ↔ (n * 10 ^ k : ℚ) ≤ m * 2 ^ e := by
  rw [← not_lt, floorAt_lt, not_lt]

/-! ## A point of a grid -/

variable {i : Interval}

theorem gridPoint?_some (h : i.gridPoint? k = some n) :
    i.has n k = true ∧ (n = i.floorAt k ∧ n ≠ 0 ∨ n = i.floorAt k + 1) := by
  unfold gridPoint? at h
  simp only [Bool.and_eq_true, bne_iff_ne] at h
  split_ifs at h with hboth hnearer hlower hupper
  · obtain rfl := Option.some.inj h
    exact ⟨hboth.1.2, Or.inl ⟨rfl, hboth.1.1⟩⟩
  · obtain rfl := Option.some.inj h
    exact ⟨hboth.2, Or.inr rfl⟩
  · obtain rfl := Option.some.inj h
    exact ⟨hlower.2, Or.inl ⟨rfl, hlower.1⟩⟩
  · obtain rfl := Option.some.inj h
    exact ⟨hupper, Or.inr rfl⟩

theorem exists_gridPoint? (h : i.floorAt k ≠ 0 ∧ i.has (i.floorAt k) k = true ∨ i.has (i.floorAt k + 1) k = true) :
    ∃ n, i.gridPoint? k = some n := by
  unfold gridPoint?
  simp only [Bool.and_eq_true, bne_iff_ne]
  split_ifs with hboth hnearer hlower hupper
  · exact ⟨_, rfl⟩
  · exact ⟨_, rfl⟩
  · exact ⟨_, rfl⟩
  · exact ⟨_, rfl⟩
  · exact absurd h (by rintro (h | h); exacts [hlower h, hupper h])

/-- the search ends at the first grid with a point -/
theorem search_eq (point : ℤ) (bound count c : ℕ) (hlow : count ≤ c) (hhigh : c < count + bound)
    (h : ∃ n, i.gridPoint? (point - c) = some n) :
    ∃ c n : ℕ, count ≤ c ∧ i.gridPoint? (point - c) = some n ∧
      i.search point bound count = if n = tenTo c then ⟨1, 1, point + 1⟩ else ⟨n, c, point⟩ := by
  induction bound generalizing count with
  | zero => omega
  | succ bound ih =>
    rcases hpoint : i.gridPoint? (point - count) with _ | n
    · obtain ⟨n, hn⟩ := h
      have hne : c ≠ count := by
        rintro rfl
        rw [hpoint] at hn
        cases hn
      obtain ⟨c', n', hle, hsome, hsearch⟩ := ih (count + 1) (by omega) (by omega)
      refine ⟨c', n', by omega, hsome, ?_⟩
      rw [search, hpoint]
      exact hsearch
    · refine ⟨count, n, le_rfl, hpoint, ?_⟩
      rw [search, hpoint]

end Interval

/-! ## The place of the point -/

/-- the first digit of a number stands right behind the point -/
structure PointAt (v : ℚ) (p : ℤ) : Prop where
  low : 10 ^ (p - 1) ≤ v
  high : v < 10 ^ p

theorem pointAt_pointFrom {bound : ℕ} {p : ℤ} (hlow : (10 ^ (p - 1) : ℚ) ≤ m * 2 ^ e)
    (hhigh : (m * 2 ^ e : ℚ) < 10 ^ (p + bound)) :
    PointAt (m * 2 ^ e) ((Interval.of m e).pointFrom bound p) ∧ p ≤ (Interval.of m e).pointFrom bound p ∧
      (Interval.of m e).pointFrom bound p ≤ p + bound := by
  induction bound generalizing p with
  | zero => exact ⟨⟨hlow, by simpa [Interval.pointFrom] using hhigh⟩, le_rfl, by simp [Interval.pointFrom]⟩
  | succ bound ih =>
    unfold Interval.pointFrom
    split_ifs with hfloor
    · have hbelow := (Interval.floorAt_lt m e p 1).1 (by omega)
      exact ⟨⟨hlow, by simpa using hbelow⟩, le_rfl, by omega⟩
    · have habove := (Interval.le_floorAt m e p 1).1 (by omega)
      obtain ⟨hat, hge, hle⟩ := ih (p := p + 1) (by simpa using habove)
        (by rwa [show p + 1 + (bound : ℤ) = p + (bound + 1 : ℕ) by push_cast; ring])
      exact ⟨hat, by omega, by push_cast; omega⟩

/-- Powers of ten and of two compare as their exponents do, by two fractions between which the logarithm lies. -/
theorem ten_le_two {a b : ℤ} (h : 0 ≤ b ∧ 196 * a ≤ 59 * b ∨ b ≤ 0 ∧ 93 * a ≤ 28 * b) : (10 : ℚ) ^ a ≤ 2 ^ b := by
  rcases h with ⟨hb, hab⟩ | ⟨hb, hab⟩
  · refine (pow_le_pow_iff_left₀ (by positivity) (by positivity) (n := 196) (by norm_num)).1 ?_
    calc ((10 : ℚ) ^ a) ^ 196 = 10 ^ (196 * a) := by rw [← zpow_natCast, ← zpow_mul, mul_comm]; norm_num
      _ ≤ 10 ^ (59 * b) := zpow_le_zpow_right₀ (by norm_num) hab
      _ = ((10 : ℚ) ^ 59) ^ b := by rw [zpow_mul]; norm_num
      _ ≤ ((2 : ℚ) ^ 196) ^ b := by
        obtain ⟨n, rfl⟩ := Int.eq_ofNat_of_zero_le hb
        exact pow_le_pow_left₀ (by positivity) (by norm_num) n
      _ = ((2 : ℚ) ^ b) ^ 196 := by rw [← zpow_natCast, ← zpow_natCast, ← zpow_mul, ← zpow_mul, mul_comm]
  · refine (pow_le_pow_iff_left₀ (by positivity) (by positivity) (n := 93) (by norm_num)).1 ?_
    calc ((10 : ℚ) ^ a) ^ 93 = 10 ^ (93 * a) := by rw [← zpow_natCast, ← zpow_mul, mul_comm]; norm_num
      _ ≤ 10 ^ (28 * b) := zpow_le_zpow_right₀ (by norm_num) hab
      _ = ((10 : ℚ) ^ 28) ^ b := by rw [zpow_mul]; norm_num
      _ ≤ ((2 : ℚ) ^ 93) ^ b := by
        obtain ⟨n, hn⟩ := Int.eq_ofNat_of_zero_le (show 0 ≤ -b by omega)
        obtain rfl : b = -n := by omega
        simp only [zpow_neg, zpow_natCast]
        exact inv_anti₀ (by positivity) (pow_le_pow_left₀ (by positivity) (by norm_num) n)
      _ = ((2 : ℚ) ^ b) ^ 93 := by rw [← zpow_natCast, ← zpow_natCast, ← zpow_mul, ← zpow_mul, mul_comm]

theorem two_le_ten {a b : ℤ} (h : 0 ≤ b ∧ 28 * b ≤ 93 * a ∨ b ≤ 0 ∧ 59 * b ≤ 196 * a) : (2 : ℚ) ^ b ≤ 10 ^ a := by
  have hinv := ten_le_two (a := -a) (b := -b) (by omega)
  rw [zpow_neg, zpow_neg] at hinv
  exact (inv_le_inv₀ (by positivity) (by positivity)).1 hinv

/-- the power of two below a number -/
theorem value_bounds (hm : 0 < m) (e : ℤ) :
    (2 : ℚ) ^ ((m.log2 : ℤ) + e) ≤ m * 2 ^ e ∧ (m * 2 ^ e : ℚ) < 2 ^ ((m.log2 : ℤ) + e + 1) := by
  obtain ⟨hlow, hhigh⟩ := log2_bounds hm
  have hunit : (0 : ℚ) < 2 ^ e := by positivity
  rw [zpow_add_one₀ two_ne_zero, zpow_add₀ two_ne_zero]
  constructor
  · exact mul_le_mul_of_nonneg_right hlow hunit.le
  · calc (m * 2 ^ e : ℚ) < 2 * 2 ^ (m.log2 : ℤ) * 2 ^ e := mul_lt_mul_of_pos_right hhigh hunit
      _ = 2 ^ (m.log2 : ℤ) * 2 ^ e * 2 := by ring

/-- the place that the search for digits starts from -/
theorem exists_point (hm : 0 < m) (h : Normal m e) :
    ∃ p, PointAt (m * 2 ^ e) p ∧ -400 < p ∧ p < 399 ∧
      shortest m e = (Interval.of m e).search p 17 1 := by
  obtain ⟨hlow, hhigh⟩ := value_bounds hm e
  have hlog : m.log2 < 53 := (Nat.log2_lt hm.ne').2 h.small
  have hleast := h.least
  have hmost := h.most
  generalize hl : (m.log2 : ℤ) + e = l at hlow hhigh
  generalize hg : l * 30103 / 100000 - 1 = g
  have hbelow : (10 : ℚ) ^ (g - 1) ≤ m * 2 ^ e := le_trans (ten_le_two (by omega)) hlow
  have habove : (m * 2 ^ e : ℚ) < 10 ^ (g + (5 : ℕ)) := lt_of_lt_of_le hhigh (two_le_ten (by push_cast; omega))
  obtain ⟨hat, hge, hle⟩ := pointAt_pointFrom hbelow habove
  refine ⟨_, hat, by omega, by push_cast at hle; omega, ?_⟩
  rw [shortest, hl, hg]

/-! ## The digits -/

/-- A point of the grid with 17 digits is near to the number. -/
theorem near_grid {p : ℤ} (hm : 0 < m) (h : Normal m e) (hp : PointAt (m * 2 ^ e) p) :
    ∃ n, (Interval.of m e).gridPoint? (p - (17 : ℕ)) = some n := by
  refine Interval.exists_gridPoint? ?_
  rw [Interval.has_iff hm, Interval.has_iff hm]
  generalize hn : (Interval.of m e).floorAt (p - (17 : ℕ)) = n
  have hunit : (0 : ℚ) < 2 ^ e := by positivity
  have hsmall : (m : ℚ) < 2 ^ 53 := by exact_mod_cast h.small
  have hfloor := (Interval.le_floorAt m e (p - (17 : ℕ)) n).1 hn.ge
  have hnext := (Interval.floorAt_lt m e (p - (17 : ℕ)) (n + 1)).1 (by omega)
  have hgrid : (10 : ℚ) ^ (p - 1) = 10 ^ 16 * 10 ^ (p - (17 : ℕ)) := by
    rw [← zpow_natCast, ← zpow_add₀ (by norm_num)]
    congr 1
    push_cast
    ring
  have hlow := hp.low
  rw [hgrid] at hlow
  push_cast at hnext
  have hpos : n ≠ 0 := by
    rintro rfl
    have hstep : (0 : ℚ) < 10 ^ (p - (17 : ℕ)) := by positivity
    push_cast at hstep hlow hnext
    linarith
  generalize (10 : ℚ) ^ (p - (17 : ℕ)) = g at *
  -- the points are closer to each other than half the way between the middles
  have hreach : g / 2 < reach m e * 2 ^ e := by
    unfold reach
    split_ifs with hpower
    · obtain ⟨rfl, -⟩ := hpower
      push_cast at hlow
      linarith
    · have hless : (m : ℚ) * 2 ^ e < 2 ^ 53 * 2 ^ e := mul_lt_mul_of_pos_right hsmall hunit
      linarith
  have hhalf : reach m e * 2 ^ e ≤ 1 / 2 * 2 ^ e := mul_le_mul_of_nonneg_right (reach_le m e) hunit.le
  rcases le_total (m * 2 ^ e - n * g) (g / 2) with hdown | hup
  · have hlow : (m - reach m e) * 2 ^ e < n * g := by linarith
    have hhigh : n * g < (m + 1 / 2) * 2 ^ e := by linarith
    exact Or.inl ⟨hpos, hlow.le, hhigh.le, fun _ => ⟨hlow.ne', hhigh.ne⟩⟩
  · push_cast
    have hlow : (m - reach m e) * 2 ^ e < (n + 1) * g := by linarith
    have hhigh : (n + 1) * g < (m + 1 / 2) * 2 ^ e := by linarith
    exact Or.inr ⟨hlow.le, hhigh.le, fun _ => ⟨hlow.ne', hhigh.ne⟩⟩

/-- the digits are as many as they are counted, they stand for a decimal near to the number, and its point is not far
away -/
structure Stands (m : ℕ) (e : ℤ) (d : Digits) : Prop where
  near : Near m e (d.digits * 10 ^ (d.point - d.count))
  some : 0 < d.count
  low : 10 ^ (d.count - 1) ≤ d.digits
  high : d.digits < 10 ^ d.count
  above : -400 < d.point
  below : d.point < 400

/-- the digits that a number is shown with stand for it -/
theorem shortest_spec (hm : 0 < m) (h : Normal m e) : Stands m e (shortest m e) := by
  obtain ⟨p, hp, habove, hbelow, hshortest⟩ := exists_point hm h
  obtain ⟨c, n, hc, hpoint, hsearch⟩ :=
    Interval.search_eq p 17 1 17 (by decide) (by decide) (near_grid hm h hp)
  obtain ⟨hhas, hfloor⟩ := Interval.gridPoint?_some hpoint
  have hnear := (Interval.has_iff hm n _).1 hhas
  obtain ⟨b, rfl⟩ : ∃ b, c = b + 1 := ⟨c - 1, by omega⟩
  have hlow : 10 ^ b ≤ (Interval.of m e).floorAt (p - (b + 1 : ℕ)) := by
    rw [Interval.le_floorAt]
    refine le_of_eq_of_le ?_ hp.low
    push_cast
    rw [← zpow_natCast, ← zpow_add₀ (by norm_num)]
    congr 1
    ring
  have hhigh : (Interval.of m e).floorAt (p - (b + 1 : ℕ)) < 10 ^ (b + 1) := by
    rw [Interval.floorAt_lt]
    refine lt_of_lt_of_eq hp.high ?_
    push_cast
    rw [← zpow_natCast, ← zpow_add₀ (by norm_num)]
    congr 1
    push_cast
    ring
  rw [hshortest, hsearch]
  split_ifs with hcarry
  · -- all nines and one more: a one with the point further on
    have hvalue : ((1 : ℕ) * 10 ^ (p + 1 - (1 : ℕ)) : ℚ) = n * 10 ^ (p - (b + 1 : ℕ)) := by
      have hten : n = 10 ^ (b + 1) := hcarry
      rw [hten]
      push_cast
      rw [one_mul, ← zpow_natCast, ← zpow_add₀ (by norm_num)]
      congr 1
      push_cast
      ring
    exact ⟨hvalue ▸ hnear, Nat.one_pos, le_rfl, by norm_num, by dsimp only; omega, by dsimp only; omega⟩
  · have hne : n ≠ 10 ^ (b + 1) := hcarry
    refine ⟨hnear, Nat.succ_pos b, ?_, ?_, habove, by dsimp only; omega⟩
    · rw [Nat.add_sub_cancel]
      dsimp only
      omega
    · dsimp only
      omega

end LinePrompt.Decimal
