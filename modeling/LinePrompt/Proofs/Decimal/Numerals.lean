/-
Numbers read back from the texts they are shown as.

A whole number is shown by its digits, and they spell it (`readInt_toDigits`). A binary number whose text has a point
is shown as a numeral (`layout_numeral`). A numeral is read as the decimal that it spells, and this is rounded to the
number that was shown (`readFloat?_layout`).
-/
import Mathlib.Data.List.TakeWhile
import LinePrompt.Decimal.Numeral
import LinePrompt.Proofs.Decimal.Shortest

namespace LinePrompt.Decimal

open Binary Text

variable {m n : ℕ} {e x : ℤ} {ds : List Char}

/-! ## Digits -/

theorem toNat_of_isDigit {c : Char} (h : c.isDigit = true) : 48 ≤ c.toNat ∧ c.toNat ≤ 57 := by
  simp only [Char.isDigit, Bool.and_eq_true, decide_eq_true_eq] at h
  exact h

theorem digitIn?_of_isDigit {c : Char} (h : c.isDigit = true) : digitIn? 10 c = some (c.toNat - 48) := by
  obtain ⟨hlow, hhigh⟩ := toNat_of_isDigit h
  have hvalue : hexValue? c = some (c.toNat - 48) := if_pos ⟨hlow, hhigh⟩
  rw [digitIn?, hvalue, Option.filter_some, if_pos (by simp; omega)]

theorem valueIn_eq (h : ∀ c ∈ ds, c.isDigit = true) : valueIn 10 ds = Nat.ofDigitChars 10 ds 0 := by
  rw [Nat.ofDigitChars_eq_foldl, valueIn]
  refine List.foldl_ext _ _ 0 fun n c hc => ?_
  rw [digitIn?_of_isDigit (h c hc)]
  rfl

theorem isDigit_toDigits (n : ℕ) : ∀ c ∈ Nat.toDigits 10 n, c.isDigit = true :=
  fun _ hc => Nat.isDigit_of_mem_toDigits (by decide) (by decide) hc

theorem valueIn_toDigits (n : ℕ) : valueIn 10 (Nat.toDigits 10 n) = n := by
  rw [valueIn_eq (isDigit_toDigits n), Nat.ofDigitChars_toDigits (by decide) (by decide)]

theorem valueIn_append {es : List Char} (hd : ∀ c ∈ ds, c.isDigit = true) (he : ∀ c ∈ es, c.isDigit = true) :
    valueIn 10 (ds ++ es) = valueIn 10 ds * 10 ^ es.length + valueIn 10 es := by
  rw [valueIn_eq hd, valueIn_eq he, valueIn_eq (List.forall_mem_append.2 ⟨hd, he⟩), Nat.ofDigitChars_append,
    Nat.ofDigitChars_eq_ofDigitChars_zero, Nat.mul_comm]

theorem isDigit_zeros (n : ℕ) : ∀ c ∈ List.replicate n '0', c.isDigit = true := by
  intro c hc
  obtain rfl := List.eq_of_mem_replicate hc
  decide

theorem valueIn_zeros (n : ℕ) : valueIn 10 (List.replicate n '0') = 0 := by
  rw [valueIn_eq (isDigit_zeros n), Nat.ofDigitChars_replicate_zero, Nat.mul_zero]

/-- the first digit of a number is no zero -/
theorem head?_toDigits (hn : 0 < n) : (Nat.toDigits 10 n).head? ≠ some '0' := by
  induction n using Nat.strong_induction_on with
  | _ n ih =>
    rcases Nat.lt_or_ge n 10 with hlt | hge
    · rw [Nat.toDigits_of_lt_base hlt]
      simp [hn.ne']
    · rw [Nat.toDigits_of_base_le (by decide) hge, List.head?_append_of_ne_nil _ Nat.toDigits_ne_nil]
      exact ih (n / 10) (by omega) (by omega)

theorem dropWhile_zeros_toDigits (hn : 0 < n) (zeros : ℕ) (es : List Char) :
    (List.replicate zeros '0' ++ (Nat.toDigits 10 n ++ es)).dropWhile (· = '0') = Nat.toDigits 10 n ++ es := by
  obtain ⟨c, cs, hcs⟩ := List.exists_cons_of_ne_nil (Nat.toDigits_ne_nil (n := n) (b := 10))
  have hhead := head?_toDigits hn
  rw [hcs] at hhead ⊢
  have hc : c ≠ '0' := fun h => hhead (congrArg some h)
  rw [List.dropWhile_append, List.dropWhile_replicate]
  simp [hc]

theorem length_toDigits {count : ℕ} (hcount : 0 < count) (hlow : 10 ^ (count - 1) ≤ n) (hhigh : n < 10 ^ count) :
    (Nat.toDigits 10 n).length = count := by
  refine le_antisymm ((Nat.length_toDigits_le_iff (by decide) hcount).2 hhigh) ?_
  rcases Nat.lt_or_ge 1 count with hmore | hone
  · by_contra hshort
    have hless := (Nat.length_toDigits_le_iff (b := 10) (n := n) (k := count - 1) (by decide) (by omega)).1 (by omega)
    omega
  · have := Nat.length_toDigits_pos (b := 10) (n := n)
    omega

/-! ## Whole numbers -/

theorem toAscii_eq {cs : List Char} (h : ∀ c ∈ cs, c.toNat < 128) : toAscii cs = cs := by
  rw [toAscii, if_pos]
  simpa using h

theorem ascii_of_isDigit {c : Char} (h : c.isDigit = true) : c.toNat < 128 ∧ isAsciiBlank c = false := by
  obtain ⟨hlow, hhigh⟩ := toNat_of_isDigit h
  refine ⟨by omega, ?_⟩
  have hne : c ≠ ' ' := by
    rintro rfl
    exact absurd hlow (by decide)
  simp only [isAsciiBlank, hne, decide_false, Bool.false_or, Bool.and_eq_false_iff, decide_eq_false_iff_not]
  omega

theorem ne_of_isDigit {c d : Char} (h : c.isDigit = true) (hd : d.isDigit = false) : c ≠ d := by
  rintro rfl
  rw [h] at hd
  cases hd

theorem toLower_of_isDigit {c : Char} (h : c.isDigit = true) : c.toLower = c := by
  obtain ⟨hlow, hhigh⟩ := toNat_of_isDigit h
  unfold Char.toLower
  rw [dif_neg]
  rintro ⟨hupper, -⟩
  have hupper : 65 ≤ c.toNat := hupper
  omega

theorem splitSign_digits {cs : List Char} (h : ∀ c ∈ cs.head?, c.isDigit = true) : splitSign cs = (false, cs) := by
  unfold splitSign
  split
  · exact absurd (h '-' rfl) (by decide)
  · exact absurd (h '+' rfl) (by decide)
  · rfl

/-- a whole number is read from its digits, if they are not too many -/
theorem readInt_toDigits (hn : n < 10 ^ digitLimit) : readInt 10 (Nat.toDigits 10 n) = .ok n := by
  have hdigits := isDigit_toDigits n
  obtain ⟨c, cs, hcs⟩ := List.exists_cons_of_ne_nil (Nat.toDigits_ne_nil (n := n) (b := 10))
  have hall : ∀ c ∈ Nat.toDigits 10 n, (digitIn? 10 c).isSome = true := fun c hc => by
    rw [digitIn?_of_isDigit (hdigits c hc)]
    rfl
  have hlength : ¬ digitLimit < (Nat.toDigits 10 n).length :=
    not_lt.2 ((Nat.length_toDigits_le_iff (by decide) (by decide)).2 hn)
  have hblanks : (Nat.toDigits 10 n).dropWhile isAsciiBlank = Nat.toDigits 10 n := by
    have hblank := (ascii_of_isDigit (hdigits c (by rw [hcs]; exact List.mem_cons_self))).2
    rw [hcs, List.dropWhile_cons_of_neg (by simp [hblank])]
  have hsign : splitSign (Nat.toDigits 10 n) = (false, Nat.toDigits 10 n) :=
    splitSign_digits fun c hc => hdigits c (List.mem_of_mem_head? hc)
  have hmark : skipBaseMark 10 (Nat.toDigits 10 n) = Nat.toDigits 10 n := by
    unfold skipBaseMark
    split
    · rename_i c rest hchars
      have hlower := toLower_of_isDigit (hdigits c (by rw [hchars]; simp))
      simp [hchars, hlower]
    · rfl
  have htake : (Nat.toDigits 10 n).takeWhile (fun c => (digitIn? 10 c).isSome) = Nat.toDigits 10 n :=
    List.takeWhile_eq_self_iff.2 hall
  have hdrop : (Nat.toDigits 10 n).dropWhile (fun c => (digitIn? 10 c).isSome) = [] :=
    List.dropWhile_eq_nil_iff.2 hall
  have hempty : (Nat.toDigits 10 n).isEmpty = false := by rw [hcs]; rfl
  unfold readInt
  simp only [toAscii_eq fun c hc => (ascii_of_isDigit (hdigits c hc)).1, hblanks, hsign, hmark, htake, hdrop, hlength,
    and_false, if_false, hempty, List.all_nil, Bool.not_true, Bool.or_self, Bool.false_eq_true, valueIn_toDigits]

/-! ## Numerals -/

/-- an exponent as it is written: none, or a letter, a sign and digits -/
inductive Exponent : List Char → ℤ → Prop where
  | none : Exponent [] 0
  | plus {ds : List Char} (some : ds ≠ []) (digits : ∀ c ∈ ds, c.isDigit = true) :
    Exponent ('e' :: '+' :: ds) (valueIn 10 ds)
  | minus {ds : List Char} (some : ds ≠ []) (digits : ∀ c ∈ ds, c.isDigit = true) :
    Exponent ('e' :: '-' :: ds) (-valueIn 10 ds)

/-- digits, a point, more digits and an exponent -/
structure Numeral (cs whole part ex : List Char) (x : ℤ) : Prop where
  chars : cs = whole ++ '.' :: (part ++ ex)
  some : whole ≠ []
  whole : ∀ c ∈ whole, c.isDigit = true
  part : ∀ c ∈ part, c.isDigit = true
  exponent : Exponent ex x

variable {cs whole part ex : List Char}

theorem Exponent.read (h : Exponent ex x) : readExponent? ex = some x := by
  cases h with
  | none => rfl
  | plus some digits => simpa [readExponent?, splitSign, some] using digits
  | minus some digits => simpa [readExponent?, splitSign, some] using digits

/-- the characters of an exponent are digits, its letter and a sign -/
theorem Exponent.chars (h : Exponent ex x) {c : Char} (hc : c ∈ ex) :
    c.isDigit = true ∨ c = 'e' ∨ c = '+' ∨ c = '-' := by
  cases h with
  | none => cases hc
  | plus _ digits =>
    simp only [List.mem_cons] at hc
    rcases hc with rfl | rfl | hc
    · exact Or.inr (Or.inl rfl)
    · exact Or.inr (Or.inr (Or.inl rfl))
    · exact Or.inl (digits c hc)
  | minus _ digits =>
    simp only [List.mem_cons] at hc
    rcases hc with rfl | rfl | hc
    · exact Or.inr (Or.inl rfl)
    · exact Or.inr (Or.inr (Or.inr rfl))
    · exact Or.inl (digits c hc)

theorem Exponent.head? (h : Exponent ex x) : ex = [] ∨ ex.head? = some 'e' := by
  cases h with
  | none => exact Or.inl rfl
  | plus => exact Or.inr rfl
  | minus => exact Or.inr rfl

theorem Numeral.mem (h : Numeral cs whole part ex x) {c : Char} (hc : c ∈ cs) :
    c.isDigit = true ∨ c = '.' ∨ c = 'e' ∨ c = '+' ∨ c = '-' := by
  rw [h.chars] at hc
  simp only [List.mem_append, List.mem_cons] at hc
  rcases hc with hc | rfl | hc | hc
  · exact Or.inl (h.whole c hc)
  · exact Or.inr (Or.inl rfl)
  · exact Or.inl (h.part c hc)
  · exact (h.exponent.chars hc).imp_right Or.inr

theorem Numeral.head? (h : Numeral cs whole part ex x) : ∃ c rest, whole = c :: rest ∧ c.isDigit = true := by
  obtain ⟨c, rest, hwhole⟩ := List.exists_cons_of_ne_nil h.some
  exact ⟨c, rest, hwhole, h.whole c (by rw [hwhole]; exact List.mem_cons_self)⟩

theorem Numeral.ascii (h : Numeral cs whole part ex x) : ∀ c ∈ cs, c.toNat < 128 ∧ isAsciiBlank c = false := by
  intro c hc
  rcases h.mem hc with hdigit | rfl | rfl | rfl | rfl
  · exact ascii_of_isDigit hdigit
  all_goals decide

/-- the digits in front of the point are cut off -/
theorem Numeral.cut_whole (h : Numeral cs whole part ex x) :
    cs.takeWhile Char.isDigit = whole ∧ cs.dropWhile Char.isDigit = '.' :: (part ++ ex) := by
  have hpoint : ('.' : Char).isDigit = false := by decide
  rw [h.chars, List.takeWhile_append_of_pos h.whole, List.dropWhile_append_of_pos h.whole]
  simp [hpoint]

/-- the digits behind the point are cut off -/
theorem Numeral.cut_part (h : Numeral cs whole part ex x) :
    (part ++ ex).takeWhile Char.isDigit = part ∧ (part ++ ex).dropWhile Char.isDigit = ex := by
  have hex : ex.takeWhile Char.isDigit = [] ∧ ex.dropWhile Char.isDigit = ex := by
    have hletter : ('e' : Char).isDigit = false := by decide
    rcases h.exponent.head? with rfl | hhead
    · exact ⟨rfl, rfl⟩
    · obtain ⟨rest, rfl⟩ := List.head?_eq_some_iff.1 hhead
      simp [hletter]
  rw [List.takeWhile_append_of_pos h.part, List.dropWhile_append_of_pos h.part, hex.1, hex.2, List.append_nil]
  exact ⟨rfl, rfl⟩

theorem trim_eq {p : Char → Bool} (h : ∀ c ∈ cs, p c = false) : trim p cs = cs := by
  have hdrop : ∀ ds : List Char, (∀ c ∈ ds, p c = false) → ds.dropWhile p = ds := by
    intro ds hds
    cases ds with
    | nil => rfl
    | cons c ds => exact List.dropWhile_cons_of_neg (by simp [hds c List.mem_cons_self])
  rw [trim, hdrop cs h, hdrop _ fun c hc => h c (List.mem_reverse.1 hc), List.reverse_reverse]

/-- a numeral is read as the decimal that it spells -/
theorem readFloat?_numeral (h : Numeral cs whole part ex x) :
    readFloat? cs = some (scaled false (whole ++ part) (x - part.length)) := by
  obtain ⟨c, rest, hwhole, hc⟩ := h.head?
  have hcs : cs = c :: (rest ++ '.' :: (part ++ ex)) := by rw [h.chars, hwhole]; rfl
  have hsign : splitSign cs = (false, cs) := splitSign_digits (by rw [hcs]; simpa using hc)
  -- no word for a number starts with a digit
  have hword : ∀ w : List Char, w.head? ≠ some c → String.ofList (cs.map Char.toLower) ≠ String.ofList w := by
    intro w hw heq
    have hlist := String.ofList_injective heq
    rw [hcs, List.map_cons, toLower_of_isDigit hc] at hlist
    exact hw (by rw [← hlist]; rfl)
  have hnot : ∀ d : Char, d.isDigit = false → some d ≠ some c := fun d hd heq =>
    ne_of_isDigit hc hd (Option.some.inj heq).symm
  have hempty : whole.isEmpty = false := by rw [hwhole]; rfl
  have hinf := hword "inf".toList (hnot 'i' (by decide))
  have hinfinity := hword "infinity".toList (hnot 'i' (by decide))
  have hnan := hword "nan".toList (hnot 'n' (by decide))
  simp only [String.ofList_toList] at hinf hinfinity hnan
  unfold readFloat?
  simp only [toAscii_eq fun c hc => (h.ascii c hc).1, trim_eq fun c hc => (h.ascii c hc).2, hsign, hinf, hinfinity,
    hnan, or_self, if_false, h.cut_whole, h.cut_part, hempty, Bool.false_and, Bool.false_eq_true, h.exponent.read,
    Option.map_some]

/-! ## The text of a number -/

theorem scaled_eq {negative : Bool} (hds : ∀ c ∈ ds, c.isDigit = true) (hpos : 0 < valueIn 10 ds) (hm : Normal m e)
    (h : Near m e (valueIn 10 ds * 10 ^ x)) (habove : -400 < x + (ds.dropWhile (· = '0')).length)
    (hbelow : x + (ds.dropWhile (· = '0')).length < 400) : scaled negative ds x = finite negative m e := by
  have hzeros : valueIn 10 (ds.dropWhile (· = '0')) = valueIn 10 ds := by
    have hsplit := List.takeWhile_append_dropWhile (p := (· = '0')) (l := ds)
    have hfront : ds.takeWhile (· = '0') = List.replicate (ds.takeWhile (· = '0')).length '0' :=
      List.eq_replicate_of_mem fun c hc => by simpa using List.mem_takeWhile_imp hc
    have hdrop : ∀ c ∈ ds.dropWhile (· = '0'), c.isDigit = true := fun c hc =>
      hds c ((List.dropWhile_sublist _).subset hc)
    conv_rhs => rw [← hsplit, hfront, valueIn_append (isDigit_zeros _) hdrop, valueIn_zeros, Nat.zero_mul, Nat.zero_add]
  unfold scaled
  simp only [hzeros, hpos.ne', if_false]
  rw [if_neg (by omega), if_neg (by omega)]
  split_ifs with hx
  · refine ofRatio_eq (Nat.mul_pos hpos (tenTo_pos _)) Nat.one_pos hm ?_
    obtain ⟨k, rfl⟩ := Int.eq_ofNat_of_zero_le hx
    simpa [tenTo] using h
  · refine ofRatio_eq hpos (tenTo_pos _) hm ?_
    obtain ⟨k, hk⟩ := Int.eq_ofNat_of_zero_le (show 0 ≤ -x by omega)
    obtain rfl : x = -k := by omega
    simpa [tenTo, div_eq_mul_inv] using h

theorem sound_scaled (negative : Bool) (ds : List Char) (x : ℤ) : (scaled negative ds x).Sound := by
  unfold scaled
  dsimp only
  split_ifs
  · exact sound_ofRatio _ _ Nat.one_pos
  · trivial
  · exact sound_ofRatio _ _ Nat.one_pos
  · exact sound_ofRatio _ _ Nat.one_pos
  · exact sound_ofRatio _ _ (tenTo_pos _)

/-- what is read has its one form -/
theorem sound_readFloat? {y : Binary} (h : readFloat? cs = some y) : y.Sound := by
  unfold readFloat? at h
  dsimp only at h
  split_ifs at h
  · cases h
    trivial
  · cases h
    trivial
  · obtain ⟨e, -, rfl⟩ := Option.map_eq_some_iff.1 h
    exact sound_scaled _ _ _

/-- the digits of a numeral around its point are those of a number, with zeros before and behind -/
def Spells (d : Digits) (whole part : List Char) (x : ℤ) : Prop :=
  ∃ before behind : ℕ, whole ++ part =
    List.replicate before '0' ++ (Nat.toDigits 10 d.digits ++ List.replicate behind '0') ∧
      x - part.length + behind = d.point - d.count

theorem toList_toString (n : ℕ) : (toString n).toList = Nat.toDigits 10 n := by
  rw [Nat.toString_eq_ofList_toDigits, String.toList_ofList]

/-- the digits of an exponent, at least two -/
def exponentDigits (x : ℤ) : List Char :=
  if (toString x.natAbs).length < 2 then '0' :: Nat.toDigits 10 x.natAbs else Nat.toDigits 10 x.natAbs

/-- an exponent as a number is laid out with it -/
def exponentChars (x : ℤ) : List Char := 'e' :: (if x < 0 then '-' else '+') :: exponentDigits x

theorem exponent_exponentChars (x : ℤ) : Exponent (exponentChars x) x := by
  have hdigits : exponentDigits x ≠ [] ∧ (∀ c ∈ exponentDigits x, c.isDigit = true) ∧
      valueIn 10 (exponentDigits x) = x.natAbs := by
    unfold exponentDigits
    split_ifs
    · have hzero := valueIn_append (isDigit_zeros 1) (isDigit_toDigits x.natAbs)
      rw [valueIn_zeros, valueIn_toDigits, Nat.zero_mul, Nat.zero_add] at hzero
      exact ⟨by simp, List.forall_mem_cons.2 ⟨by decide, isDigit_toDigits _⟩, hzero⟩
    · exact ⟨Nat.toDigits_ne_nil, isDigit_toDigits _, valueIn_toDigits _⟩
  obtain ⟨hne, hall, hvalue⟩ := hdigits
  unfold exponentChars
  split_ifs with hneg
  · have h := Exponent.minus hne hall
    rwa [hvalue, show -(x.natAbs : ℤ) = x by omega] at h
  · have h := Exponent.plus hne hall
    rwa [hvalue, show (x.natAbs : ℤ) = x by omega] at h

theorem layout_exponent {d : Digits} (h : ¬ (-4 < d.point ∧ d.point ≤ 16)) :
    (layout d).toList = (Nat.toDigits 10 d.digits).take 1 ++
      ((if ((Nat.toDigits 10 d.digits).drop 1).isEmpty then [] else '.' :: (Nat.toDigits 10 d.digits).drop 1) ++
        exponentChars (d.point - 1)) := by
  have hpositional : (decide (-4 < d.point) && decide (d.point ≤ 16)) = false := by
    rw [← Bool.not_eq_true]
    simpa using h
  unfold layout exponentChars exponentDigits
  simp only [hpositional, Bool.false_eq_true, if_false, toList_toString]
  split_ifs <;> simp

/-- a number with a point in its text is shown as a numeral -/
theorem layout_numeral {d : Digits} (h : Stands m e d) (hpoint : '.' ∈ (layout d).toList) :
    ∃ whole part ex x, Numeral (layout d).toList whole part ex x ∧ Spells d whole part x := by
  have hdigits := isDigit_toDigits d.digits
  have hlength := length_toDigits h.some h.low h.high
  by_cases hplace : -4 < d.point ∧ d.point ≤ 16
  · have hpositional : (decide (-4 < d.point) && decide (d.point ≤ 16)) = true := by simpa using hplace
    clear hpoint
    unfold layout
    simp only [hpositional, if_true, toList_toString]
    split_ifs with hsmall hwhole
    · -- zeros between the point and the digits
      refine ⟨['0'], List.replicate (-d.point).toNat '0' ++ Nat.toDigits 10 d.digits, [], 0,
        ⟨?_, by simp, by simp, List.forall_mem_append.2 ⟨isDigit_zeros _, hdigits⟩, .none⟩,
        ⟨(-d.point).toNat + 1, 0, ?_, ?_⟩⟩
      · simp
      · simp [List.replicate_succ]
      · simp [hlength]
        omega
    · -- zeros between the digits and the point
      refine ⟨Nat.toDigits 10 d.digits ++ List.replicate (d.point.toNat - d.count) '0', ['0'], [], 0,
        ⟨?_, by simp [Nat.toDigits_ne_nil], List.forall_mem_append.2 ⟨hdigits, isDigit_zeros _⟩, by simp, .none⟩,
        ⟨0, d.point.toNat - d.count + 1, ?_, ?_⟩⟩
      · simp
      · simp [List.replicate_succ']
      · simp
        omega
    · -- the point among the digits
      refine ⟨(Nat.toDigits 10 d.digits).take d.point.toNat, (Nat.toDigits 10 d.digits).drop d.point.toNat, [], 0,
        ⟨?_, ?_, fun c hc => hdigits c (List.mem_of_mem_take hc), fun c hc => hdigits c (List.mem_of_mem_drop hc),
          .none⟩, ⟨0, 0, by simp, ?_⟩⟩
      · simp
      · simp [Nat.toDigits_ne_nil]
        omega
      · simp [hlength]
        omega
  · -- one digit, and the others behind the point
    have hmem : ∀ c ∈ (Nat.toDigits 10 d.digits).drop 1, c.isDigit = true := fun c hc =>
      hdigits c (List.mem_of_mem_drop hc)
    rw [layout_exponent hplace] at hpoint ⊢
    split_ifs at hpoint ⊢ with htail
    · exfalso
      rw [List.nil_append, List.mem_append] at hpoint
      rcases hpoint with hfirst | hexponent
      · exact absurd (hdigits _ (List.mem_of_mem_take hfirst)) (by decide)
      · rcases (exponent_exponentChars (d.point - 1)).chars hexponent with hdigit | hletter
        · exact absurd hdigit (by decide)
        · exact absurd hletter (by decide)
    · refine ⟨(Nat.toDigits 10 d.digits).take 1, (Nat.toDigits 10 d.digits).drop 1, exponentChars (d.point - 1),
        d.point - 1, ⟨by simp, by simp [Nat.toDigits_ne_nil], fun c hc => hdigits c (List.mem_of_mem_take hc), hmem,
          exponent_exponentChars _⟩, ⟨0, 0, ?_, ?_⟩⟩
      · rw [List.take_append_drop, List.replicate_zero, List.nil_append, List.append_nil]
      · have hsome := h.some
        simp [hlength]
        omega

/-- a positive number is read back from its text -/
theorem readFloat?_layout (hm : 0 < m) (h : Normal m e) (hpoint : '.' ∈ (layout (shortest m e)).toList) :
    readFloat? (layout (shortest m e)).toList = some (finite false m e) := by
  have hstands := shortest_spec hm h
  have hlength := length_toDigits hstands.some hstands.low hstands.high
  have habove := hstands.above
  have hbelow := hstands.below
  have hpos : 0 < (shortest m e).digits := lt_of_lt_of_le (by positivity) hstands.low
  obtain ⟨whole, part, ex, x, hnumeral, before, behind, hsplit, hplace⟩ := layout_numeral hstands hpoint
  have hbehind : ∀ c ∈ Nat.toDigits 10 (shortest m e).digits ++ List.replicate behind '0', c.isDigit = true :=
    List.forall_mem_append.2 ⟨isDigit_toDigits _, isDigit_zeros _⟩
  have hvalue : valueIn 10 (whole ++ part) = (shortest m e).digits * 10 ^ behind := by
    rw [hsplit, valueIn_append (isDigit_zeros _) hbehind, valueIn_append (isDigit_toDigits _) (isDigit_zeros _),
      valueIn_zeros, valueIn_zeros, valueIn_toDigits, List.length_replicate]
    omega
  have hdrop : (whole ++ part).dropWhile (· = '0') =
      Nat.toDigits 10 (shortest m e).digits ++ List.replicate behind '0' := by
    rw [hsplit, dropWhile_zeros_toDigits hpos]
  have hpoints : x - part.length + ((whole ++ part).dropWhile (· = '0')).length = (shortest m e).point := by
    rw [hdrop, List.length_append, hlength, List.length_replicate]
    push_cast
    omega
  rw [readFloat?_numeral hnumeral, scaled_eq (List.forall_mem_append.2 ⟨hnumeral.whole, hnumeral.part⟩) _ h _ _ _]
  · rw [hvalue]
    positivity
  · have hnear := hstands.near
    rw [← hplace, zpow_add₀ (by norm_num), zpow_natCast] at hnear
    rw [hvalue]
    push_cast
    rwa [mul_assoc, mul_comm ((10 : ℚ) ^ behind)]
  · omega
  · omega

end LinePrompt.Decimal
