/-
Numbers as plain scalars.

A whole number that is written as it is shown is resolved to a whole number (`resolve_whole`) and read as itself
(`readWhole_text`). So is a floating number whose text has a point (`resolve_floating`, `readFloating_text`); and every
text of that type has a point, and names a number in its one form (`readFloating_sound`).
-/
import LinePrompt.Proofs.Decimal.Numerals
import LinePrompt.Proofs.Files.Numbers
import LinePrompt.Yaml.Value.Display
import LinePrompt.Yaml.Value.Scalar

namespace LinePrompt.Yaml

open LinePrompt.Decimal

variable {c : Char} {cs rest : List Char} {x : Binary}

/-! ## Forms -/

/-- a plain scalar has one of these types -/
theorem resolve_cases (text : String) : resolve text = .bool ∨ resolve text = .float ∨ resolve text = .int ∨
    resolve text = .null ∨ resolve text = .timestamp ∨ resolve text = .text ∨ resolve text = .merge ∨
    resolve text = .value ∨ ∃ name, resolve text = .other name := by
  unfold resolve resolveChars
  split_ifs <;> simp

theorem isDigit_eq (c : Char) : isDigit c = c.isDigit := rfl

/-- what a number starts with: a digit, or a hyphen and a digit -/
structure Starts (cs : List Char) (c : Char) (rest : List Char) : Prop where
  chars : cs = c :: rest ∨ cs = '-' :: c :: rest
  digit : c.isDigit = true

namespace Starts

theorem dropSign (h : Starts cs c rest) : dropSign cs = c :: rest := by
  obtain ⟨rfl | rfl, hdigit⟩ := h
  · unfold Yaml.dropSign
    split
    · rename_i heq
      cases heq
      exact absurd hdigit (by decide)
    · rename_i heq
      cases heq
      exact absurd hdigit (by decide)
    · rfl
  · rfl

/-- no word starts like a number -/
theorem notWord (h : Starts cs c rest) {words : List String}
    (hwords : words.all (fun w => w.toList.head?.all fun d => !d.isDigit && d != '-') = true) :
    words.contains (String.ofList cs) = false := by
  rw [← Bool.not_eq_true, List.contains_iff_mem]
  intro hmem
  have hhead := List.all_eq_true.1 hwords _ hmem
  rw [String.toList_ofList] at hhead
  obtain ⟨rfl | rfl, hdigit⟩ := h
  · simp [hdigit] at hhead
  · simp at hhead

theorem isBoolForm (h : Starts cs c rest) : isBoolForm cs = false := h.notWord (by decide)

theorem isNullForm (h : Starts cs c rest) : isNullForm cs = false := h.notWord (by decide)

theorem notChars (h : Starts cs c rest) {d : Char} {ds : List Char} (hd : d.isDigit = false) (hne : d ≠ '-') :
    cs ≠ d :: ds := by
  rintro rfl
  rcases h.chars with heq | heq
  · obtain ⟨rfl, -⟩ := List.cons.inj heq
    rw [h.digit] at hd
    cases hd
  · exact hne (List.cons.inj heq).1

/-- a number to base sixty has a colon behind its first digits -/
theorem isSixtyForm {first : Char → Bool} {accept : List Char → Bool}
    (hcolon : (rest.dropWhile isDigitOrLow).head? ≠ some ':') : isSixtyForm first accept (c :: rest) = false := by
  have hdrop : dropSixty? (rest.dropWhile isDigitOrLow) = [] := by
    unfold dropSixty?
    split
    · rename_i heq
      simp [heq] at hcolon
    · rfl
  simp [Yaml.isSixtyForm, sixties, hdrop]

/-- a floating number has a point or a colon behind its first digits -/
theorem isFloatForm (h : Starts cs c rest) (hpoint : (rest.dropWhile isDigitOrLow).head? ≠ some '.')
    (hcolon : (rest.dropWhile isDigitOrLow).head? ≠ some ':') : isFloatForm cs = false := by
  have hfraction : isFractionForm (rest.dropWhile isDigitOrLow) = false := by
    unfold isFractionForm
    split
    · rename_i heq
      simp [heq] at hpoint
    · rfl
  have hunsigned : Starts (c :: rest) c rest := ⟨Or.inl rfl, h.digit⟩
  have hinf : [".inf", ".Inf", ".INF"].contains (String.ofList (c :: rest)) = false := hunsigned.notWord (by decide)
  have hnan : [".nan", ".NaN", ".NAN"].contains (String.ofList cs) = false := h.notWord (by decide)
  unfold Yaml.isFloatForm
  simp only [h.dropSign, hfraction, isSixtyForm hcolon, hinf, hnan, Bool.and_false, Bool.or_false, Bool.false_or]
  split
  · exact absurd rfl (h.notChars (by decide) (by decide))
  · rfl

/-- no whole number has a hyphen in it -/
theorem isIntForm (h : Starts cs c rest) (hyphen : '-' ∈ rest)
    (hcolon : (rest.dropWhile isDigitOrLow).head? ≠ some ':') : isIntForm cs = false := by
  have hall : ∀ {p : Char → Bool} {ds : List Char}, '-' ∈ ds → p '-' = false → ds.all p = false := by
    intro p ds hmem hp
    rw [List.all_eq_false]
    exact ⟨'-', hmem, by simp [hp]⟩
  have htail : ∀ {d e : Char} {ds : List Char}, c :: rest = d :: e :: ds → e ≠ '-' → '-' ∈ ds := by
    intro d e ds heq he
    obtain ⟨-, rfl⟩ := List.cons.inj heq
    exact (List.mem_cons.1 hyphen).resolve_left he.symm
  unfold Yaml.isIntForm
  simp only [h.dropSign, isSixtyForm hcolon, hall hyphen (show isDigitOrLow '-' = false by decide), Bool.and_false,
    Bool.or_false, Bool.or_eq_false_iff]
  refine ⟨⟨?_, ?_⟩, ?_⟩
  · split
    · rename_i heq
      rw [hall (htail heq (by decide)) (by decide), Bool.and_false]
    · rfl
  · split
    · rename_i heq
      obtain ⟨-, rfl⟩ := List.cons.inj heq
      exact hall hyphen (by decide)
    · rfl
  · split
    · rename_i heq
      rw [hall (htail heq (by decide)) (by decide), Bool.and_false]
    · rfl

end Starts

/-! ## Truth words -/

theorem exists_of_readBool {s : String} {v : Scalar} (h : readBool s = .ok v) : ∃ b, v = .bool b := by
  unfold readBool at h
  dsimp only at h
  split_ifs at h
  · cases h
    exact ⟨true, rfl⟩
  · cases h
    exact ⟨false, rfl⟩

/-! ## Whole numbers -/

theorem toList_toString_int (n : Int) :
    (toString n).toList = if n < 0 then '-' :: Nat.toDigits 10 n.natAbs else Nat.toDigits 10 n.natAbs := by
  cases n with
  | ofNat n =>
    exact toList_toString n
  | negSucc n =>
    have h : (toString (Int.negSucc n)).toList = '-' :: (toString (n + 1)).toList := by
      rw [show toString (Int.negSucc n) = "-" ++ toString (n + 1) from rfl, String.toList_append]
      rfl
    rw [h, toList_toString, if_pos (Int.negSucc_lt_zero n), Int.natAbs_negSucc]

theorem exists_starts_int (n : Int) :
    ∃ c rest, Nat.toDigits 10 n.natAbs = c :: rest ∧ Starts (toString n).toList c rest ∧
      ∀ d ∈ rest, d.isDigit = true := by
  obtain ⟨c, rest, hdigits⟩ := List.exists_cons_of_ne_nil (Nat.toDigits_ne_nil (n := n.natAbs) (b := 10))
  have hall := isDigit_toDigits n.natAbs
  rw [hdigits] at hall
  refine ⟨c, rest, hdigits, ⟨?_, hall c List.mem_cons_self⟩, fun d hd => hall d (List.mem_cons_of_mem _ hd)⟩
  rw [toList_toString_int, hdigits]
  split_ifs
  · exact Or.inr rfl
  · exact Or.inl rfl

theorem resolve_whole (n : Int) : resolve (toString n) = .int := by
  obtain ⟨c, rest, hdigits, hstarts, hall⟩ := exists_starts_int n
  have hlow : ∀ d ∈ rest, isDigitOrLow d = true := fun d hd => by simp [isDigitOrLow, isDigit_eq, hall d hd]
  have hdrop : rest.dropWhile isDigitOrLow = [] := List.dropWhile_eq_nil_iff.2 hlow
  have hint : isIntForm (toString n).toList = true := by
    unfold isIntForm
    simp only [hstarts.dropSign]
    by_cases hzero : c = '0'
    · -- only zero starts with a zero
      have habs : n.natAbs = 0 := by
        by_contra hne
        exact head?_toDigits (Nat.pos_of_ne_zero hne) (by rw [hdigits, hzero]; rfl)
      rw [habs] at hdigits
      cases hdigits
      rfl
    · have hnonzero : isNonzeroDigit c = true := by simp [isNonzeroDigit, isDigit_eq, hstarts.digit, hzero]
      simp [hnonzero, List.all_eq_true.2 hlow]
  unfold resolve resolveChars
  rw [hstarts.isBoolForm, hstarts.isFloatForm (by rw [hdrop]; simp) (by rw [hdrop]; simp), hint]
  rfl

theorem takeSign_starts (h : Starts cs c rest) : takeSign cs = .ok (decide (cs = '-' :: c :: rest), c :: rest) := by
  obtain ⟨rfl | rfl, hdigit⟩ := h
  · unfold takeSign
    split
    · rename_i heq
      cases heq
    · rename_i heq
      exact absurd (List.cons.inj heq).1 (ne_of_isDigit hdigit (by decide))
    · rename_i heq
      exact absurd (List.cons.inj heq).1 (ne_of_isDigit hdigit (by decide))
    · have hlonger : c :: rest ≠ '-' :: c :: rest := fun heq => ne_of_isDigit hdigit (by decide) (List.cons.inj heq).1
      rw [decide_eq_false hlonger]
  · simp [takeSign]

theorem filter_low (h : '_' ∉ cs) : cs.filter (· != '_') = cs := by
  rw [List.filter_eq_self]
  intro d hd
  simp only [bne_iff_ne, ne_eq]
  rintro rfl
  exact h hd

theorem readUnsigned_toDigits {n : Nat} (hn : n < 10 ^ digitLimit) : readUnsigned (Nat.toDigits 10 n) = .ok n := by
  have hread : readIn 10 (Nat.toDigits 10 n) = .ok n := by rw [readIn, readInt_toDigits hn]
  have hcolon : (Nat.toDigits 10 n).contains ':' = false := by
    rw [← Bool.not_eq_true, List.contains_iff_mem]
    exact fun hmem => absurd (isDigit_toDigits n _ hmem) (by decide)
  rcases Nat.eq_zero_or_pos n with rfl | hpos
  · rfl
  · have hhead := head?_toDigits hpos
    unfold readUnsigned
    split
    · rename_i heq
      simp [heq] at hhead
    · rename_i heq
      simp [heq] at hhead
    · rename_i heq
      simp [heq] at hhead
    · rename_i heq
      simp [heq] at hhead
    · rename_i heq
      exact absurd heq Nat.toDigits_ne_nil
    · rw [hcolon, hread]
      rfl

/-- a whole number is read as itself, if its digits are not too many -/
theorem readWhole_text {n : Int} (hn : n.natAbs < 10 ^ digitLimit) : readWhole (toString n) = .ok (.int n) := by
  obtain ⟨c, rest, hdigits, hstarts, hall⟩ := exists_starts_int n
  have hlow : '_' ∉ (toString n).toList := by
    intro hmem
    have hdigit : '_' ∈ c :: rest → False := fun h => by
      rcases List.mem_cons.1 h with heq | h
      · exact absurd hstarts.digit (heq ▸ by decide)
      · exact absurd (hall _ h) (by decide)
    rcases hstarts.chars with heq | heq
    · exact hdigit (heq ▸ hmem)
    · rw [heq, List.mem_cons] at hmem
      exact hmem.elim (by decide) hdigit
  have hsign : decide ((toString n).toList = '-' :: c :: rest) = decide (n < 0) := by
    rw [toList_toString_int, hdigits, decide_eq_decide]
    split_ifs with hneg
    · exact iff_of_true rfl hneg
    · exact iff_of_false (fun heq => ne_of_isDigit hstarts.digit (by decide) (List.cons.inj heq).1) hneg
  have hread : readUnsigned (c :: rest) = .ok n.natAbs := hdigits ▸ readUnsigned_toDigits hn
  unfold readWhole
  simp only [filter_low hlow, takeSign_starts hstarts, hread, hsign, bind, Except.bind, pure, Except.pure,
    decide_eq_true_eq]
  split_ifs with hneg
  · rw [show -(n.natAbs : Int) = n by omega]
  · rw [show (n.natAbs : Int) = n by omega]

theorem exists_of_readWhole {s : String} {v : Scalar} (h : readWhole s = .ok v) : ∃ n, v = .int n := by
  obtain ⟨⟨negative, cs⟩, -, h⟩ := exists_of_bind_ok h
  obtain ⟨n, -, h⟩ := exists_of_bind_ok h
  cases h
  exact ⟨_, rfl⟩

/-- a whole number has a text if its digits are not too many -/
theorem intText_eq_ok {n : Int} {t : String} : intText n = .ok t ↔ n.natAbs < 10 ^ digitLimit ∧ toString n = t := by
  have hlimit : ∀ k, tenTo k = 10 ^ k := fun _ => rfl
  rw [intText, hlimit]
  generalize 10 ^ digitLimit = limit
  split_ifs with hlong
  · simp [hlong]
  · simp [not_le.1 hlong]

/-! ## Floating numbers -/

theorem dropSign_suffix (cs : List Char) : dropSign cs <:+ cs := by
  unfold dropSign
  split
  · exact List.suffix_cons _ _
  · exact List.suffix_cons _ _
  · exact List.suffix_refl _

theorem suffix_of_dropSixty? (h : rest ∈ dropSixty? cs) : rest <:+ cs := by
  unfold dropSixty? at h
  split at h
  · rename_i a more
    have hmore : more <:+ ':' :: a :: more := ⟨[':', a], rfl⟩
    split_ifs at h
    · split at h
      · split_ifs at h
        · simp only [List.mem_cons, List.not_mem_nil, or_false] at h
          rcases h with rfl | rfl
          · exact (List.suffix_cons _ _).trans hmore
          · exact hmore
        · obtain rfl := List.mem_singleton.1 h
          exact hmore
      · obtain rfl := List.mem_singleton.1 h
        exact List.nil_suffix
    · cases h
  · cases h

/-- the groups of base sixty end before what satisfies the test -/
theorem exists_accepted {accept : List Char → Bool} {bound : Nat} (h : sixties accept bound cs = true) :
    ∃ rest, rest <:+ cs ∧ accept rest = true := by
  induction bound generalizing cs with
  | zero => cases h
  | succ bound ih =>
    obtain ⟨rest, hrest, hgoes⟩ := List.any_eq_true.1 h
    have hsuffix := suffix_of_dropSixty? hrest
    rcases Bool.or_eq_true_iff.1 hgoes with haccept | hmore
    · exact ⟨rest, hsuffix, haccept⟩
    · obtain ⟨later, hlater, haccept⟩ := ih hmore
      exact ⟨later, hlater.trans hsuffix, haccept⟩

theorem point_mem (h : isFloatForm cs = true) : '.' ∈ cs := by
  have hunsigned : '.' ∈ dropSign cs → '.' ∈ cs := fun hmem => (dropSign_suffix cs).subset hmem
  have hword : ∀ words : List String, (words.all fun w => w.toList.head? == some '.') = true →
      ∀ ds : List Char, words.contains (String.ofList ds) = true → '.' ∈ ds := by
    intro words hwords ds hmem
    have hhead := List.all_eq_true.1 hwords _ (List.contains_iff_mem.1 hmem)
    rw [String.toList_ofList, beq_iff_eq] at hhead
    exact List.mem_of_mem_head? hhead
  unfold isFloatForm at h
  simp only [Bool.or_eq_true] at h
  rcases h with (((hfraction | hbare) | hsixty) | hinf) | hnan
  · refine hunsigned ?_
    split at hfraction
    · rename_i heq
      rw [Bool.and_eq_true] at hfraction
      have hform := hfraction.2
      unfold isFractionForm at hform
      split at hform
      · rename_i hdrop
        rw [heq]
        exact List.mem_cons_of_mem _ ((List.dropWhile_suffix _).subset (hdrop ▸ List.mem_cons_self))
      · cases hform
    · cases hfraction
  · split at hbare
    · exact List.mem_cons_self
    · cases hbare
  · refine hunsigned ?_
    unfold isSixtyForm at hsixty
    split at hsixty
    · rename_i heq
      rw [Bool.and_eq_true] at hsixty
      obtain ⟨rest, hsuffix, haccept⟩ := exists_accepted hsixty.2
      rw [Bool.and_eq_true, decide_eq_true_eq] at haccept
      rw [heq]
      exact List.mem_cons_of_mem _
        ((List.dropWhile_suffix _).subset (hsuffix.subset (List.mem_of_mem_head? haccept.1)))
    · cases hsixty
  · exact hunsigned (hword _ (by decide) _ hinf)
  · exact hword _ (by decide) _ hnan

/-- what is resolved to a floating number has a point in it -/
theorem point_mem_of_resolve {s : String} (h : resolve s = .float) : '.' ∈ s.toList := by
  unfold resolve resolveChars at h
  split_ifs at h with hbool hfloat
  exact point_mem hfloat

theorem sound_sixtyFloat {ds : List Binary} {factor : Nat} {sum : Binary} (hsum : sum.Sound)
    (h : sixtyFloat factor sum ds = .ok x) : x.Sound := by
  induction ds generalizing factor sum with
  | nil =>
    cases h
    exact hsum
  | cons d ds ih =>
    unfold sixtyFloat at h
    split_ifs at h
    exact ih Binary.sound_add h

theorem sound_readPart (h : readPart cs = .ok x) : x.Sound := by
  unfold readPart at h
  split at h
  · rename_i hread
    cases h
    exact sound_readFloat? hread
  · cases h

theorem sound_readUnsignedFloat (h : readUnsignedFloat cs = .ok x) : x.Sound := by
  unfold readUnsignedFloat at h
  split_ifs at h
  · cases h
    trivial
  · cases h
    trivial
  · obtain ⟨ds, -, hsum⟩ := exists_of_bind_ok h
    have hzero : (Binary.finite false 0 (-1074)).Sound := ⟨by norm_num, le_rfl, by norm_num, Or.inl rfl⟩
    exact sound_sixtyFloat hzero hsum
  · exact sound_readPart h

/-- what is read as a floating number has its one form -/
theorem readFloating_sound {s : String} {v : Scalar} (h : readFloating s = .ok v) : ∃ x, v = .float x ∧ x.Sound := by
  obtain ⟨⟨negative, cs⟩, -, h⟩ := exists_of_bind_ok h
  obtain ⟨x, hread, h⟩ := exists_of_bind_ok h
  cases h
  have hsound := sound_readUnsignedFloat hread
  refine ⟨_, rfl, ?_⟩
  split_ifs
  · exact hsound.negate
  · exact hsound

/-! ### Read from their texts -/

section Texts

variable {ds whole part ex : List Char} {k e : Int} {m : Nat} {negative : Bool}

theorem isExponentForm_of (h : Exponent ex k) : isExponentForm ex = true := by
  cases h with
  | none => rfl
  | plus some digits => simpa [isExponentForm, isDigit_eq, some] using digits
  | minus some digits => simpa [isExponentForm, isDigit_eq, some] using digits

/-- a numeral, with or without a hyphen in front, starts with a digit and has the form of a floating number -/
theorem starts_numeral (h : Numeral ds whole part ex k) (hcs : cs = if negative then '-' :: ds else ds) :
    ∃ c rest, ds = c :: rest ∧ Starts cs c rest ∧ isFloatForm cs = true := by
  obtain ⟨c, rest, hwhole, hc⟩ := h.head?
  have hds : ds = c :: (rest ++ '.' :: (part ++ ex)) := by rw [h.chars, hwhole]; rfl
  have hstarts : Starts cs c (rest ++ '.' :: (part ++ ex)) := by
    refine ⟨?_, hc⟩
    rw [hcs, hds]
    split_ifs
    · exact Or.inr rfl
    · exact Or.inl rfl
  refine ⟨c, _, hds, hstarts, ?_⟩
  have hlow : ∀ {d}, d.isDigit = true → isDigitOrLow d = true := fun hd => by simp [isDigitOrLow, isDigit_eq, hd]
  have hpoint : isDigitOrLow '.' = false := by decide
  have hdrop : (rest ++ '.' :: (part ++ ex)).dropWhile isDigitOrLow = '.' :: (part ++ ex) := by
    rw [List.dropWhile_append_of_pos fun d hd => hlow (h.whole d (by rw [hwhole]; exact List.mem_cons_of_mem _ hd)),
      List.dropWhile_cons_of_neg (by simp [hpoint])]
  have hex : (part ++ ex).dropWhile isDigitOrLow = ex := by
    rw [List.dropWhile_append_of_pos fun d hd => hlow (h.part d hd)]
    rcases h.exponent.head? with rfl | hhead
    · rfl
    · obtain ⟨later, rfl⟩ := List.head?_eq_some_iff.1 hhead
      exact List.dropWhile_cons_of_neg (by decide)
  unfold isFloatForm
  simp only [hstarts.dropSign, hdrop, isFractionForm, hex, isExponentForm_of h.exponent, isDigit_eq, hc, Bool.true_and,
    Bool.true_or]

/-- a number whose text has a point is finite, and is shown as a numeral that spells it, with a hyphen in front if it is
negative -/
theorem exists_numeral (hsound : x.Sound) (hpoint : '.' ∈ x.text.toList) :
    ∃ negative m e ds whole part ex k, x = .finite negative m e ∧ x.text.toList = (if negative then '-' :: ds else ds) ∧
      Numeral ds whole part ex k ∧ readFloat? ds = some (.finite false m e) := by
  cases x with
  | notANumber => exact absurd hpoint (by decide)
  | infinite s =>
    cases s with
    | false => exact absurd hpoint (by decide)
    | true => exact absurd hpoint (by decide)
  | finite s m e =>
    refine ⟨s, m, e, ?_⟩
    have hsign : ∀ t : String, ((if s then "-" else "") ++ t).toList = if s then '-' :: t.toList else t.toList := by
      intro t
      cases s <;> simp
    by_cases hzero : m = 0
    · subst hzero
      have he : e = -1074 := hsound.full.resolve_right (by norm_num)
      subst he
      refine ⟨"0.0".toList, ['0'], ['0'], [], 0, rfl, ?_, ⟨by decide, by simp, by simp, by simp, .none⟩,
        by decide +kernel⟩
      rw [Binary.text, if_pos rfl, hsign]
    · have hm : 0 < m := Nat.pos_of_ne_zero hzero
      have htext : (Binary.finite s m e).text.toList =
          if s then '-' :: (layout (shortest m e)).toList else (layout (shortest m e)).toList := by
        rw [Binary.text, if_neg hzero, hsign]
      have hinside : '.' ∈ (layout (shortest m e)).toList := by
        rw [htext] at hpoint
        split_ifs at hpoint
        · exact (List.mem_cons.1 hpoint).resolve_left (by decide)
        · exact hpoint
      obtain ⟨whole, part, ex, k, hnumeral, -⟩ := layout_numeral (shortest_spec hm hsound) hinside
      exact ⟨_, whole, part, ex, k, rfl, htext, hnumeral, readFloat?_layout hm hsound hinside⟩

theorem resolve_floating (hsound : x.Sound) (hpoint : '.' ∈ x.text.toList) : resolve x.text = .float := by
  obtain ⟨negative, m, e, ds, whole, part, ex, k, -, htext, hnumeral, -⟩ := exists_numeral hsound hpoint
  obtain ⟨c, rest, -, hstarts, hform⟩ := starts_numeral hnumeral htext
  unfold resolve resolveChars
  rw [hstarts.isBoolForm, hform]
  rfl

/-- small letters stay as they are -/
theorem toSmall_eq (h : ∀ c ∈ cs, c.toNat < 128 ∧ c.toLower = c) :
    Text.toSmall (String.ofList cs) = String.ofList cs := by
  rw [Text.toSmall, String.toList_ofList]
  congr 1
  induction cs with
  | nil => rfl
  | cons c cs ih =>
    obtain ⟨hascii, hlower⟩ := h c List.mem_cons_self
    rw [List.flatMap_cons, Text.small_ascii hascii, hlower, ih fun d hd => h d (List.mem_cons_of_mem _ hd)]
    rfl

theorem readUnsignedFloat_numeral (h : Numeral ds whole part ex k) (hread : readFloat? ds = some x) :
    readUnsignedFloat ds = .ok x := by
  obtain ⟨c, rest, hwhole, hc⟩ := h.head?
  have hpoint : ∀ later : List Char, ds ≠ '.' :: later := by
    rintro later rfl
    have hchars := h.chars
    rw [hwhole] at hchars
    obtain ⟨rfl, -⟩ := List.cons.inj hchars
    exact absurd hc (by decide)
  have hcolon : ds.contains ':' = false := by
    rw [← Bool.not_eq_true, List.contains_iff_mem]
    intro hmem
    exact absurd (h.mem hmem) (by decide)
  have hinf : ds ≠ ".inf".toList := hpoint _
  have hnan : ds ≠ ".nan".toList := hpoint _
  unfold readUnsignedFloat
  rw [if_neg hinf, if_neg hnan, hcolon, if_neg Bool.false_ne_true, readPart, hread]

/-- a floating number whose text has a point is read as itself -/
theorem readFloating_text (hsound : x.Sound) (hpoint : '.' ∈ x.text.toList) :
    readFloating x.text = .ok (.float x) := by
  obtain ⟨negative, m, e, ds, whole, part, ex, k, rfl, htext, hnumeral, hread⟩ := exists_numeral hsound hpoint
  generalize (Binary.finite negative m e).text = text at htext ⊢
  obtain ⟨c, rest, rfl, hstarts, -⟩ := starts_numeral hnumeral htext
  have hmem : ∀ d ∈ text.toList, d.isDigit = true ∨ d = '.' ∨ d = 'e' ∨ d = '+' ∨ d = '-' := by
    intro d hd
    rw [htext] at hd
    split_ifs at hd
    · rcases List.mem_cons.1 hd with rfl | hd
      · exact Or.inr (Or.inr (Or.inr (Or.inr rfl)))
      · exact hnumeral.mem hd
    · exact hnumeral.mem hd
  have hlow : '_' ∉ text.toList := fun h => absurd (hmem _ h) (by decide)
  have hsmall : Text.toSmall (String.ofList text.toList) = String.ofList text.toList := by
    refine toSmall_eq fun d hd => ?_
    rcases hmem d hd with hdigit | rfl | rfl | rfl | rfl
    · exact ⟨(ascii_of_isDigit hdigit).1, toLower_of_isDigit hdigit⟩
    all_goals decide
  have hsign : decide (text.toList = '-' :: c :: rest) = negative := by
    rw [htext]
    cases negative <;> simp
  unfold readFloating
  simp only [filter_low hlow, hsmall, String.toList_ofList, takeSign_starts hstarts, hsign,
    readUnsignedFloat_numeral hnumeral hread, bind, Except.bind, pure, Except.pure]
  cases negative <;> rfl

end Texts

end LinePrompt.Yaml
