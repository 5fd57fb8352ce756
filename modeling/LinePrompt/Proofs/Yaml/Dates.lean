/-
Dates and times as plain scalars.

A date of the calendar, alone or with a time of day, is shown in digits of fixed width. Its text is resolved to a date
(`resolve_date`, `resolve_moment`) and read as itself (`readMoment_date`, `readMoment_text`). Every text that is read as
a date names one of the calendar, in the years up to 9999 (`readMoment_valid`).
-/
import LinePrompt.Proofs.Yaml.Numbers

namespace LinePrompt.Yaml

open LinePrompt.Decimal

variable {c : Char} {cs ds rest : List Char} {n width least most : Nat}

/-! ## Digits of fixed width -/

theorem digitsToNat_eq (h : ∀ c ∈ ds, c.isDigit = true) : digitsToNat ds = valueIn 10 ds := by
  rw [valueIn, digitsToNat]
  refine List.foldl_ext _ _ 0 fun n c hc => ?_
  rw [digitIn?_of_isDigit (h c hc)]
  rfl

theorem digitsToNat_lt (h : ∀ c ∈ ds, c.isDigit = true) : digitsToNat ds < 10 ^ ds.length := by
  induction ds using List.reverseRecOn with
  | nil => decide
  | append_singleton ds c ih =>
    rw [List.forall_mem_append] at h
    have hlast := (toNat_of_isDigit (h.2 c (List.mem_singleton_self c))).2
    have hfirst := ih h.1
    rw [digitsToNat, List.foldl_append, ← digitsToNat, List.length_append, List.length_singleton, pow_succ]
    simp only [List.foldl_cons, List.foldl_nil]
    omega

theorem toList_padded (width n : Nat) : (padded width n).toList =
    List.replicate (width - (Nat.toDigits 10 n).length) '0' ++ Nat.toDigits 10 n := by
  unfold padded
  simp only [String.toList_append, String.toList_ofList, toList_toString, ← String.length_toList]

theorem isDigit_padded (width n : Nat) : ∀ c ∈ (padded width n).toList, c.isDigit = true := by
  rw [toList_padded]
  exact List.forall_mem_append.2 ⟨isDigit_zeros _, isDigit_toDigits n⟩

theorem feed_not_mem_padded (width n : Nat) : '\n' ∉ (padded width n).toList := fun hmem =>
  absurd (isDigit_padded width n _ hmem) (by decide)

theorem length_padded (hn : n < 10 ^ width) (hwidth : 0 < width) : (padded width n).toList.length = width := by
  have hshort := (Nat.length_toDigits_le_iff (by decide) hwidth).2 hn
  rw [toList_padded, List.length_append, List.length_replicate]
  omega

theorem digitsToNat_padded (width n : Nat) : digitsToNat (padded width n).toList = n := by
  rw [digitsToNat_eq (isDigit_padded width n), toList_padded, valueIn_append (isDigit_zeros _) (isDigit_toDigits n),
    valueIn_zeros, valueIn_toDigits, Nat.zero_mul, Nat.zero_add]

/-- a padded number is taken off the front of what follows it -/
theorem takeDigits?_padded (hn : n < 10 ^ width) (hwidth : 0 < width) (hleast : least ≤ width) (rest : List Char) :
    takeDigits? least width ((padded width n).toList ++ rest) = some (n, width, rest) := by
  have hlength := length_padded hn hwidth
  have htake : (((padded width n).toList ++ rest).take width).takeWhile isDigit = (padded width n).toList := by
    rw [List.take_left' hlength]
    exact List.takeWhile_eq_self_iff.2 (isDigit_padded width n)
  unfold takeDigits?
  simp only [htake, hlength, hleast, if_true, digitsToNat_padded, List.drop_left' hlength]

theorem takeDigits?_lt {k : Nat} (h : takeDigits? least most cs = some (n, k, rest)) : n < 10 ^ most := by
  unfold takeDigits? at h
  dsimp only at h
  split_ifs at h
  cases h
  have hdigits : ∀ c ∈ (cs.take most).takeWhile isDigit, c.isDigit = true := fun c hc => List.mem_takeWhile_imp hc
  have hlength : ((cs.take most).takeWhile isDigit).length ≤ most :=
    (List.takeWhile_sublist _).length_le.trans (List.length_take_le _ _)
  exact (digitsToNat_lt hdigits).trans_le (Nat.pow_le_pow_right (by decide) hlength)

/-! ## Dates and times that there are -/

/-- a date of the calendar -/
structure Date.Valid (d : Date) : Prop where
  year : 1 ≤ d.year ∧ d.year ≤ 9999
  month : 1 ≤ d.month ∧ d.month ≤ 12
  day : 1 ≤ d.day ∧ d.day ≤ daysInMonth d.year d.month

/-- a time of day at a date of the calendar, less than a day away from universal time -/
structure Moment.Valid (m : Moment) : Prop where
  date : m.date.Valid
  hour : m.hour < 24
  minute : m.minute < 60
  second : m.second < 60
  micro : m.micro < 1000000
  offset : ∀ n ∈ m.offset, -1440 < n ∧ n < 1440

theorem Date.Valid.day_le {d : Date} (h : d.Valid) : d.day ≤ 31 := by
  refine h.day.2.trans ?_
  unfold daysInMonth
  split_ifs <;> omega

theorem checkDate_valid {d : Date} (h : d.Valid) : checkDate d.year d.month d.day = .ok d := by
  obtain ⟨hyear, hmonth, hday⟩ := h
  unfold checkDate
  rw [if_neg (by omega), if_neg (by omega), if_neg (by omega)]

theorem valid_of_checkDate {y m d : Nat} {date : Date} (hy : y ≤ 9999) (h : checkDate y m d = .ok date) :
    date.Valid := by
  unfold checkDate at h
  split_ifs at h with hyear hmonth hday
  have hmonths : 1 ≤ m ∧ m ≤ 12 := by omega
  have hdays : 1 ≤ d ∧ d ≤ daysInMonth y m := by omega
  cases h
  exact ⟨⟨Nat.one_le_iff_ne_zero.2 hyear, hy⟩, hmonths, hdays⟩

/-! ## What is read is a date of the calendar -/

theorem fraction_of_readTime? {t : TimeParts} (h : readTime? cs = some t) : ∀ c ∈ t.fraction, c.isDigit = true := by
  unfold readTime? at h
  simp only [bind, Option.bind_eq_some_iff] at h
  obtain ⟨⟨hour, _, cs₁⟩, -, cs₂, -, ⟨minute, _, cs₃⟩, -, cs₄, -, ⟨second, _, cs₅⟩, -, h⟩ := h
  dsimp only at h
  split at h
  · obtain ⟨offset, -, h⟩ := h
    cases h
    exact fun c hc => List.mem_takeWhile_imp hc
  · obtain ⟨offset, -, h⟩ := h
    cases h
    simp

/-- the year has four digits, and what stands behind the point of a time is digits -/
theorem parts_of_readDate? {parts : DateParts} {full : Bool} (h : readDate? cs = some (parts, full)) :
    parts.year ≤ 9999 ∧ ∀ t ∈ parts.time, ∀ c ∈ t.fraction, c.isDigit = true := by
  unfold readDate? at h
  simp only [bind, Option.bind_eq_some_iff] at h
  obtain ⟨⟨year, _, cs₁⟩, hyear, cs₂, -, ⟨month, _, cs₃⟩, -, cs₄, -, ⟨day, _, cs₅⟩, -, h⟩ := h
  have hyear : year ≤ 9999 := Nat.le_of_lt_succ (takeDigits?_lt hyear)
  have htimed : ∀ {t cs}, readTime? cs = some t → ∀ u ∈ some t, ∀ c ∈ u.fraction, c.isDigit = true := by
    intro t cs ht u hu
    obtain rfl := Option.mem_some_iff.1 hu
    exact fraction_of_readTime? ht
  dsimp only at h
  split at h
  · cases h
    exact ⟨hyear, by simp⟩
  · split_ifs at h
    · obtain ⟨t, ht, h⟩ := Option.bind_eq_some_iff.1 h
      cases h
      exact ⟨hyear, htimed ht⟩
    · obtain ⟨t, ht, h⟩ := Option.bind_eq_some_iff.1 h
      cases h
      exact ⟨hyear, htimed ht⟩

theorem microOf_lt (h : ∀ c ∈ ds, c.isDigit = true) : microOf ds < 1000000 := by
  have hdigits := digitsToNat_lt fun c hc => h c (List.mem_of_mem_take (i := 6) hc)
  have hlength : (ds.take 6).length ≤ 6 := List.length_take_le _ _
  have hpow : 10 ^ (ds.take 6).length * 10 ^ (6 - (ds.take 6).length) = 1000000 := by
    rw [← pow_add, Nat.add_sub_cancel' hlength]
    rfl
  rw [microOf, ← hpow]
  exact Nat.mul_lt_mul_of_pos_right hdigits (tenTo_pos _)

/-- the characters that a date is read from: a line feed at the very end is not among them -/
def dateChars (s : String) : List Char := if s.toList.getLast? = some '\n' then s.toList.dropLast else s.toList

theorem ite_error_eq_ok {ε α : Type} {p : Prop} [Decidable p] {e : ε} {x : Except ε α} {a : α} :
    (if p then .error e else x) = .ok a ↔ ¬ p ∧ x = .ok a := by
  split_ifs with hp <;> simp [hp]

/-- a date with a time is read if both are in their ranges -/
theorem readMoment_timed {s : String} {cell : Cell} {parts : DateParts} {full : Bool} {t : TimeParts}
    (hread : readDate? (dateChars s) = some (parts, full)) (htime : parts.time = some t) :
    readMoment s = .ok cell ↔ (∀ n ∈ t.offset, -1440 < n ∧ n < 1440) ∧
      ∃ d, checkDate parts.year parts.month parts.day = .ok d ∧ t.hour < 24 ∧ t.minute < 60 ∧ t.second < 60 ∧
        Cell.moment ⟨d, t.hour, t.minute, t.second, microOf t.fraction, t.offset⟩ = cell := by
  obtain ⟨year, month, day, time⟩ := parts
  obtain rfl : time = some t := htime
  obtain ⟨hour, minute, second, fraction, offset⟩ := t
  have hhour : ¬ 23 < hour ↔ hour < 24 := by omega
  have hminute : ¬ 59 < minute ↔ minute < 60 := by omega
  have hsecond : ¬ 59 < second ↔ second < 60 := by omega
  unfold dateChars at hread
  unfold readMoment
  simp only [hread, bind, Except.bind, pure, Except.pure, throw, throwThe, MonadExceptOf.throw]
  cases hdate : checkDate year month day with
  | error fault =>
    cases offset with
    | none => simp
    | some n => simp [ite_error_eq_ok]
  | ok d =>
    cases offset with
    | none => simp [ite_error_eq_ok, hhour, hminute, hsecond, -not_lt]
    | some n => simp [ite_error_eq_ok, hhour, hminute, hsecond, -not_lt]

/-- a date alone is read if it is one of the calendar -/
theorem readMoment_untimed {s : String} {parts : DateParts} {full : Bool}
    (hread : readDate? (dateChars s) = some (parts, full)) (htime : parts.time = none) :
    readMoment s = (checkDate parts.year parts.month parts.day).map .date := by
  unfold dateChars at hread
  unfold readMoment
  simp only [hread, htime]

/-- **Dates that are read.** What is read is a date of the calendar, or a time of day at one. -/
theorem readMoment_valid {s : String} {cell : Cell} (h : readMoment s = .ok cell) :
    (∃ d : Date, cell = .date d ∧ d.Valid) ∨ ∃ m : Moment, cell = .moment m ∧ m.Valid := by
  cases hread : readDate? (dateChars s) with
  | none =>
    unfold dateChars at hread
    unfold readMoment at h
    simp [hread] at h
  | some found =>
    obtain ⟨parts, full⟩ := found
    obtain ⟨hyear, hfraction⟩ := parts_of_readDate? hread
    cases htime : parts.time with
    | none =>
      rw [readMoment_untimed hread htime] at h
      obtain ⟨d, hd, rfl⟩ := exists_of_map_ok h
      exact Or.inl ⟨d, rfl, valid_of_checkDate hyear hd⟩
    | some t =>
      obtain ⟨hoffset, d, hd, hhour, hminute, hsecond, rfl⟩ := (readMoment_timed hread htime).1 h
      exact Or.inr ⟨_, rfl, valid_of_checkDate hyear hd, hhour, hminute, hsecond, microOf_lt (hfraction t htime),
        hoffset⟩

/-! ## Read from their texts -/

variable {d : Date} {m : Moment}

theorem toList_date (d : Date) : d.text.toList =
    (padded 4 d.year).toList ++ '-' :: ((padded 2 d.month).toList ++ '-' :: (padded 2 d.day).toList) := by
  simp [Date.text]

/-- a date is taken off the front of what follows it -/
theorem readDate?_date (h : d.Valid) (rest : List Char) : readDate? (d.text.toList ++ rest) =
    match rest with
    | [] => some (⟨d.year, d.month, d.day, none⟩, true)
    | c :: rest =>
      if c = 'T' || c = 't' then (readTime? rest).map fun t => (⟨d.year, d.month, d.day, some t⟩, true)
      else if isGap c then (readTime? (rest.dropWhile isGap)).map fun t => (⟨d.year, d.month, d.day, some t⟩, true)
      else none := by
  have hday := h.day_le
  obtain ⟨⟨-, hyear⟩, ⟨-, hmonth⟩, -⟩ := h
  have hyears := takeDigits?_padded (show d.year < 10 ^ 4 by omega) (by decide) (le_refl 4)
  have hmonths := takeDigits?_padded (show d.month < 10 ^ 2 by omega) (by decide) (show 1 ≤ 2 by decide)
  have hdays := takeDigits?_padded (show d.day < 10 ^ 2 by omega) (by decide) (show 1 ≤ 2 by decide)
  rw [toList_date]
  simp only [List.append_assoc, List.cons_append]
  unfold readDate?
  simp only [hyears, hmonths, hdays, expect?, if_true, bind, Option.bind_some]
  cases rest with
  | nil => rfl
  | cons c rest =>
    dsimp only
    split_ifs
    · cases readTime? rest <;> rfl
    · cases readTime? (rest.dropWhile isGap) <;> rfl
    · rfl

/-- the characters of a fraction of a second -/
def fractionChars (micro : Nat) : List Char := if micro = 0 then [] else (padded 6 micro).toList

/-- the characters of a zone -/
def zoneChars : Option Int → List Char
  | none => []
  | some n => (offsetText n).toList

/-- the characters of a time of day -/
def clockChars (m : Moment) : List Char :=
  (padded 2 m.hour).toList ++ ':' :: ((padded 2 m.minute).toList ++ ':' :: ((padded 2 m.second).toList ++
    ((if m.micro = 0 then [] else '.' :: fractionChars m.micro) ++ zoneChars m.offset)))

theorem toList_moment (m : Moment) : m.text.toList = m.date.text.toList ++ ' ' :: clockChars m := by
  obtain ⟨date, hour, minute, second, micro, offset⟩ := m
  unfold Moment.text clockChars zoneChars fractionChars
  cases offset <;> split_ifs <;> simp

theorem microOf_fractionChars {micro : Nat} (h : micro < 1000000) : microOf (fractionChars micro) = micro := by
  unfold fractionChars
  split_ifs with hzero
  · rw [hzero]
    rfl
  · have hlength := length_padded (show micro < 10 ^ 6 by omega) (by decide)
    rw [microOf, List.take_of_length_le hlength.le, digitsToNat_padded, hlength]
    exact Nat.mul_one _

theorem toList_offset (n : Int) : (offsetText n).toList = (if n < 0 then '-' else '+') ::
    ((padded 2 (n.natAbs / 60)).toList ++ ':' :: (padded 2 (n.natAbs % 60)).toList) := by
  unfold offsetText
  split_ifs <;> simp

theorem readZone?_signed {sign : Char} {hours minutes : Nat} (hsign : sign = '+' ∨ sign = '-') (hhours : hours < 100)
    (hminutes : minutes < 100) :
    readZone? (sign :: ((padded 2 hours).toList ++ ':' :: (padded 2 minutes).toList)) =
      some (some (if sign = '-' then -(60 * hours + minutes : Int) else 60 * hours + minutes)) := by
  have hleft := takeDigits?_padded (show hours < 10 ^ 2 from hhours) (by decide) (show 1 ≤ 2 by decide)
  have hright := takeDigits?_padded (show minutes < 10 ^ 2 from hminutes) (by decide) (le_refl 2) []
  rw [List.append_nil] at hright
  have hgap : isGap sign = false := by rcases hsign with rfl | rfl <;> decide
  have hzulu : sign ≠ 'Z' := by rcases hsign with rfl | rfl <;> decide
  have hsigned : (decide (sign = '+') || decide (sign = '-')) = true := by simpa using hsign
  unfold readZone?
  rw [List.isEmpty_cons, if_neg Bool.false_ne_true, List.dropWhile_cons_of_neg (by simp [hgap])]
  split
  · rename_i heq
    exact absurd (List.cons.inj heq).1 hzulu
  · rename_i heq
    obtain ⟨rfl, rfl⟩ := List.cons.inj heq
    simp only [hsigned, hleft, hright, if_true, List.isEmpty_nil, bind, Option.bind_some]
  · rename_i heq
    cases heq

/-- a zone is read as the distance that it names -/
theorem readZone?_zoneChars {offset : Option Int} (h : ∀ n ∈ offset, -1440 < n ∧ n < 1440) :
    readZone? (zoneChars offset) = some offset := by
  cases offset with
  | none => rfl
  | some n =>
    obtain ⟨hlow, hhigh⟩ := h n rfl
    rw [zoneChars, toList_offset, readZone?_signed (by split_ifs <;> simp) (by omega) (by omega)]
    rcases lt_or_ge n 0 with hneg | hneg
    · simp only [hneg, if_true, Option.some.injEq]
      omega
    · simp only [not_lt.2 hneg, if_false, Option.some.injEq, show ('+' : Char) ≠ '-' by decide]
      omega

/-- a time of day is read as itself -/
theorem readTime?_clockChars (h : m.Valid) :
    readTime? (clockChars m) = some ⟨m.hour, m.minute, m.second, fractionChars m.micro, m.offset⟩ := by
  obtain ⟨-, hhour, hminute, hsecond, -, hoffset⟩ := h
  have hhours := takeDigits?_padded (show m.hour < 10 ^ 2 by omega) (by decide) (show 1 ≤ 2 by decide)
  have hminutes := takeDigits?_padded (show m.minute < 10 ^ 2 by omega) (by decide) (le_refl 2)
  have hseconds := takeDigits?_padded (show m.second < 10 ^ 2 by omega) (by decide) (le_refl 2)
  -- a zone starts with a sign
  have hsign : (zoneChars m.offset).takeWhile isDigit = [] ∧
      (zoneChars m.offset).dropWhile isDigit = zoneChars m.offset ∧ (zoneChars m.offset).head? ≠ some '.' := by
    cases m.offset with
    | none => decide
    | some n =>
      rw [zoneChars, toList_offset]
      split_ifs
      · exact ⟨List.takeWhile_cons_of_neg (by decide), List.dropWhile_cons_of_neg (by decide), by simp⟩
      · exact ⟨List.takeWhile_cons_of_neg (by decide), List.dropWhile_cons_of_neg (by decide), by simp⟩
  obtain ⟨htake, hdrop, hpoint⟩ := hsign
  unfold clockChars readTime?
  simp only [hhours, hminutes, hseconds, expect?, if_true, bind, Option.bind_some]
  split_ifs with hzero
  · rw [List.nil_append]
    split
    · rename_i heq
      rw [heq] at hpoint
      exact absurd rfl hpoint
    · simp [readZone?_zoneChars hoffset, fractionChars, hzero]
  · have hdigits : ∀ c ∈ fractionChars m.micro, isDigit c = true := by
      rw [fractionChars, if_neg hzero]
      exact isDigit_padded 6 m.micro
    simp only [List.cons_append]
    rw [List.takeWhile_append_of_pos hdigits, List.dropWhile_append_of_pos hdigits, htake, hdrop, List.append_nil,
      readZone?_zoneChars hoffset]
    rfl

theorem readDate?_text (h : d.Valid) : readDate? d.text.toList = some (⟨d.year, d.month, d.day, none⟩, true) := by
  rw [← List.append_nil d.text.toList, readDate?_date h]

theorem readDate?_moment (h : m.Valid) : readDate? m.text.toList =
    some (⟨m.date.year, m.date.month, m.date.day,
      some ⟨m.hour, m.minute, m.second, fractionChars m.micro, m.offset⟩⟩, true) := by
  -- no gap is longer than the blank: a time of day starts with a digit
  have hgap : (clockChars m).dropWhile isGap = clockChars m := by
    have hdigit := isDigit_padded 2 m.hour
    have hlength := length_padded (show m.hour < 10 ^ 2 from h.hour.trans (by decide)) (by decide)
    unfold clockChars
    cases hchars : (padded 2 m.hour).toList with
    | nil => simp [hchars] at hlength
    | cons c rest =>
      rw [hchars] at hdigit
      have hc : isGap c = false := by
        have hdigit := hdigit c List.mem_cons_self
        simp [isGap, ne_of_isDigit hdigit (show (' ' : Char).isDigit = false by decide),
          ne_of_isDigit hdigit (show ('\t' : Char).isDigit = false by decide)]
      exact List.dropWhile_cons_of_neg (by simp [hc])
  rw [toList_moment, readDate?_date h.date]
  simp [hgap, readTime?_clockChars h, isGap]

/-- what starts with a date is resolved to one, if it is one -/
theorem resolve_dated {s : String} {rest : List Char} {parts : DateParts} (hs : s.toList = d.text.toList ++ rest)
    (hread : readDate? s.toList = some (parts, true)) : resolve s = .timestamp := by
  have hyear := isDigit_padded 4 d.year
  have hlength : (padded 4 d.year).toList ≠ [] := by
    rw [toList_padded]
    simp [Nat.toDigits_ne_nil]
  obtain ⟨c, more, hchars⟩ := List.exists_cons_of_ne_nil hlength
  rw [hchars] at hyear
  obtain ⟨later, hlater⟩ : ∃ later, s.toList = c :: (more ++ '-' :: later) :=
    ⟨(padded 2 d.month).toList ++ '-' :: ((padded 2 d.day).toList ++ rest), by simp [hs, toList_date, hchars]⟩
  have hstarts : Starts s.toList c (more ++ '-' :: later) := ⟨Or.inl hlater, hyear c List.mem_cons_self⟩
  have hdrop : (more ++ '-' :: later).dropWhile isDigitOrLow = '-' :: later := by
    rw [List.dropWhile_append_of_pos fun d hd => by
      simp [isDigitOrLow, isDigit_eq, hyear d (List.mem_cons_of_mem _ hd)]]
    exact List.dropWhile_cons_of_neg (by decide)
  have hcolon : ((more ++ '-' :: later).dropWhile isDigitOrLow).head? ≠ some ':' := by simp [hdrop]
  have hpoint : ((more ++ '-' :: later).dropWhile isDigitOrLow).head? ≠ some '.' := by simp [hdrop]
  have hform : isTimestampForm s.toList = true := by simp [isTimestampForm, hread]
  unfold resolve resolveChars
  rw [hstarts.isBoolForm, hstarts.isFloatForm hpoint hcolon, hstarts.isIntForm (by simp) hcolon, hstarts.isNullForm,
    hform, if_neg (hstarts.notChars (d := '<') (by decide) (by decide))]
  rfl

theorem resolve_date (h : d.Valid) : resolve d.text = .timestamp :=
  resolve_dated (List.append_nil _).symm (readDate?_text h)

theorem resolve_moment (h : m.Valid) : resolve m.text = .timestamp :=
  resolve_dated (toList_moment m) (readDate?_moment h)

/-- what is shown of a date has no line feed at its end -/
theorem dateChars_eq {s : String} (h : '\n' ∉ s.toList) : dateChars s = s.toList := by
  rw [dateChars, if_neg]
  exact fun hlast => h (List.mem_of_getLast? hlast)

theorem readMoment_date (h : d.Valid) : readMoment d.text = .ok (.date d) := by
  have hfeed : '\n' ∉ d.text.toList := by simp [toList_date, feed_not_mem_padded]
  rw [readMoment_untimed (by rw [dateChars_eq hfeed, readDate?_text h]) rfl]
  simp only [checkDate_valid h]
  rfl

theorem readMoment_text (h : m.Valid) : readMoment m.text = .ok (.moment m) := by
  have hzone : '\n' ∉ zoneChars m.offset := by
    cases m.offset with
    | none => simp [zoneChars]
    | some n =>
      rw [zoneChars, toList_offset]
      split_ifs <;> simp [feed_not_mem_padded]
  have hfeed : '\n' ∉ m.text.toList := by
    rw [toList_moment, toList_date]
    unfold clockChars fractionChars
    split_ifs <;> simp [feed_not_mem_padded, hzone]
  rw [readMoment_timed (by rw [dateChars_eq hfeed, readDate?_moment h]) rfl]
  exact ⟨h.offset, m.date, checkDate_valid h.date, h.hour, h.minute, h.second, by rw [microOf_fractionChars h.micro]⟩

end LinePrompt.Yaml
