/-
What a conversion reads, and what it comes to.

A conversion is a doubled percent sign or takes an argument (`conversion_ok`). One that takes an argument is known by
its layout and its letter, whatever the argument is (`Takes`). A text that can be formatted is made of conversions, and
of characters that stand for themselves (`Made`). So the number of arguments that fit a text is a matter of the text
alone: with any other number the arguments are wrong (`pieces_misfit`). Plain text in front of a text stays in front of
the result (`format_append`).

Widths and letters hold no mark and no backslash, so a conversion never leaves the quoted text it starts in: what a
quoted text shows at the front without them, the text itself has at the front (`front_of_quoted`).
-/
import Mathlib.Data.List.TakeWhile
import LinePrompt.Proofs.Log.Formatting

namespace LinePrompt.Text

variable {mark c : Char} {s front rest tail : List Char}

/-! ## Quoted texts from the front -/

/-- a character is quoted by itself or by an escape -/
theorem quoteChar_cases (mark c : Char) : quoteChar mark c = [c] ∨ ∃ code, quoteChar mark c = '\\' :: code := by
  have hcode : ∃ code, codeEscape c = '\\' :: code := by
    unfold codeEscape
    dsimp only
    split_ifs <;> exact ⟨_, rfl⟩
  unfold quoteChar
  split_ifs
  · exact Or.inr ⟨_, rfl⟩
  · exact Or.inr ⟨_, rfl⟩
  · exact Or.inr ⟨_, rfl⟩
  · exact Or.inr ⟨_, rfl⟩
  · exact Or.inl rfl
  · exact Or.inr hcode

/-- what a quoted text shows in front of its marks and escapes is in front of the text -/
theorem front_of_quoted (hfront : ∀ c ∈ front, c ≠ mark ∧ c ≠ '\\')
    (h : s.flatMap (quoteChar mark) ++ mark :: tail = front ++ rest) :
    ∃ s', s = front ++ s' ∧ rest = s'.flatMap (quoteChar mark) ++ mark :: tail := by
  induction front generalizing s with
  | nil => exact ⟨s, rfl, h.symm⟩
  | cons c front ih =>
    obtain ⟨hmark, hslash⟩ := hfront c List.mem_cons_self
    cases s with
    | nil => exact absurd (List.cons.inj h).1.symm hmark
    | cons c' s =>
      rw [List.flatMap_cons, List.append_assoc] at h
      rcases quoteChar_cases mark c' with hself | ⟨code, hcode⟩
      · rw [hself] at h
        obtain ⟨rfl, hrest⟩ := List.cons.inj h
        obtain ⟨s', rfl, hs'⟩ := ih (fun c hc => hfront c (List.mem_cons_of_mem _ hc)) hrest
        exact ⟨s', rfl, hs'⟩
      · rw [hcode] at h
        exact absurd (List.cons.inj h).1.symm hslash

namespace Percent

variable {args args' : List String} {a : String} {p : Piece} {l : Layout} {letter : Char} {cs digits flags : List Char}
  {limit n bound bound' : Nat} {ps : List Piece} {f : Flaw} {precision : Option Nat}

/-! ## Conversions -/

/-- the characters between a percent sign and its letter -/
def isSpec (c : Char) : Bool := isFlag c || isDigit c || c = '.' || c = 'h' || c = 'l' || c = 'L'

/-- a conversion that takes an argument, its percent sign already read -/
structure Takes (cs : List Char) (l : Layout) (letter : Char) (rest : List Char) : Prop where
  spec : ∃ spec, cs = spec ++ letter :: rest ∧ ∀ c ∈ spec, isSpec c = true
  text : isTextLetter letter = true
  fits : l.width < memoryLimit
  /-- it is the same conversion for all arguments -/
  reads : ∀ args, conversion args cs = convert l args (letter :: rest)

theorem readNumber_ok (h : readNumber limit cs = .ok (n, rest)) :
    n = digitsValue (cs.takeWhile isDigit) ∧ cs = cs.takeWhile isDigit ++ rest := by
  unfold readNumber at h
  split at h
  · cases h
  · dsimp only at h
    split_ifs at h with hlimit
    cases h
    exact ⟨rfl, List.takeWhile_append_dropWhile.symm⟩

theorem readNumber_error (h : readNumber limit cs = .error f) : f ≠ .tooWide := by
  unfold readNumber at h
  split at h
  · cases h
    decide
  · dsimp only at h
    split_ifs at h with hlimit
    cases h
    decide

theorem readPrecision_ok (h : readPrecision cs = .ok (precision, rest)) :
    ∃ point, cs = point ++ rest ∧ ∀ c ∈ point, isSpec c = true := by
  unfold readPrecision at h
  split at h
  · next after =>
    rcases hnumber : readNumber precisionLimit after with f | ⟨n, rest'⟩
    · simp [hnumber, Except.map] at h
    · simp only [hnumber, Except.map, Except.ok.injEq, Prod.mk.injEq] at h
      obtain ⟨-, rfl⟩ := h
      refine ⟨'.' :: after.takeWhile isDigit, congrArg ('.' :: ·) (readNumber_ok hnumber).2, ?_⟩
      rintro c (_ | ⟨_, hc⟩)
      · rfl
      · simp [isSpec, List.mem_takeWhile_imp hc]
  · cases h
    exact ⟨[], rfl, fun c hc => absurd hc List.not_mem_nil⟩

theorem readPrecision_error (h : readPrecision cs = .error f) : f ≠ .tooWide := by
  unfold readPrecision at h
  split at h
  · next after =>
    rcases hnumber : readNumber precisionLimit after with f' | _
    · simp only [hnumber, Except.map, Except.error.injEq] at h
      exact h ▸ readNumber_error hnumber
    · simp [hnumber, Except.map] at h
  · cases h

theorem skipLength_spec (cs : List Char) : ∃ length, cs = length ++ skipLength cs ∧ ∀ c ∈ length, isSpec c = true := by
  cases cs with
  | nil => exact ⟨[], rfl, fun c hc => absurd hc List.not_mem_nil⟩
  | cons c rest =>
    by_cases hc : (c = 'h' || c = 'l' || c = 'L') = true
    · refine ⟨[c], by simp only [skipLength, hc, if_true, List.singleton_append], ?_⟩
      intro x hx
      rw [List.mem_singleton.1 hx]
      simp only [Bool.or_eq_true, decide_eq_true_eq] at hc
      rcases hc with (rfl | rfl) | rfl <;> rfl
    · exact ⟨[], by simp only [skipLength, hc, List.nil_append]; rfl, fun c hc => absurd hc List.not_mem_nil⟩

theorem convert_ok (h : convert l args cs = .ok (p, args', rest)) :
    ∃ a letter, args = a :: args' ∧ cs = letter :: rest ∧ isTextLetter letter = true ∧ l.width < memoryLimit ∧
      p = ⟨l, present letter a⟩ := by
  unfold convert at h
  split at h
  · cases h
  · next letter rest' =>
    split at h
    · cases h
    · next a args₁ =>
      split_ifs at h with htext hfits
      cases h
      exact ⟨a, letter, rfl, rfl, htext, hfits, rfl⟩

theorem convert_tooWide (h : convert l args cs = .error .tooWide) : memoryLimit ≤ l.width := by
  unfold convert at h
  split at h
  · cases h
  · split at h
    · cases h
    · split_ifs at h with htext hfits
      · exact Nat.le_of_not_lt hfits
      · cases h
      · cases h

/-- a conversion is a doubled percent sign, or it takes an argument -/
theorem conversion_ok (h : conversion args cs = .ok (p, args', rest)) :
    (cs = '%' :: rest ∧ args' = args ∧ p = .plain ['%']) ∨
      ∃ a l letter, args = a :: args' ∧ p = ⟨l, present letter a⟩ ∧ Takes cs l letter rest := by
  have hflags : ∀ c ∈ cs.takeWhile isFlag, isSpec c = true := by
    intro c hc
    simp [isSpec, List.mem_takeWhile_imp hc]
  unfold conversion at h
  split at h
  · cases h
    exact Or.inl ⟨rfl, rfl, rfl⟩
  · cases h
  · next hdouble hkey =>
    dsimp only at h
    rcases hwidth : readWidth (cs.dropWhile isFlag) with f | ⟨width, afterWidth⟩
    · simp [hwidth] at h
    rcases hprecision : readPrecision afterWidth with f | ⟨precision, afterPrecision⟩
    · simp [hwidth, hprecision] at h
    simp only [hwidth, hprecision] at h
    obtain ⟨a, letter, rfl, hletter, htext, hfits, rfl⟩ := convert_ok h
    obtain ⟨-, hdigits⟩ := readNumber_ok hwidth
    obtain ⟨point, hpoint, hpointSpec⟩ := readPrecision_ok hprecision
    obtain ⟨length, hlength, hlengthSpec⟩ := skipLength_spec afterPrecision
    refine Or.inr ⟨a, _, letter, rfl, rfl, ?_, htext, hfits, ?_⟩
    · refine ⟨cs.takeWhile isFlag ++ ((cs.dropWhile isFlag).takeWhile isDigit ++ (point ++ length)), ?_, ?_⟩
      · calc cs = cs.takeWhile isFlag ++ cs.dropWhile isFlag := List.takeWhile_append_dropWhile.symm
          _ = cs.takeWhile isFlag ++ ((cs.dropWhile isFlag).takeWhile isDigit ++ afterWidth) := by rw [← hdigits]
          _ = _ := by rw [hpoint, hlength, hletter]; simp only [List.append_assoc]
      · intro c hc
        simp only [List.mem_append] at hc
        rcases hc with hc | hc | hc | hc
        · exact hflags c hc
        · simp [isSpec, List.mem_takeWhile_imp hc]
        · exact hpointSpec c hc
        · exact hlengthSpec c hc
    · intro args
      unfold conversion
      split
      · next rest' => exact absurd rfl (hdouble rest')
      · next rest' => exact absurd rfl (hkey rest')
      · simp only [hwidth, hprecision, hletter]

/-- a width that no memory holds stands right behind its percent sign -/
theorem conversion_tooWide (h : conversion args cs = .error .tooWide) :
    ∃ flags digits rest, cs = flags ++ (digits ++ rest) ∧ (∀ c ∈ flags, isFlag c = true) ∧
      (∀ c ∈ digits, isDigit c = true) ∧ memoryLimit ≤ digitsValue digits := by
  unfold conversion at h
  split at h
  · cases h
  · cases h
  · dsimp only at h
    rcases hwidth : readWidth (cs.dropWhile isFlag) with f | ⟨width, afterWidth⟩
    · simp only [hwidth, Except.error.injEq] at h
      exact absurd h (readNumber_error hwidth)
    rcases hprecision : readPrecision afterWidth with f | ⟨precision, afterPrecision⟩
    · simp only [hwidth, hprecision, Except.error.injEq] at h
      exact absurd h (readPrecision_error hprecision)
    simp only [hwidth, hprecision] at h
    obtain ⟨hvalue, hdigits⟩ := readNumber_ok hwidth
    refine ⟨cs.takeWhile isFlag, (cs.dropWhile isFlag).takeWhile isDigit, afterWidth, ?_,
      fun c hc => List.mem_takeWhile_imp hc, fun c hc => List.mem_takeWhile_imp hc, hvalue ▸ convert_tooWide h⟩
    rw [← hdigits]
    exact List.takeWhile_append_dropWhile.symm

/-! ## Arguments -/

theorem Takes.conversion_nil (h : Takes cs l letter rest) : conversion [] cs = .error .wrongArguments := h.reads []

theorem Takes.conversion_cons (h : Takes cs l letter rest) (a : String) (args : List String) :
    conversion (a :: args) cs = .ok (⟨l, present letter a⟩, args, rest) := by
  rw [h.reads, convert, if_pos h.text, if_pos h.fits]

theorem Takes.length_lt (h : Takes cs l letter rest) : rest.length < cs.length := by
  obtain ⟨spec, rfl, -⟩ := h.spec
  rw [List.length_append, List.length_cons]
  omega

/-- the pieces that a text with its arguments comes to, read from the front -/
inductive Made : List String → List Char → List Piece → Prop where
  | nil : Made [] [] []
  | plain {c : Char} {args : List String} {cs : List Char} {ps : List Piece} (hc : c ≠ '%') (made : Made args cs ps) :
    Made args (c :: cs) (.plain [c] :: ps)
  | percent {args : List String} {cs : List Char} {ps : List Piece} (made : Made args cs ps) :
    Made args ('%' :: '%' :: cs) (.plain ['%'] :: ps)
  | argument {a : String} {l : Layout} {letter : Char} {args : List String} {cs rest : List Char} {ps : List Piece}
    (takes : Takes cs l letter rest) (made : Made args rest ps) :
    Made (a :: args) ('%' :: cs) (⟨l, present letter a⟩ :: ps)

theorem pieces_nil_ok (h : pieces bound args [] = .ok ps) : args = [] ∧ ps = [] := by
  cases args with
  | nil => cases bound <;> cases h <;> exact ⟨rfl, rfl⟩
  | cons a args => cases bound <;> cases h

/-- one step through a text that can be formatted -/
theorem pieces_cons_ok (h : pieces (bound + 1) args (c :: cs) = .ok ps) :
    ∃ args' rest p qs, ps = p :: qs ∧ pieces bound args' rest = .ok qs ∧
      (c ≠ '%' ∧ args' = args ∧ rest = cs ∧ p = .plain [c] ∨ c = '%' ∧ conversion args cs = .ok (p, args', rest)) := by
  have hmap {p : Piece} {args' : List String} {rest : List Char} (h : (pieces bound args' rest).map (p :: ·) = .ok ps) :
      ∃ qs, ps = p :: qs ∧ pieces bound args' rest = .ok qs := by
    rcases hrest : pieces bound args' rest with f | qs
    · simp [hrest, Except.map] at h
    · exact ⟨qs, by simpa [hrest, Except.map, eq_comm] using h, rfl⟩
  rw [pieces] at h
  split_ifs at h with hpercent
  · rcases hconversion : conversion args cs with f | ⟨p, args', rest⟩
    · simp [hconversion] at h
    rw [hconversion] at h
    obtain ⟨qs, hps, hqs⟩ := hmap h
    exact ⟨args', rest, p, qs, hps, hqs, Or.inr ⟨hpercent, rfl⟩⟩
  · obtain ⟨qs, hps, hqs⟩ := hmap h
    exact ⟨args, cs, .plain [c], qs, hps, hqs, Or.inl ⟨hpercent, rfl, rfl, rfl⟩⟩

theorem made_of_pieces (h : pieces bound args cs = .ok ps) : Made args cs ps := by
  induction bound generalizing args cs ps with
  | zero =>
    cases cs with
    | nil =>
      obtain ⟨rfl, rfl⟩ := pieces_nil_ok h
      exact .nil
    | cons c cs => cases h
  | succ bound ih =>
    cases cs with
    | nil =>
      obtain ⟨rfl, rfl⟩ := pieces_nil_ok h
      exact .nil
    | cons c cs =>
      obtain ⟨args', rest, p, qs, rfl, hqs, ⟨hc, rfl, rfl, rfl⟩ | ⟨rfl, hconversion⟩⟩ := pieces_cons_ok h
      · exact .plain hc (ih hqs)
      · rcases conversion_ok hconversion with ⟨rfl, rfl, rfl⟩ | ⟨a, l, letter, rfl, rfl, htakes⟩
        · exact .percent (ih hqs)
        · exact .argument htakes (ih hqs)

/-- **The text alone says how many arguments fit it**: any other number is wrong. -/
theorem pieces_misfit (h : Made args cs ps) (hargs : args'.length ≠ args.length) (hb : cs.length ≤ bound) :
    pieces bound args' cs = .error .wrongArguments := by
  induction h generalizing args' bound with
  | nil =>
    cases args' with
    | nil => exact absurd rfl hargs
    | cons a args => cases bound <;> rfl
  | @plain c args cs ps hc made ih =>
    obtain ⟨bound, rfl⟩ : ∃ b, bound = b + 1 := ⟨bound - 1, by rw [List.length_cons] at hb; omega⟩
    rw [pieces, if_neg hc, ih hargs (by simpa using hb)]
    rfl
  | @percent args cs ps made ih =>
    obtain ⟨bound, rfl⟩ : ∃ b, bound = b + 1 := ⟨bound - 1, by rw [List.length_cons] at hb; omega⟩
    rw [List.length_cons, Nat.succ_le_succ_iff] at hb
    have hdouble : conversion args' ('%' :: cs) = .ok (.plain ['%'], args', cs) := rfl
    rw [pieces, if_pos rfl, hdouble]
    dsimp only
    rw [ih hargs (Nat.le_trans (Nat.le_succ _) hb)]
    rfl
  | @argument a l letter args cs rest ps takes made ih =>
    obtain ⟨bound, rfl⟩ : ∃ b, bound = b + 1 := ⟨bound - 1, by rw [List.length_cons] at hb; omega⟩
    rw [List.length_cons, Nat.succ_le_succ_iff] at hb
    rw [pieces, if_pos rfl]
    cases args' with
    | nil => rw [takes.conversion_nil]
    | cons a' args' =>
      rw [takes.conversion_cons]
      dsimp only
      rw [ih (by simpa using hargs) (Nat.le_trans (Nat.le_of_lt takes.length_lt) hb)]
      rfl

/-! ## Bounds -/

/-- a step reads on -/
theorem length_conversion (h : conversion args cs = .ok (p, args', rest)) : rest.length ≤ cs.length := by
  rcases conversion_ok h with ⟨rfl, -, -⟩ | ⟨a, l, letter, -, -, htakes⟩
  · exact Nat.le_succ _
  · exact Nat.le_of_lt htakes.length_lt

/-- the number of steps does not matter as long as it is enough -/
theorem pieces_bound (hb : cs.length ≤ bound) (hb' : cs.length ≤ bound') :
    pieces bound args cs = pieces bound' args cs := by
  induction bound generalizing args cs bound' with
  | zero =>
    obtain rfl : cs = [] := List.eq_nil_of_length_eq_zero (Nat.le_zero.1 hb)
    cases bound' <;> rfl
  | succ bound ih =>
    cases cs with
    | nil => cases bound' <;> rfl
    | cons c cs =>
      obtain ⟨bound', rfl⟩ : ∃ b, bound' = b + 1 := ⟨bound' - 1, by rw [List.length_cons] at hb'; omega⟩
      rw [List.length_cons, Nat.succ_le_succ_iff] at hb hb'
      rw [pieces, pieces]
      split_ifs
      · rcases hconversion : conversion args cs with f | ⟨p, args₁, rest⟩
        · rfl
        have hlength := length_conversion hconversion
        dsimp only
        rw [ih (Nat.le_trans hlength hb) (Nat.le_trans hlength hb')]
      · rw [ih hb hb']

/-- a text that can be formatted is made of its pieces -/
theorem pieces_of_format {text out : List Char} (h : format text args = .ok out) :
    ∃ ps, pieces text.length args text = .ok ps ∧ ps.flatMap Piece.chars = out := by
  unfold format at h
  rcases hps : pieces text.length args text with f | ps
  · simp [hps, Except.map] at h
  · exact ⟨ps, rfl, by simpa [hps, Except.map] using h⟩

/-- plain text in front stays in front -/
theorem format_append {pre : List Char} (h : '%' ∉ pre) (rest : List Char) (args : List String) :
    format (pre ++ rest) args = (format rest args).map (pre ++ ·) := by
  unfold format
  rw [pieces_append h (by rw [List.length_append]; omega), List.length_append, Nat.add_sub_cancel_left]
  rcases pieces rest.length args rest with f | ps
  · rfl
  · simp [Except.map, flatMap_plain]

end Percent

end LinePrompt.Text
