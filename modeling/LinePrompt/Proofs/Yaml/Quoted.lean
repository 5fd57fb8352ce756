/-
Reading back what stands between quotes.

The readers of quoted scalars are given a bound that is never met (`Reads`), so that they can be followed character by
character. What may stand for a text between apostrophes or double quotes is read back as the text, up to and with the
closing quote: `reads_single` and `reads_double`.
-/
import LinePrompt.Proofs.Yaml.Written
import LinePrompt.Yaml.Token.Quoted

namespace LinePrompt.Yaml

/-! ## Places -/

namespace Cursor

variable {c : Cursor} {r : List Char} {ch : Char}

theorem skip_add (m n : Nat) (c : Cursor) : c.skip (m + n) = (c.skip m).skip n := by
  induction m generalizing c with
  | zero => rw [Nat.zero_add]; rfl
  | succ m ih => rw [Nat.succ_add]; exact ih c.next

theorem rest_skip (front : List Char) (h : c.rest = front ++ r) : (c.skip front.length).rest = r := by
  rw [skip_rest, h, List.drop_left]

theorem rest_next (h : c.rest = ch :: r) : c.next.rest = r :=
  rest_skip [ch] h

theorem peek_eq (h : c.rest = ch :: r) : c.peek = some ch := by
  rw [peek, h, List.head?_cons]

/-- the characters in front that satisfy a test, up to the first that does not -/
theorem run_eq {p : Char → Bool} (front : List Char) (h : c.rest = front ++ r) (hfront : ∀ ch ∈ front, p ch = true)
    (hr : ∀ ch ∈ r.head?, p ch = false) : c.run p = front := by
  rw [run, h, List.takeWhile_append_of_pos hfront]
  cases r with
  | nil => simp
  | cons x r => simp [hr x rfl]

theorem lineBreak?_eq_none (h : ∀ ch ∈ c.rest.head?, isBreak ch = false) : c.lineBreak? = none := by
  unfold lineBreak? peek
  rcases hr : c.rest with _ | ⟨ch, r⟩
  · rfl
  · have hb := h ch (by rw [hr]; rfl)
    simp only [isBreak, Bool.or_eq_false_iff, decide_eq_false_iff_not] at hb
    simp only [List.head?_cons]
    split <;> simp_all

theorem lineBreak?_feed (h : c.rest = '\n' :: r) : c.lineBreak? = some '\n' := by
  simp only [lineBreak?, peek_eq h]

/-- a mark between documents starts with three hyphens or three points -/
theorem atDocumentMark_eq_false (h : ∀ ch ∈ c.rest.head?, ch ≠ '-' ∧ ch ≠ '.') : c.atDocumentMark = false := by
  unfold atDocumentMark startsWith
  rcases hr : c.rest with _ | ⟨ch, r⟩
  · rfl
  · obtain ⟨hminus, hpoint⟩ := h ch (by rw [hr]; rfl)
    simp [hminus.symm, hpoint.symm]

end Cursor

/-- no blank, tab or break comes next -/
def NotWhite (r : List Char) : Prop := ∀ ch ∈ r.head?, isWhite ch = false

theorem NotWhite.noBreak {r : List Char} (h : NotWhite r) : ∀ ch ∈ r.head?, isBreak ch = false := by
  intro ch hch
  have hwhite := h ch hch
  simp only [isWhite, Bool.or_eq_false_iff] at hwhite
  exact hwhite.2

theorem NotWhite.noBlank {r : List Char} (h : NotWhite r) :
    ∀ ch ∈ r.head?, decide (ch = ' ') = false ∧ (decide (ch = ' ') || decide (ch = '\t')) = false := by
  intro ch hch
  have hwhite := h ch hch
  simp only [isWhite, Bool.or_eq_false_iff] at hwhite
  exact ⟨hwhite.1.1, by simp [hwhite.1.1, hwhite.1.2]⟩

theorem isWhite_of_printable {ch : Char} (h : Printer.isPlainAscii ch = true) (hblank : ch ≠ ' ') :
    isWhite ch = false := by
  simp only [Printer.isPlainAscii, Bool.and_eq_true, decide_eq_true_eq] at h
  have hne : ∀ d : Char, (d.toNat < 0x20 ∨ 0x7E < d.toNat) → ch ≠ d := by
    rintro d hd rfl
    omega
  simp only [isWhite, isBreak, Bool.or_eq_false_iff, decide_eq_false_iff_not]
  exact ⟨⟨hblank, hne _ (by decide)⟩, ⟨⟨hne _ (by decide), hne _ (by decide)⟩, hne _ (by decide)⟩, hne _ (by decide)⟩

/-! ## Blanks and line breaks -/

section Blanks

variable {c : Cursor} {r : List Char}

/-- empty lines, and two blanks in front of the next one that is not -/
theorem foldedBreaks_lines {bound : Nat} (n : Nat) (hbound : n < bound)
    (h : c.rest = List.replicate n '\n' ++ ' ' :: ' ' :: r) (hr : NotWhite r) :
    foldedBreaks bound c = .ok (List.replicate n '\n', c.skip (n + 2)) := by
  induction n generalizing c bound with
  | zero =>
    obtain ⟨bound, rfl⟩ := Nat.exists_eq_succ_of_ne_zero (Nat.ne_of_gt hbound)
    have hmark : c.atDocumentMark = false := Cursor.atDocumentMark_eq_false (by rw [h]; simp)
    have hrun : (c.run fun ch => ch = ' ' || ch = '\t') = [' ', ' '] :=
      Cursor.run_eq _ h (by simp) fun ch hch => (hr.noBlank ch hch).2
    have hrest : (c.skip 2).rest = r := Cursor.rest_skip [' ', ' '] h
    have hline : (c.skip 2).lineBreak? = none := Cursor.lineBreak?_eq_none (by rw [hrest]; exact hr.noBreak)
    simp only [foldedBreaks, hmark, Cursor.skipRun, hrun, List.length_cons, List.length_nil, hline]
    rfl
  | succ n ih =>
    obtain ⟨bound, rfl⟩ := Nat.exists_eq_succ_of_ne_zero (Nat.ne_of_gt (Nat.lt_of_le_of_lt (Nat.zero_le _) hbound))
    have hfirst : c.rest = '\n' :: (List.replicate n '\n' ++ ' ' :: ' ' :: r) := by
      rw [h, List.replicate_succ, List.cons_append]
    have hmark : c.atDocumentMark = false := Cursor.atDocumentMark_eq_false (by rw [hfirst]; simp)
    have hrun : (c.run fun ch => ch = ' ' || ch = '\t') = [] :=
      Cursor.run_eq [] hfirst (by simp) (by simp)
    have hlater := ih (Nat.lt_of_succ_lt_succ hbound) (Cursor.rest_next hfirst)
    simp only [foldedBreaks, hmark, Cursor.skipRun, hrun, List.length_nil, Cursor.skip, Cursor.lineBreak?_feed hfirst,
      hlater]
    rfl

/-- blanks in front of a character are kept -/
theorem quotedBlanks_kept (n : Nat) (h : c.rest = List.replicate n ' ' ++ r) (hne : r ≠ []) (hr : NotWhite r) :
    quotedBlanks c = .ok (List.replicate n ' ', c.skip n) := by
  have hrun : (c.run fun ch => ch = ' ' || ch = '\t') = List.replicate n ' ' :=
    Cursor.run_eq _ h (by simp) fun ch hch => (hr.noBlank ch hch).2
  have hrest : (c.skip n).rest = r := by
    have hskip := Cursor.rest_skip _ h
    rwa [List.length_replicate] at hskip
  have hline : (c.skip n).lineBreak? = none := Cursor.lineBreak?_eq_none (by rw [hrest]; exact hr.noBreak)
  have hend : (c.skip n).rest.isEmpty = false := by
    rw [hrest]
    simpa using hne
  simp only [quotedBlanks, hrun, List.length_replicate, hline, hend]
  rfl

/-- several line breaks become one less; one becomes a blank -/
theorem quotedBlanks_lines (n : Nat) (h : c.rest = List.replicate (n + 1) '\n' ++ ' ' :: ' ' :: r)
    (hr : NotWhite r) : quotedBlanks c = .ok (fold '\n' (List.replicate n '\n'), c.skip (n + 3)) := by
  have hfirst : c.rest = '\n' :: (List.replicate n '\n' ++ ' ' :: ' ' :: r) := by
    rw [h, List.replicate_succ, List.cons_append]
  have hrun : (c.run fun ch => ch = ' ' || ch = '\t') = [] :=
    Cursor.run_eq [] hfirst (by simp) (by simp)
  have hbound : n < c.rest.length := by
    rw [h]
    simp
    omega
  have hlater := foldedBreaks_lines n hbound (Cursor.rest_next hfirst) hr
  simp only [quotedBlanks, hrun, List.length_nil, Cursor.skip, Cursor.lineBreak?_feed hfirst, hlater]
  rfl

theorem fold_several {n : Nat} (hn : 0 < n) : fold '\n' (List.replicate n '\n') = List.replicate n '\n' := by
  obtain ⟨m, rfl⟩ := Nat.exists_eq_succ_of_ne_zero (Nat.ne_of_gt hn)
  rfl

end Blanks

/-! ## Bounds -/

/-- a reader of the inside of a quoted scalar gives a text and the place after it, for each bound large enough -/
def Reads (body : Nat → Cursor → Except Fault (List Char × Cursor)) (c : Cursor) (text : List Char) (d : Cursor) :
    Prop :=
  ∀ bound, c.rest.length ≤ bound → body bound c = .ok (text, d)

/-! ## Between apostrophes -/

section Single

variable {c d e : Cursor} {r text blanks : List Char} {ch : Char}

theorem reads_single_end (h : c.rest = '\x27' :: r) (hr : r.head? ≠ some '\x27') : Reads singleBody c [] c.next := by
  intro bound hbound
  obtain ⟨bound, rfl⟩ : ∃ b, bound = b + 1 := ⟨bound - 1, by rw [h] at hbound; simp at hbound; omega⟩
  simp [singleBody, h, hr]

theorem reads_single_char (h : c.rest = ch :: r) (hquote : ch ≠ '\x27') (hwhite : isWhite ch = false)
    (hnext : Reads singleBody c.next text d) : Reads singleBody c (ch :: text) d := by
  intro bound hbound
  rw [h] at hbound
  obtain ⟨bound, rfl⟩ : ∃ b, bound = b + 1 := ⟨bound - 1, by simp at hbound; omega⟩
  have hlater := hnext bound (by rw [Cursor.rest_next h]; simpa using hbound)
  simp [singleBody, h, hquote, hwhite, hlater, Except.map]

theorem reads_single_quote (h : c.rest = '\x27' :: '\x27' :: r) (hnext : Reads singleBody (c.skip 2) text d) :
    Reads singleBody c ('\x27' :: text) d := by
  intro bound hbound
  rw [h] at hbound
  obtain ⟨bound, rfl⟩ : ∃ b, bound = b + 1 := ⟨bound - 1, by simp at hbound; omega⟩
  have hrest : (c.skip 2).rest = r := Cursor.rest_skip ['\x27', '\x27'] h
  have hlater := hnext bound (by rw [hrest]; simp at hbound; omega)
  simp [singleBody, h, hlater, Except.map]

theorem reads_single_white (ch : Char) (h : c.rest = ch :: r) (hwhite : isWhite ch = true)
    (hblanks : quotedBlanks c = .ok (blanks, e)) (hshort : e.rest.length < c.rest.length)
    (hnext : Reads singleBody e text d) : Reads singleBody c (blanks ++ text) d := by
  intro bound hbound
  obtain ⟨bound, rfl⟩ : ∃ b, bound = b + 1 := ⟨bound - 1, by omega⟩
  have hquote : ch ≠ '\x27' := by
    rintro rfl
    cases hwhite
  have hlater := hnext bound (by omega)
  simp [singleBody, h, hquote, hwhite, hblanks, hlater, bind, Except.bind, pure, Except.pure]

end Single

namespace Printer

/-- a word with its apostrophes doubled is read back -/
theorem reads_single_word {c d : Cursor} {cs r text : List Char} (hcs : ∀ ch ∈ cs, isWhite ch = false)
    (h : c.rest = doubled cs ++ r) (hnext : Reads singleBody (c.skip (doubled cs).length) text d) :
    Reads singleBody c (cs ++ text) d := by
  induction cs generalizing c with
  | nil => exact hnext
  | cons ch cs ih =>
    have hch := hcs ch List.mem_cons_self
    have hrest := fun x hx => hcs x (List.mem_cons_of_mem ch hx)
    by_cases hquote : ch = '\x27'
    · subst hquote
      have hdoubled : doubled ('\x27' :: cs) = ['\x27', '\x27'] ++ doubled cs := rfl
      rw [hdoubled] at h hnext
      have hskip : (c.skip 2).rest = doubled cs ++ r := Cursor.rest_skip ['\x27', '\x27'] h
      exact reads_single_quote h (ih hrest hskip hnext)
    · have hdoubled : doubled (ch :: cs) = ch :: doubled cs := by simp [doubled, hquote]
      rw [hdoubled] at h hnext
      exact reads_single_char h hquote hch (ih hrest (Cursor.rest_next h) hnext)

/-- where a word comes next, or the closing apostrophe, nothing white does -/
theorem notWhite_folded {runs : List Run} {out r : List Char} (hs : Run.Spaced runs) (hnext : Run.WordNext runs)
    (hchars : ∀ ch ∈ runs.flatMap Run.chars, ch = '\n' ∨ isPlainAscii ch = true) (h : Folded doubled runs out) :
    NotWhite (out ++ '\x27' :: r) := by
  cases h with
  | nil =>
    intro ch hch
    obtain rfl := Option.some.inj hch
    decide
  | word cs hrest =>
    cases hs with
    | word hword _ _ =>
      obtain ⟨x, xs, rfl⟩ := List.exists_cons_of_ne_nil hword.1
      have hx : isWhite x = false := by
        obtain ⟨hblank, hbreak⟩ := hword.2 x List.mem_cons_self
        rcases hchars x (by simp [Run.chars]) with hx | hx
        · exact absurd hx hbreak
        · exact isWhite_of_printable hx hblank
      intro ch hch
      by_cases hquote : x = '\x27'
      · simp only [doubled, List.flatMap_cons, hquote, if_true, List.cons_append, List.head?_cons] at hch
        obtain rfl := Option.some.inj hch
        decide
      · simp only [doubled, List.flatMap_cons, hquote, if_false, List.cons_append, List.head?_cons] at hch
        obtain rfl := Option.some.inj hch
        exact hx
  | blanks _ _ => exact absurd (hnext _ rfl) (by simp)
  | fold _ => exact absurd (hnext _ rfl) (by simp)
  | breaks _ _ => exact absurd (hnext _ rfl) (by simp)

/-- runs are read back up to and with the closing apostrophe -/
theorem reads_folded {runs : List Run} {out : List Char} (h : Folded doubled runs out) (hs : Run.Spaced runs)
    (hchars : ∀ ch ∈ runs.flatMap Run.chars, ch = '\n' ∨ isPlainAscii ch = true) {r : List Char}
    (hr : r.head? ≠ some '\x27') {c : Cursor} (hc : c.rest = out ++ '\x27' :: r) :
    Reads singleBody c (runs.flatMap Run.chars) (c.skip (out.length + 1)) := by
  induction h generalizing c with
  | nil => exact reads_single_end hc hr
  | @word cs runs out h ih =>
    cases hs with
    | word hword _ hrest =>
      rw [List.append_assoc] at hc
      rw [List.flatMap_cons, List.length_append, Nat.add_assoc, Cursor.skip_add]
      have hlater := ih hrest (fun ch hch => hchars ch (by simp [hch])) (Cursor.rest_skip _ hc)
      refine reads_single_word ?_ hc hlater
      intro ch hch
      obtain ⟨hblank, hbreak⟩ := hword.2 ch hch
      rcases hchars ch (List.mem_append_left _ hch) with hx | hx
      · exact absurd hx hbreak
      · exact isWhite_of_printable hx hblank
  | @blanks n runs out h ih =>
    cases hs with
    | blanks hn hnext hrest =>
      rw [List.append_assoc] at hc
      have hlater := fun ch hch => hchars ch (List.mem_append_right _ hch)
      have hkept := quotedBlanks_kept n hc (by simp) (notWhite_folded hrest hnext hlater h)
      have hskip : (c.skip n).rest = out ++ '\x27' :: r := by
        have hskip := Cursor.rest_skip _ hc
        rwa [List.length_replicate] at hskip
      rw [List.flatMap_cons, List.length_append, List.length_replicate, Nat.add_assoc, Cursor.skip_add]
      obtain ⟨m, rfl⟩ := Nat.exists_eq_succ_of_ne_zero (Nat.ne_of_gt hn)
      refine reads_single_white ' ' (by rw [hc]; rfl) (by decide) hkept ?_ (ih hrest hlater hskip)
      rw [hskip, hc]
      simp
  | @fold runs out h ih =>
    cases hs with
    | blanks hn hnext hrest =>
      have hlater := fun ch hch => hchars ch (List.mem_append_right _ hch)
      have hfolded := quotedBlanks_lines 0 hc (notWhite_folded hrest hnext hlater h)
      have hskip : (c.skip 3).rest = out ++ '\x27' :: r := Cursor.rest_skip ['\n', ' ', ' '] hc
      refine reads_single_white '\n' (by rw [hc]; rfl) (by decide) hfolded ?_ (ih hrest hlater hskip)
      rw [hskip, hc]
      simp
      omega
  | @breaks n runs out h ih =>
    cases hs with
    | breaks hn hnext hrest =>
      rw [List.append_assoc] at hc
      have hlater := fun ch hch => hchars ch (List.mem_append_right _ hch)
      have hlines := quotedBlanks_lines n hc (notWhite_folded hrest hnext hlater h)
      have hfront : c.rest = (List.replicate (n + 1) '\n' ++ [' ', ' ']) ++ (out ++ '\x27' :: r) := by
        rw [hc]
        simp
      have hskip : (c.skip (n + 3)).rest = out ++ '\x27' :: r := by
        have hskip := Cursor.rest_skip _ hfront
        simpa using hskip
      have hlength : (List.replicate (n + 1) '\n' ++ ' ' :: ' ' :: out).length + 1 = (n + 3) + (out.length + 1) := by
        simp
        omega
      rw [hlength, Cursor.skip_add, List.flatMap_cons, Run.chars, ← fold_several hn]
      refine reads_single_white '\n' (by rw [hc]; rfl) (by decide) hlines ?_ (ih hrest hlater hskip)
      rw [hskip, hc]
      simp
      omega

end Printer

/-! ## Escapes -/

theorem hexNumber?_hexDigitsUpper (width n : Nat) (h : n < Nat.pow 16 width) :
    Text.hexNumber? (Text.hexDigitsUpper width n) = some n := by
  have hdigit : ∀ m : Fin 16, Text.hexValue? (Text.hexDigit m.val).toUpper = some m.val := by decide
  induction width generalizing n with
  | zero =>
    have hn : n = 0 := Nat.lt_one_iff.1 h
    subst hn
    rfl
  | succ width ih =>
    have h : n < Nat.pow 16 width * 16 := h
    have hfirst : n / 16 < Nat.pow 16 width := Nat.div_lt_of_lt_mul (by omega)
    have hlast := hdigit ⟨n % 16, Nat.mod_lt _ (by decide)⟩
    have hupper : Text.hexDigitsUpper (width + 1) n =
        Text.hexDigitsUpper width (n / 16) ++ [(Text.hexDigit (n % 16)).toUpper] := by
      simp [Text.hexDigitsUpper, Text.hexDigits]
    rw [hupper, Text.hexNumber?_append_digit, ih _ hfirst, Option.bind_some, hlast, Option.map_some]
    exact congrArg some (Nat.div_add_mod n 16)

theorem charOfCode_toNat (ch : Char) : charOfCode ch.toNat = .ok ch := by
  have hvalid : ch.toNat.isValidChar := ch.valid
  rw [charOfCode, dif_pos hvalid]
  rfl

theorem simpleEscape?_of_letter {ch letter : Char} (h : Printer.escapeLetter? ch = some letter) :
    simpleEscape? letter = some ch := by
  have hcode : ∀ {n : Nat}, ch.toNat = n → Char.ofNat n = ch := by
    rintro n rfl
    exact Char.ofNat_toNat ch
  unfold Printer.escapeLetter? at h
  split at h <;> cases h
  all_goals
    rename_i heq
    rw [← hcode heq]
    rfl

/-- the escape of a character by its code is read back -/
theorem readEscape_code {c : Cursor} {r digits : List Char} {ch letter : Char} {width : Nat}
    (h : c.rest = letter :: (digits ++ r)) (hletter : simpleEscape? letter = none)
    (hwidth : escapeWidth? letter = some width) (hlength : digits.length = width)
    (hdigits : Text.hexNumber? digits = some ch.toNat) :
    readEscape c = .ok ([ch], c.skip (width + 1)) := by
  have htake : c.next.rest.take width = digits := by
    rw [Cursor.rest_next h, ← hlength, List.take_left]
  simp only [readEscape, Cursor.peek_eq h, hletter, hwidth, htake, hlength, require, decide_true, if_true, hdigits,
    charOfCode_toNat, bind, Except.bind, pure, Except.pure]
  rfl

/-- the escape of a character is read back -/
theorem readEscape_form {c : Cursor} {r form : List Char} {ch : Char} (hform : Printer.escape? ch = some ('\\' :: form))
    (h : c.rest = form ++ r) : readEscape c = .ok ([ch], c.skip form.length) := by
  unfold Printer.escape? at hform
  rcases hletter : Printer.escapeLetter? ch with _ | letter
  · simp only [hletter] at hform
    split_ifs at hform with hplain
    obtain rfl : Printer.codeForm ch = form := (List.cons.inj (Option.some.inj hform)).2
    have hcode : ch.toNat < 0x110000 := by
      have hvalid : ch.toNat.isValidChar := ch.valid
      unfold Nat.isValidChar at hvalid
      omega
    unfold Printer.codeForm at h ⊢
    dsimp only at h ⊢
    split_ifs at h ⊢ with htwo hfour
    · rw [readEscape_code h rfl rfl (by simp [Text.hexDigitsUpper])
        (hexNumber?_hexDigitsUpper 2 _ (by simpa using htwo))]
      simp [Text.hexDigitsUpper]
    · rw [readEscape_code h rfl rfl (by simp [Text.hexDigitsUpper])
        (hexNumber?_hexDigitsUpper 4 _ (by simpa using hfour))]
      simp [Text.hexDigitsUpper]
    · have height : ch.toNat < Nat.pow 16 8 := Nat.lt_trans hcode (by decide)
      rw [readEscape_code h rfl rfl (by simp [Text.hexDigitsUpper]) (hexNumber?_hexDigitsUpper 8 _ height)]
      simp [Text.hexDigitsUpper]
  · simp only [hletter] at hform
    obtain rfl : [letter] = form := (List.cons.inj (Option.some.inj hform)).2
    have hpeek : c.peek = some letter := Cursor.peek_eq h
    simp only [readEscape, hpeek, simpleEscape?_of_letter hletter]
    rfl

/-- every escape starts with a backslash -/
theorem escape?_form {ch : Char} {form : List Char} (h : Printer.escape? ch = some form) :
    ∃ rest, form = '\\' :: rest := by
  unfold Printer.escape? at h
  split at h
  · exact ⟨_, (Option.some.inj h).symm⟩
  · split_ifs at h
    exact ⟨_, (Option.some.inj h).symm⟩

/-- what stands for itself between double quotes is printable, and no quote or backslash -/
theorem of_escape?_eq_none {ch : Char} (h : Printer.escape? ch = none) :
    Printer.isPlainAscii ch = true ∧ ch ≠ '"' ∧ ch ≠ '\\' := by
  refine ⟨?_, ?_, ?_⟩
  · unfold Printer.escape? at h
    split at h
    · cases h
    · by_contra hplain
      simp [hplain] at h
  · rintro rfl
    simp [Printer.escape?, Printer.escapeLetter?] at h
  · rintro rfl
    simp [Printer.escape?, Printer.escapeLetter?] at h

/-- a backslash at the end of a line takes the break and the blanks behind it away -/
theorem readEscape_fold {c : Cursor} {r : List Char} (h : c.rest = '\n' :: ' ' :: ' ' :: r) (hr : NotWhite r) :
    readEscape c = .ok ([], c.skip 3) := by
  have hbreaks : foldedBreaks c.rest.length c.next = .ok ([], c.next.skip 2) :=
    foldedBreaks_lines 0 (by rw [h]; simp) (Cursor.rest_next h) hr
  have hfeed : simpleEscape? '\n' = none ∧ escapeWidth? '\n' = none ∧ isBreak '\n' = true := by decide
  simp only [readEscape, Cursor.peek_eq h, hfeed, if_true, hbreaks]
  rfl

/-! ## Between double quotes -/

section Double

variable {c d e : Cursor} {r text escaped : List Char} {ch : Char}

theorem reads_double_end (h : c.rest = '"' :: r) : Reads doubleBody c [] c.next := by
  intro bound hbound
  obtain ⟨bound, rfl⟩ : ∃ b, bound = b + 1 := ⟨bound - 1, by rw [h] at hbound; simp at hbound; omega⟩
  simp [doubleBody, h]

theorem reads_double_char (h : c.rest = ch :: r) (hquote : ch ≠ '"') (hslash : ch ≠ '\\') (hwhite : isWhite ch = false)
    (hnext : Reads doubleBody c.next text d) : Reads doubleBody c (ch :: text) d := by
  intro bound hbound
  rw [h] at hbound
  obtain ⟨bound, rfl⟩ : ∃ b, bound = b + 1 := ⟨bound - 1, by simp at hbound; omega⟩
  have hlater := hnext bound (by rw [Cursor.rest_next h]; simpa using hbound)
  simp [doubleBody, h, hquote, hslash, hwhite, hlater, Except.map]

theorem reads_double_escape (h : c.rest = '\\' :: r) (hescape : readEscape c.next = .ok (escaped, e))
    (hshort : e.rest.length < c.rest.length) (hnext : Reads doubleBody e text d) :
    Reads doubleBody c (escaped ++ text) d := by
  intro bound hbound
  obtain ⟨bound, rfl⟩ : ∃ b, bound = b + 1 := ⟨bound - 1, by omega⟩
  have hlater := hnext bound (by omega)
  simp [doubleBody, h, hescape, hlater, bind, Except.bind, pure, Except.pure]

/-- behind the blanks in front there is a character, and no line break -/
def GoesOn (r : List Char) : Prop :=
  ∃ ch, (r.dropWhile fun ch => ch = ' ' || ch = '\t').head? = some ch ∧ isBreak ch = false

theorem quotedBlanks_goesOn (h : GoesOn c.rest) :
    quotedBlanks c = .ok (c.run fun ch => ch = ' ' || ch = '\t', c.skipRun fun ch => ch = ' ' || ch = '\t') := by
  obtain ⟨ch, hch, hbreak⟩ := h
  have hrest : (c.skipRun fun ch => ch = ' ' || ch = '\t').rest = c.rest.dropWhile fun ch => ch = ' ' || ch = '\t' :=
    Cursor.rest_skip _ List.takeWhile_append_dropWhile.symm
  have hline : (c.skipRun fun ch => ch = ' ' || ch = '\t').lineBreak? = none := by
    refine Cursor.lineBreak?_eq_none ?_
    rw [hrest, hch]
    rintro x hx
    obtain rfl := Option.some.inj hx
    exact hbreak
  have hend : (c.skipRun fun ch => ch = ' ' || ch = '\t').rest.isEmpty = false := by
    rw [hrest]
    rcases hd : c.rest.dropWhile fun ch => ch = ' ' || ch = '\t' with _ | ⟨x, xs⟩
    · rw [hd] at hch
      cases hch
    · rfl
  unfold Cursor.skipRun at hline hend ⊢
  simp only [quotedBlanks, hline, hend]
  rfl

/-- A blank is read by itself or with those behind it, as the same text. -/
theorem reads_double_blank (h : c.rest = ' ' :: r) (hr : GoesOn r) (hnext : Reads doubleBody c.next text d) :
    Reads doubleBody c (' ' :: text) d := by
  intro bound hbound
  obtain ⟨bound, rfl⟩ : ∃ b, bound = b + 1 := ⟨bound - 1, by rw [h] at hbound; simp at hbound; omega⟩
  have hrest := Cursor.rest_next h
  have hfirst : quotedBlanks c = .ok (' ' :: c.next.run fun ch => ch = ' ' || ch = '\t',
      c.next.skipRun fun ch => ch = ' ' || ch = '\t') := by
    have hgoes : GoesOn c.rest := by
      rw [h]
      simpa [GoesOn] using hr
    have hrun : (c.run fun ch => ch = ' ' || ch = '\t') = ' ' :: c.next.run fun ch => ch = ' ' || ch = '\t' := by
      simp [Cursor.run, h, hrest]
    rw [quotedBlanks_goesOn hgoes, Cursor.skipRun, hrun]
    rfl
  have hread : doubleBody (bound + 1) c =
      (doubleBody bound (c.next.skipRun fun ch => ch = ' ' || ch = '\t')).map
        fun sd => (' ' :: (c.next.run fun ch => ch = ' ' || ch = '\t') ++ sd.1, sd.2) := by
    simp only [doubleBody, h, isWhite, hfirst, bind, Except.bind, pure, Except.pure]
    rcases doubleBody bound (c.next.skipRun fun ch => ch = ' ' || ch = '\t') with _ | _ <;> rfl
  rw [h] at hbound
  rcases hr' : r with _ | ⟨x, xs⟩
  · obtain ⟨ch, hch, -⟩ := hr
    simp [hr'] at hch
  · rw [hr'] at hrest
    by_cases hx : (x = ' ' || x = '\t') = true
    · -- the next character is a blank too, so it is read with those behind it in one step
      have hlater := hnext (bound + 1) (by rw [hrest]; simp [hr'] at hbound; simp; omega)
      have hwhite : isWhite x = true := by
        simp only [Bool.or_eq_true, decide_eq_true_eq] at hx
        rcases hx with rfl | rfl <;> decide
      have hquote : x ≠ '"' ∧ x ≠ '\\' := by
        constructor <;> rintro rfl <;> cases hwhite
      have hblanks := quotedBlanks_goesOn (c := c.next) (by rw [hrest, ← hr']; exact hr)
      simp only [doubleBody, hrest, hquote, if_false, hwhite, if_true, hblanks, bind, Except.bind, pure,
        Except.pure] at hlater
      rw [hread]
      rcases hbody : doubleBody bound (c.next.skipRun fun ch => ch = ' ' || ch = '\t') with f | ⟨s, d'⟩
      · simp [hbody] at hlater
      · simp only [hbody, Except.ok.injEq, Prod.mk.injEq] at hlater
        obtain ⟨rfl, rfl⟩ := hlater
        rfl
    · have hrun : (c.next.run fun ch => ch = ' ' || ch = '\t') = [] := by
        rw [Cursor.run, hrest]
        exact List.takeWhile_cons_of_neg hx
      have hlater := hnext bound (by rw [hrest]; simp [hr'] at hbound; simpa using hbound)
      rw [hread, Cursor.skipRun, hrun]
      simp only [List.length_nil, Cursor.skip, hlater]
      rfl

end Double

namespace Printer

theorem goesOn_escaped {cs out r : List Char} (h : Escaped cs out) : GoesOn (out ++ '"' :: r) := by
  induction h with
  | nil => exact ⟨'"', rfl, by decide⟩
  | @bare c cs out hc h ih =>
    by_cases hblank : c = ' '
    · subst hblank
      simpa [GoesOn] using ih
    · have hwhite := isWhite_of_printable (of_escape?_eq_none hc).1 hblank
      simp only [isWhite, Bool.or_eq_false_iff] at hwhite
      exact ⟨c, by simp [hwhite.1.2, hblank], hwhite.2⟩
  | escape hc h ih =>
    obtain ⟨rest, rfl⟩ := escape?_form hc
    exact ⟨'\\', rfl, by decide⟩
  | fold hnext h ih => exact ⟨'\\', rfl, by decide⟩
  | foldBlank h ih => exact ⟨'\\', rfl, by decide⟩

theorem notWhite_escaped {cs out r : List Char} (h : Escaped cs out) (hnext : cs.head? ≠ some ' ') :
    NotWhite (out ++ '"' :: r) := by
  intro ch hch
  cases h with
  | nil =>
    obtain rfl := Option.some.inj hch
    decide
  | @bare c _ _ hc h =>
    obtain rfl := Option.some.inj hch
    exact isWhite_of_printable (of_escape?_eq_none hc).1 fun hblank => hnext (congrArg some hblank)
  | escape hc h =>
    obtain ⟨rest, rfl⟩ := escape?_form hc
    obtain rfl := Option.some.inj hch
    decide
  | fold _ h =>
    obtain rfl := Option.some.inj hch
    decide
  | foldBlank h => exact absurd rfl hnext

/-- escaped characters are read back up to and with the closing quote -/
theorem reads_escaped {cs out r : List Char} (h : Escaped cs out) {c : Cursor} (hc : c.rest = out ++ '"' :: r) :
    Reads doubleBody c cs (c.skip (out.length + 1)) := by
  induction h generalizing c with
  | nil => exact reads_double_end hc
  | @bare ch cs out hch h ih =>
    have hlater := ih (Cursor.rest_next hc)
    obtain ⟨hprintable, hquote, hslash⟩ := of_escape?_eq_none hch
    by_cases hblank : ch = ' '
    · subst hblank
      exact reads_double_blank hc (goesOn_escaped h) hlater
    · exact reads_double_char hc hquote hslash (isWhite_of_printable hprintable hblank) hlater
  | @escape ch form cs out hch h ih =>
    obtain ⟨form, rfl⟩ := escape?_form hch
    rw [List.append_assoc] at hc
    have hrest : (c.skip ('\\' :: form).length).rest = out ++ '"' :: r := Cursor.rest_skip _ hc
    rw [List.length_append, Nat.add_assoc, Cursor.skip_add]
    refine reads_double_escape hc (readEscape_form hch (Cursor.rest_next hc)) ?_ (ih hrest)
    change (c.skip ('\\' :: form).length).rest.length < c.rest.length
    rw [hrest, hc]
    simp only [List.length_cons, List.length_append]
    omega
  | @fold cs out hnext h ih =>
    have hrest : (c.skip 4).rest = out ++ '"' :: r := Cursor.rest_skip ['\\', '\n', ' ', ' '] hc
    refine reads_double_escape hc (readEscape_fold (Cursor.rest_next hc) (notWhite_escaped h hnext)) ?_ (ih hrest)
    change (c.skip 4).rest.length < c.rest.length
    rw [hrest, hc]
    simp only [List.length_cons, List.length_append]
    omega
  | @foldBlank cs out h ih =>
    have hrest : (c.skip 6).rest = out ++ '"' :: r :=
      Cursor.rest_skip ['\\', '\n', ' ', ' ', '\\', ' '] hc
    have hslash : (c.skip 4).rest = '\\' :: ' ' :: (out ++ '"' :: r) :=
      Cursor.rest_skip ['\\', '\n', ' ', ' '] hc
    have hblank : readEscape (c.skip 4).next = .ok ([' '], c.skip 6) := by
      simp only [readEscape, Cursor.peek_eq (Cursor.rest_next hslash)]
      rfl
    have hlater : Reads doubleBody (c.skip 4) (' ' :: cs) (c.skip (6 + (out.length + 1))) := by
      rw [Cursor.skip_add]
      refine reads_double_escape hslash hblank ?_ (ih hrest)
      rw [hrest, hslash]
      simp only [List.length_cons, List.length_append]
      omega
    have hlength : ('\\' :: '\n' :: ' ' :: ' ' :: '\\' :: ' ' :: out).length + 1 = 6 + (out.length + 1) := by
      simp only [List.length_cons]
      omega
    rw [hlength]
    refine reads_double_escape hc (readEscape_fold (Cursor.rest_next hc) ?_) ?_ hlater
    · intro ch hch
      obtain rfl := Option.some.inj hch
      decide
    · change (c.skip 4).rest.length < c.rest.length
      rw [hslash, hc]
      simp only [List.length_cons, List.length_append]
      omega

end Printer

end LinePrompt.Yaml
