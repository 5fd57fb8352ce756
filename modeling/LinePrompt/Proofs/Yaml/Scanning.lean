/-
Scanning the entries of a mapping, one a line.

Before an entry the scanner stands at the start of a line, with one block open at column zero or none yet (`Stands`).
Three tokens later it stands at the start of the next line, with the key, the colon and the value read
(`fetchAll_entry`); where the text ends the block is closed (`fetchAll_end`).
-/
import LinePrompt.Proofs.Yaml.Plain
import LinePrompt.Yaml.Token.Scan

namespace LinePrompt.Yaml

/-! ## Names -/

/-- a key that needs no quotes: small letters and low lines -/
def IsName (cs : List Char) : Prop := cs ≠ [] ∧ ∀ ch ∈ cs, (ch.isLower || ch = '_') = true

instance (cs : List Char) : Decidable (IsName cs) :=
  decidable_of_iff (cs ≠ [] ∧ cs.all fun ch => ch.isLower || ch = '_') (and_congr_right' List.all_eq_true)

theorem isPlainAscii_of_name {ch : Char} (h : (ch.isLower || ch = '_') = true) :
    Printer.isPlainAscii ch = true ∧ ch ≠ ' ' := by
  simp only [Bool.or_eq_true, decide_eq_true_eq] at h
  rcases h with h | rfl
  · obtain ⟨hlow, hhigh⟩ : ch.val ≥ 'a'.val ∧ ch.val ≤ 'z'.val := by
      rwa [← decide_eq_true_eq (p := _ ∧ _), Bool.decide_and]
    have hlow' : 97 ≤ ch.toNat := hlow
    have hhigh' : ch.toNat ≤ 122 := hhigh
    refine ⟨by simp [Printer.isPlainAscii]; omega, ?_⟩
    rintro rfl
    exact absurd hlow' (by decide)
  · decide

theorem ne_of_name {ch d : Char} (h : (ch.isLower || ch = '_') = true) (hd : (d.isLower || d = '_') = false) :
    ch ≠ d := by
  rintro rfl
  rw [h] at hd
  cases hd

theorem IsName.isBareWord {cs : List Char} (h : IsName cs) : Printer.IsBareWord cs where
  nonempty := h.1
  printable ch hch := isPlainAscii_of_name (h.2 ch hch)
  noComment hc := ne_of_name (h.2 _ (List.mem_of_mem_head? hc)) (by decide) rfl
  noColon hc := ne_of_name (h.2 _ (List.mem_of_getLast? hc)) (by decide) rfl

/-- what a line with an entry starts with -/
theorem IsName.lineStart {cs r : List Char} (h : IsName cs) : LineStart (cs ++ r) := by
  have hhead := Printer.head?_append_of_ne_nil (r := r) h.1
  refine ⟨?_, ?_, ?_⟩
  · intro ch hch
    rw [hhead] at hch
    exact h.isBareWord.notWhite ch (List.mem_of_mem_head? hch)
  · rw [hhead]
    exact h.isBareWord.noComment
  · intro ch hch
    rw [hhead] at hch
    have hname := h.2 ch (List.mem_of_mem_head? hch)
    exact ⟨ne_of_name hname (by decide), ne_of_name hname (by decide)⟩

theorem lineStart_nil : LineStart [] := ⟨by simp [NotWhite], by simp, by simp⟩

namespace Scanner

/-! ## Where a token starts -/

/-- nothing is skipped in front of a character that is neither blank nor break, nor starts a comment -/
theorem toNextToken_eq {s : Scanner} {bound : Nat} (hwhite : NotWhite s.cursor.rest)
    (hcomment : s.cursor.rest.head? ≠ some '#') : s.toNextToken (bound + 1) = s := by
  have hrun : (s.cursor.run fun ch => ch = ' ') = [] :=
    Cursor.run_eq [] (List.nil_append _).symm (by simp) fun ch hch => (hwhite.noBlank ch hch).1
  have hpeek : s.cursor.peek ≠ some '#' := hcomment
  have hline := Cursor.lineBreak?_eq_none hwhite.noBreak
  simp only [toNextToken, Cursor.skipRun, hrun, List.length_nil, Cursor.skip, skipComment, hpeek, if_false, hline]

/-- a blank in front of a token is skipped -/
theorem toNextToken_blank {s : Scanner} {bound : Nat} {r : List Char} (h : s.cursor.rest = ' ' :: r)
    (hwhite : NotWhite r) (hcomment : r.head? ≠ some '#') :
    s.toNextToken (bound + 1) = { s with cursor := s.cursor.next } := by
  have hrun : (s.cursor.run fun ch => ch = ' ') = [' '] :=
    Cursor.run_eq [' '] h (by simp) fun ch hch => (hwhite.noBlank ch hch).1
  have hnext := Cursor.rest_next h
  have hpeek : s.cursor.next.peek ≠ some '#' := by rwa [Cursor.peek, hnext]
  have hline : s.cursor.next.lineBreak? = none := Cursor.lineBreak?_eq_none (by rw [hnext]; exact hwhite.noBreak)
  simp only [toNextToken, Cursor.skipRun, hrun, List.length_cons, List.length_nil, Cursor.skip, skipComment, hpeek,
    if_false, hline]

/-- the end of a line is skipped, and a key is allowed behind it -/
theorem toNextToken_feed {s : Scanner} {bound : Nat} {r : List Char} (h : s.cursor.rest = '\n' :: r)
    (hr : LineStart r) (hflow : s.flow = 0) :
    s.toNextToken (bound + 2) = { s with cursor := s.cursor.next, keyAllowed := true } := by
  have hrun : (s.cursor.run fun ch => ch = ' ') = [] := Cursor.run_eq [] h (by simp) (by simp)
  have hpeek : s.cursor.peek ≠ some '#' := by
    rw [Cursor.peek_eq h]
    decide
  have hnext := Cursor.rest_next h
  rw [toNextToken]
  simp only [Cursor.skipRun, hrun, List.length_nil, Cursor.skip, skipComment, hpeek, if_false,
    Cursor.lineBreak?_feed h, inFlow, hflow, bne_self_eq_false, Bool.not_false, Bool.or_true]
  exact toNextToken_eq (by rw [hnext]; exact hr.notWhite) (by rw [hnext]; exact hr.noComment)

theorem skipMark_eq {s : Scanner} (h : s.cursor.rest.head? ≠ some '\ufeff') : s.skipMark = s := by
  have hpeek : s.cursor.peek ≠ some '\ufeff' := h
  simp [skipMark, hpeek]

theorem unwindTo_eq {s : Scanner} {column : Nat} (h : s.indent ≤ column) : s.unwindTo column = s := by
  have hnot : ¬ (s.indent > (column : Int)) := Int.not_lt.2 h
  simp only [unwindTo, unwind, hnot, decide_false, Bool.and_false, Bool.false_eq_true, if_false]

/-- one token, once the layout in front of it is known -/
theorem fetch_eq {s t : Scanner} (h : s.skipMark.toNextToken s.skipMark.bound = t) :
    s.fetch = t.dropStale.bind fun u => (u.unwindTo u.cursor.column).dispatch := by
  rw [← h]
  rfl

/-- What stands bare starts with a character that starts nothing else. -/
structure PlainStart (column : Nat) (ch : Char) (r : List Char) : Prop where
  notWhite : isWhite ch = false
  noMark : ch ∉ Printer.startMarks
  noIndicator : ch = '?' ∨ ch = ':' ∨ ch = '-' → endsWord r.head? = false
  noDocument : column = 0 → ch ≠ '-' ∧ ch ≠ '.'

theorem dispatch_plain {s : Scanner} {ch : Char} {r : List Char} (h : s.cursor.rest = ch :: r)
    (hstart : PlainStart s.cursor.column ch r) (hflow : s.flow = 0) : s.dispatch = s.fetchPlain := by
  have hmark := hstart.noMark
  simp only [Printer.startMarks, List.mem_cons, List.not_mem_nil, or_false, not_or] at hmark
  obtain ⟨h1, h2, h3, h4, h5, h6, h7, h8, h9, h10, h11, h12, h13, h14, h15, h16⟩ := hmark
  have hnext : s.cursor.peekAt 1 = r.head? := by
    rw [Cursor.peekAt, h]
    simp [List.head?_eq_getElem?]
  have hpeek := Cursor.peek_eq h
  have hends := hstart.noIndicator
  have hdocument : ∀ d : Char, d = '-' ∨ d = '.' → (ch = d && s.cursor.column = 0) = false := by
    intro d hd
    by_cases hcolumn : s.cursor.column = 0
    · obtain ⟨hhyphen, hpoint⟩ := hstart.noDocument hcolumn
      rcases hd with rfl | rfl
      · simp [hhyphen]
      · simp [hpoint]
    · simp [hcolumn]
  have hplain : startsPlain false s.cursor = true := by
    simp only [startsPlain, hpeek, hstart.notWhite, hnext]
    by_cases hindicator : ch = '?' ∨ ch = ':' ∨ ch = '-'
    · rw [hends hindicator]
      rcases hindicator with rfl | rfl | rfl <;> rfl
    · simp only [not_or] at hindicator
      simp [h1, h2, h3, h4, h5, h6, h7, h8, h9, h10, h11, h12, h13, h14, h15, h16, hindicator]
  have hword : ∀ d : Char, d = '?' ∨ d = ':' ∨ d = '-' → (ch = d && endsWord r.head?) = false := by
    intro d hd
    by_cases hch : ch = d
    · subst hch
      simp [hends hd]
    · simp [hch]
  simp only [dispatch, hpeek, hnext, inFlow, hflow, bne_self_eq_false, Bool.false_or, hword _ (Or.inl rfl),
    hword _ (Or.inr (Or.inl rfl)), hword _ (Or.inr (Or.inr rfl)), hdocument _ (Or.inl rfl), hdocument _ (Or.inr rfl),
    hplain, h2, h3, h4, h5, h6, h7, h8, h9, h10, h11, h12, h13, h14]
  simp

/-! ## A key -/

/-- the scanner with its cursor at a place, outside all brackets -/
def place (c : Cursor) (indent : Int) (outer : List Int) (keyAllowed : Bool) (candidates : List (Nat × KeyCandidate))
    (tokens : List Token) : Scanner :=
  ⟨c, 0, indent, outer, keyAllowed, candidates, tokens, false⟩

/-- Before an entry, or the end: once the layout is skipped, the scanner stands at the start of a line. No block is open
before the first entry, and one at column zero later. -/
def Stands (s : Scanner) (first : Bool) (r : List Char) (tokens : List Token) : Prop :=
  s.finished = false ∧ ∃ index line, s.skipMark.toNextToken s.skipMark.bound =
    place ⟨r, index, line, 0⟩ (if first then -1 else 0) (if first then [] else [-1]) true [] tokens

/-- a name in front of a colon is one word -/
theorem readPlain_name {c : Cursor} {key r : List Char} (indent : Int) (hkey : IsName key)
    (h : c.rest = key ++ ':' :: ' ' :: r) :
    readPlain false indent c = (.scalar (String.ofList key) .plain, false, c.skip key.length) := by
  have hrun : plainRun false c.rest = key := by
    rw [h]
    have hcolon : plainRun false (key ++ ':' :: ' ' :: r) = key := by
      have hchars := hkey.2
      clear hkey h
      induction key with
      | nil => simp [plainRun, colonEnds, endOr, isWhite]
      | cons ch key ih =>
        have hch := hchars ch List.mem_cons_self
        obtain ⟨hprintable, hblank⟩ := isPlainAscii_of_name hch
        have hne : ch ≠ ':' := ne_of_name hch (by decide)
        simp [plainRun, isWhite_of_printable hprintable hblank, hne,
          ih fun x hx => hchars x (List.mem_cons_of_mem _ hx)]
    exact hcolon
  have hrest : (c.skip key.length).rest = ':' :: ' ' :: r := Cursor.rest_skip _ h
  have hgap : plainGap (c.skip key.length) = (⟨[], false⟩, c.skip key.length) :=
    plainGap_kept 0 (r := ':' :: ' ' :: r) hrest fun ch hch => by
      obtain rfl := Option.some.inj hch
      decide
  have hgoes : ¬ (c.peek = some '#' ∨ key.isEmpty = true) := by
    rintro (hc | hc)
    · rw [Cursor.peek, h, Printer.head?_append_of_ne_nil hkey.1] at hc
      exact hkey.isBareWord.noComment hc
    · exact hkey.1 (List.isEmpty_iff.1 hc)
  simp only [readPlain, plainWords, hrun, Bool.or_eq_true, decide_eq_true_eq, hgoes, if_false, hgap, List.isEmpty_nil,
    true_or, if_true, List.nil_append]

/-- the column of the block that is open before an entry -/
def blockColumn (first : Bool) : Int := if first then -1 else 0

/-- the tokens of a key and its colon, newest first; the first key opens the block -/
def keyTokens (first : Bool) (key : List Char) (tokens : List Token) : List Token :=
  .value :: .scalar (String.ofList key) .plain :: .key :: (if first then .blockMappingStart :: tokens else tokens)

variable {s : Scanner} {first : Bool} {key r : List Char} {tokens : List Token}

theorem fetch_key (h : s.Stands first (key ++ ':' :: ' ' :: r) tokens) (hkey : IsName key) :
    ∃ index line, s.fetch = .ok (place ⟨':' :: ' ' :: r, index + key.length, line, key.length⟩ (blockColumn first)
      (if first then [] else [-1]) false [(0, ⟨tokens.length, blockColumn first == 0, index, line, 0⟩)]
      (.scalar (String.ofList key) .plain :: tokens)) := by
  obtain ⟨-, index, line, hplace⟩ := h
  refine ⟨index, line, ?_⟩
  obtain ⟨ch, rest, hchars⟩ := List.exists_cons_of_ne_nil hkey.1
  have hname := hkey.2 ch (by rw [hchars]; exact List.mem_cons_self)
  have hword := hkey.isBareWord
  have hstart : PlainStart 0 ch (rest ++ ':' :: ' ' :: r) := by
    refine ⟨hword.notWhite ch (by rw [hchars]; exact List.mem_cons_self), ?_, ?_, ?_⟩
    · intro hmark
      have hnot : (Printer.startMarks.any fun d => d.isLower || d = '_') = false := by decide
      exact absurd (List.any_eq_true.2 ⟨ch, hmark, hname⟩) (hnot ▸ Bool.false_ne_true)
    · rintro (rfl | rfl | rfl) <;> exact absurd hname (by decide)
    · exact fun _ => ⟨ne_of_name hname (by decide), ne_of_name hname (by decide)⟩
  have hindent : (if first then -1 else 0 : Int) ≤ ((0 : Nat) : Int) := by cases first <;> decide
  have hskip : (⟨key ++ ':' :: ' ' :: r, index, line, 0⟩ : Cursor).skip key.length =
      ⟨':' :: ' ' :: r, index + key.length, line, key.length⟩ := by
    rw [Cursor.skip_printable _ rfl fun x hx => (hword.printable x hx).1]
    simp
  have hread := readPlain_name (c := ⟨key ++ ':' :: ' ' :: r, index, line, 0⟩) (blockColumn first) hkey rfl
  rw [fetch_eq hplace]
  simp only [place, dropStale, List.any_nil, List.filter_nil, Except.bind, Bool.false_eq_true, if_false]
  rw [unwindTo_eq hindent, dispatch_plain (by simp only [hchars]; rfl) hstart rfl]
  simp only [fetchPlain, saveCandidate, if_true, dropCandidate, candidate?, List.lookup_nil, Option.any_none, forget,
    List.filter_nil, inFlow, bne_self_eq_false, Bool.not_false, Bool.true_and, bind, Except.bind, pure, Except.pure,
    Bool.false_eq_true, if_false]
  unfold blockColumn at hread ⊢
  rw [hread, hskip]
  rfl

/-- The colon makes a key of the name in front of it. -/
theorem fetch_colon {index line : Nat} (hshort : key.length ≤ 1024) :
    (place ⟨':' :: ' ' :: r, index + key.length, line, key.length⟩ (blockColumn first)
      (if first then [] else [-1]) false [(0, ⟨tokens.length, blockColumn first == 0, index, line, 0⟩)]
      (.scalar (String.ofList key) .plain :: tokens)).fetch =
    .ok (place ⟨' ' :: r, index + key.length + 1, line, key.length + 1⟩ 0 [-1] false []
      (keyTokens first key tokens)) := by
  have hmark : ∀ s : Scanner, s.cursor.rest = ':' :: ' ' :: r → s.skipMark.toNextToken s.skipMark.bound = s := by
    intro s hs
    rw [skipMark_eq (by rw [hs]; simp), bound]
    exact toNextToken_eq (by rw [hs]; simp [NotWhite]; decide) (by rw [hs]; simp)
  have hindent : blockColumn first ≤ (key.length : Int) := by cases first <;> simp [blockColumn]
  have hstale : ¬ (1024 < index + key.length - index) := by omega
  rw [fetch_eq (hmark _ rfl)]
  simp only [place, dropStale, isStale, List.any_cons, List.any_nil, bne_self_eq_false, gt_iff_lt, hstale,
    decide_false, Bool.false_and, Bool.or_self, Bool.false_eq_true, if_false, List.filter_cons, Bool.not_false, if_true,
    List.filter_nil, Except.bind]
  rw [unwindTo_eq hindent]
  have hdispatch : ∀ s : Scanner, s.cursor.rest = ':' :: ' ' :: r → s.flow = 0 → s.dispatch = s.fetchValue := by
    intro s hs hflow
    have hpeek := Cursor.peek_eq hs
    have hends : endsWord (s.cursor.peekAt 1) = true := by
      rw [Cursor.peekAt, hs]
      rfl
    simp only [dispatch, hpeek, hends, inFlow, hflow]
    simp
  rw [hdispatch _ rfl rfl]
  have hnext : (⟨':' :: ' ' :: r, index + key.length, line, key.length⟩ : Cursor).next =
      ⟨' ' :: r, index + key.length + 1, line, key.length + 1⟩ := Cursor.next_printable rfl (by decide)
  have hlater : (Token.scalar (String.ofList key) .plain :: tokens).length - tokens.length = 1 := by simp
  have hkeyLater : (Token.scalar (String.ofList key) .plain :: .key :: tokens).length - tokens.length = 2 := by
    simp only [List.length_cons]
    omega
  have hopens : (-1 : Int) < ((0 : Nat) : Int) := by decide
  have hopened : ¬ (0 : Int) < ((0 : Nat) : Int) := by decide
  cases first with
  | true =>
    simp only [fetchValue, candidate?, List.lookup_cons, beq_self_eq_true, forget, insertAt, hlater, hkeyLater, inFlow,
      bne_self_eq_false, indentTo, blockColumn, if_true, hopens, skip, Cursor.skip, hnext, emit, keyTokens,
      List.take_succ_cons, List.take_zero, List.drop_succ_cons, List.drop_zero, List.filter_cons, List.filter_nil,
      Bool.false_eq_true, if_false, List.cons_append, List.nil_append]
    rfl
  | false =>
    simp only [fetchValue, candidate?, List.lookup_cons, beq_self_eq_true, forget, insertAt, hlater, inFlow,
      bne_self_eq_false, indentTo, blockColumn, hopened, skip, Cursor.skip, hnext, emit, keyTokens,
      List.take_succ_cons, List.take_zero, List.drop_succ_cons, List.drop_zero, List.filter_cons, List.filter_nil,
      Bool.false_eq_true, if_false, List.cons_append, List.nil_append]

/-! ## A value -/

/-- a scanner that has read a line up to its end, or past it, stands at the start of the next -/
theorem stands_of_feed {c : Cursor} {tokens : List Token} (h : c.rest = '\n' :: r) (hr : LineStart r) :
    (place c 0 [-1] false [] tokens).Stands false r tokens := by
  refine ⟨rfl, c.index + 1, c.line + 1, ?_⟩
  rw [skipMark_eq (by simp [place, h])]
  have hbound : (place c 0 [-1] false [] tokens).bound = r.length + 2 := by simp [bound, place, h]
  rw [hbound, toNextToken_feed h hr rfl]
  simp only [place, Cursor.next_feed h]
  rfl

theorem stands_of_next {c : Cursor} {index line : Nat} {tokens : List Token} (h : c = ⟨r, index, line, 0⟩)
    (hr : LineStart r) (hindex : 0 < index) : (place c 0 [-1] true [] tokens).Stands false r tokens := by
  subst h
  refine ⟨rfl, index, line, ?_⟩
  have hmark : (place ⟨r, index, line, 0⟩ 0 [-1] true [] tokens).skipMark =
      place ⟨r, index, line, 0⟩ 0 [-1] true [] tokens := by
    simp [skipMark, place, Nat.ne_of_gt hindex]
  rw [hmark, bound]
  exact toNextToken_eq hr.notWhite hr.noComment

/-- the blank behind a colon is skipped -/
theorem fetch_behind_blank {c : Cursor} (h : c.rest = ' ' :: r) (hwhite : NotWhite r) (hcomment : r.head? ≠ some '#') :
    (place c 0 [-1] false [] tokens).fetch = (place c.next 0 [-1] false [] tokens).dispatch := by
  have hplace : (place c 0 [-1] false [] tokens).skipMark.toNextToken (place c 0 [-1] false [] tokens).skipMark.bound =
      place c.next 0 [-1] false [] tokens := by
    rw [skipMark_eq (by simp [place, h]), bound, toNextToken_blank h hwhite hcomment]
    rfl
  rw [fetch_eq hplace]
  simp only [place, dropStale, List.any_nil, List.filter_nil, Except.bind, Bool.false_eq_true, if_false]
  rw [unwindTo_eq (by simp)]

end Scanner

/-! ### Bare values -/

namespace Printer

/-- what stands for a bare text starts as nothing else does -/
theorem plainStart_folded {cs out r : List Char} (column : Nat) (hplain : canBePlain cs = true) (hne : cs ≠ [])
    (h : Folded id (Run.split cs) out) (hcolumn : column ≠ 0) :
    ∃ ch rest, out ++ '\n' :: r = ch :: rest ∧ Scanner.PlainStart column ch rest := by
  have hb := bare_split hplain hne
  have hchars := Run.chars_split cs
  obtain ⟨hwhite, -⟩ := head?_bare hb h ('\n' :: r)
  have hstart : startsAsMark cs = false := by
    unfold canBePlain at hplain
    simp only [Bool.and_eq_true, Bool.not_eq_true'] at hplain
    exact hplain.1.2
  generalize Run.split cs = runs at hb h hchars
  cases h with
  | nil => exact absurd hb (by simp [Bare])
  | blanks n h => exact absurd hb (by simp [Bare])
  | fold h => exact absurd hb (by simp [Bare])
  | breaks n h => exact absurd hb (by simp [Bare])
  | @word ws runs out h =>
    have hw : IsBareWord ws ∧ blankOrEnd (runs.flatMap Run.chars) = true := by
      rcases runs with _ | ⟨q, runs⟩
      · exact ⟨hb, rfl⟩
      · cases q with
        | blanks n =>
          obtain ⟨m, hm⟩ := Nat.exists_eq_succ_of_ne_zero (Nat.ne_of_gt hb.2.1)
          refine ⟨hb.1, ?_⟩
          rw [hm]
          rfl
        | word ds => exact absurd hb (by simp [Bare])
        | breaks n => exact absurd hb (by simp [Bare])
    obtain ⟨ch, rest, rfl⟩ := List.exists_cons_of_ne_nil hw.1.nonempty
    refine ⟨ch, rest ++ out ++ '\n' :: r, rfl, ⟨hw.1.notWhite ch List.mem_cons_self, ?_, ?_, fun h => absurd h hcolumn⟩⟩
    · intro hmark
      rw [← hchars] at hstart
      simp [startsAsMark, Run.chars, hmark] at hstart
    · intro hindicator
      rcases rest with _ | ⟨x, xs⟩
      · -- the word is the mark alone, with a blank or the end behind it
        exfalso
        rw [← hchars] at hstart
        simp only [List.flatMap_cons, Run.chars, List.cons_append, List.nil_append, startsAsMark,
          Bool.or_eq_false_iff] at hstart
        have hblank := hstart.2.2
        simp only [hw.2, Bool.and_true, Bool.or_eq_false_iff, decide_eq_false_iff_not] at hblank
        rcases hindicator with rfl | rfl | rfl
        · exact hblank.1.1 rfl
        · exact hblank.1.2 rfl
        · exact hblank.2 rfl
      · exact hw.1.notWhite x (by simp)

end Printer

namespace Scanner

open Printer

variable {s : Scanner} {first : Bool} {key r cs out : List Char} {tokens : List Token} {c : Cursor} {style : Style}

theorem dispatch_quoted {q : Char} (hq : q = '\x27' ∨ q = '"') (h : s.cursor.rest = q :: r) :
    s.dispatch = s.fetchWord readQuoted := by
  have hpeek := Cursor.peek_eq h
  unfold dispatch
  rcases hq with rfl | rfl <;> simp [hpeek]

theorem readQuoted_single (hs : canBeSingle cs = true) (h : Folded doubled (Run.split cs) out)
    (hc : c.rest = '\x27' :: (out ++ '\x27' :: r)) (hr : r.head? ≠ some '\x27') :
    readQuoted c = .ok (.scalar (String.ofList cs) .single, c.skip (out.length + 2)) := by
  simp only [canBeSingle, Bool.and_eq_true, List.all_eq_true, Bool.or_eq_true, decide_eq_true_eq,
    Bool.not_eq_true'] at hs
  have hchars : ∀ ch ∈ (Run.split cs).flatMap Run.chars, ch = '\n' ∨ isPlainAscii ch = true := by
    rw [Run.chars_split]
    exact hs.1
  have hreads := reads_folded h (spaced_split hs.2) hchars hr (Cursor.rest_next hc)
  have hread := hreads c.rest.length (by rw [Cursor.next_length]; omega)
  rw [Run.chars_split] at hread
  simp only [readQuoted, Cursor.peek_eq hc, Option.some.injEq, Char.reduceEq, if_false, hread, Except.map]
  rfl

theorem readQuoted_double (h : Escaped cs out) (hc : c.rest = '"' :: (out ++ '"' :: r)) :
    readQuoted c = .ok (.scalar (String.ofList cs) .double, c.skip (out.length + 2)) := by
  have hread := reads_escaped h (Cursor.rest_next hc) c.rest.length (by rw [Cursor.next_length]; omega)
  simp only [readQuoted, Cursor.peek_eq hc, if_true, hread, Except.map]
  rfl

/-- a quoted value is read up to the end of its line -/
theorem fetch_quoted {q : Char} {inside : List Char} {token : Token} (hq : q = '\x27' ∨ q = '"')
    (hc : c.rest = ' ' :: ((q :: (inside ++ [q])) ++ '\n' :: r)) (hr : LineStart r)
    (hread : readQuoted c.next = .ok (token, c.next.skip (inside.length + 2))) :
    ∃ s, (place c 0 [-1] false [] tokens).fetch = .ok s ∧ s.Stands false r (token :: tokens) := by
  have hwhite : NotWhite ((q :: (inside ++ [q])) ++ '\n' :: r) := by
    intro ch hch
    obtain rfl := Option.some.inj hch
    rcases hq with rfl | rfl <;> decide
  have hcomment : ((q :: (inside ++ [q])) ++ '\n' :: r).head? ≠ some '#' := by
    rcases hq with rfl | rfl <;> simp
  have hend : (c.next.skip (inside.length + 2)).rest = '\n' :: r := by
    have hskip := Cursor.rest_skip _ (Cursor.rest_next hc)
    simpa using hskip
  refine ⟨place (c.next.skip (inside.length + 2)) 0 [-1] false [] (token :: tokens), ?_, stands_of_feed hend hr⟩
  rw [fetch_behind_blank hc hwhite hcomment, dispatch_quoted hq (r := inside ++ [q] ++ '\n' :: r) (Cursor.rest_next hc)]
  simp only [fetchWord, saveCandidate, place, Bool.false_eq_true, if_false, bind, Except.bind, hread, pure, Except.pure]
  rfl

/-- A value is read, in whichever form it is written, and the scanner stands at the start of the next line. -/
theorem fetch_value (tokens : List Token) (hform : Form cs style out) (hr : LineStart r)
    (hc : c.rest = ' ' :: (out ++ '\n' :: r)) :
    ∃ s, (place c 0 [-1] false [] tokens).fetch = .ok s ∧
      s.Stands false r (.scalar (String.ofList cs) style :: tokens) := by
  have hnext := Cursor.next_printable hc (by decide)
  cases hform with
  | plain hplain hne h =>
    have hb := bare_split hplain hne
    obtain ⟨hwhite, hcomment⟩ := head?_bare hb h ('\n' :: r)
    obtain ⟨ch, rest, hfirst, hstart⟩ :=
      plainStart_folded (r := r) c.next.column hplain hne h (by rw [hnext]; exact Nat.succ_ne_zero _)
    have hread := plainWords_bare hb h hr (Cursor.rest_next hc) (Nat.le_succ _) ⟨[], false⟩
    have hend : c.next.skip (out.length + 1) =
        ⟨r, (c.next.skip out.length).index + 1, (c.next.skip out.length).line + 1, 0⟩ := by
      rw [Cursor.skip_add]
      exact Cursor.next_feed (Cursor.rest_skip _ (Cursor.rest_next hc))
    refine ⟨place (c.next.skip (out.length + 1)) 0 [-1] true [] (.scalar (String.ofList cs) .plain :: tokens), ?_,
      stands_of_next hend hr (Nat.succ_pos _)⟩
    rw [fetch_behind_blank hc hwhite hcomment,
      dispatch_plain (by rw [← hfirst]; exact Cursor.rest_next hc) hstart rfl]
    simp only [fetchPlain, saveCandidate, place, Bool.false_eq_true, if_false, bind, Except.bind, readPlain, inFlow,
      bne_self_eq_false, hread, List.nil_append, Run.chars_split, pure, Except.pure]
    rfl
  | single hsingle h =>
    refine fetch_quoted (Or.inl rfl) hc hr (readQuoted_single (r := '\n' :: r) hsingle h ?_ ?_)
    · exact (Cursor.rest_next hc).trans (by simp)
    · simp
  | double h =>
    exact fetch_quoted (Or.inr rfl) hc hr (readQuoted_double (r := '\n' :: r) h ((Cursor.rest_next hc).trans (by simp)))

/-! ## Entries -/

theorem fetchAll_fetch {bound : Nat} {s s' : Scanner} (hfinished : s.finished = false) (h : s.fetch = .ok s') :
    fetchAll (bound + 1) s = fetchAll bound s' := by
  simp only [fetchAll, hfinished, Bool.false_eq_true, if_false, h]
  rfl

/-- one entry: three tokens and those that stand for layout -/
theorem fetchAll_entry (hkey : IsName key) (hshort : key.length ≤ 1024) (hform : Form cs style out) (hr : LineStart r)
    (h : s.Stands first (key ++ ':' :: ' ' :: (out ++ '\n' :: r)) tokens) (bound : Nat) :
    ∃ s', fetchAll (bound + 3) s = fetchAll bound s' ∧
      s'.Stands false r (.scalar (String.ofList cs) style :: keyTokens first key tokens) := by
  obtain ⟨index, line, hfirst⟩ := fetch_key h hkey
  obtain ⟨s', hvalue, hs'⟩ := fetch_value (keyTokens first key tokens)
    (c := ⟨' ' :: (out ++ '\n' :: r), index + key.length + 1, line, key.length + 1⟩) hform hr rfl
  refine ⟨s', ?_, hs'⟩
  rw [fetchAll_fetch h.1 hfirst, fetchAll_fetch rfl (fetch_colon hshort), fetchAll_fetch rfl hvalue]

/-- the end: the block is closed -/
theorem fetchAll_end (h : s.Stands false [] tokens) (bound : Nat) :
    ∃ s', fetchAll (bound + 1) s = .ok s' ∧ s'.tokens = .blockEnd :: tokens := by
  obtain ⟨hfinished, index, line, hplace⟩ := h
  have hfetch : s.fetch =
      .ok { place ⟨[], index, line, 0⟩ (-1) [] true [] (.blockEnd :: tokens) with finished := true } := by
    rw [fetch_eq hplace]
    rfl
  rw [fetchAll_fetch hfinished hfetch]
  cases bound with
  | zero => exact ⟨_, rfl, rfl⟩
  | succ bound => exact ⟨_, rfl, rfl⟩

end Scanner

end LinePrompt.Yaml
