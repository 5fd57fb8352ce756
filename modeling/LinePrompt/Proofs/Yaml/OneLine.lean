/-
Plain scalars on one line.

A text can be typed without quotes behind a key if it has no line break in it, does not start like something else, does
not end in a blank, and holds neither a colon in front of a blank nor a comment (`PlainLine`). The one scalar of such a
line is the text as it stands, all of it (`scan_line`).
-/
import Mathlib.Data.List.TakeWhile
import LinePrompt.Proofs.Yaml.Lines

namespace LinePrompt.Yaml

open Printer

/-- does the text start with a word that starts nothing but a scalar? -/
def startsBare : List Char → Bool
  | [] => false
  | c :: rest => c != ' ' && !startMarks.contains c && !((c = '?' || c = ':' || c = '-') && blankOrEnd rest)

/-- what can be typed bare behind a key -/
structure PlainLine (cs : List Char) : Prop where
  allowed : ∀ c ∈ cs, isAllowed c = true ∧ c ≠ '\r'
  /-- blanks are the only white space -/
  blanks : ∀ c ∈ cs, c ≠ ' ' → isWhite c = false
  start : startsBare cs = true
  noMark : holdsMark cs = false
  last : cs.getLast? ≠ some ' '

instance (cs : List Char) : Decidable (PlainLine cs) :=
  decidable_of_iff ((cs.all (fun c => isAllowed c && c != '\r') && cs.all (fun c => c == ' ' || !isWhite c) &&
    startsBare cs && !holdsMark cs && cs.getLast? != some ' ') = true) (by
      simp only [Bool.and_eq_true, List.all_eq_true, Bool.or_eq_true, bne_iff_ne, beq_iff_eq, Bool.not_eq_true',
        Decidable.or_iff_not_imp_left]
      exact ⟨fun ⟨⟨⟨⟨h1, h2⟩, h3⟩, h4⟩, h5⟩ => ⟨h1, h2, h3, h4, h5⟩,
        fun ⟨h1, h2, h3, h4, h5⟩ => ⟨⟨⟨⟨h1, h2⟩, h3⟩, h4⟩, h5⟩⟩)

/-- the end of a line that nothing follows -/
def LineEnd (r : List Char) : Prop := r = [] ∨ r = ['\n']

variable {cs ds key r : List Char} {c : Cursor} {tokens : List Token}

/-! ## Columns -/

namespace Cursor

/-- no column is lost on the way along a line -/
theorem column_next (h : ∀ ch ∈ c.peek, isBreak ch = false) : c.column ≤ c.next.column := by
  unfold peek at h
  unfold next
  split
  · exact Nat.le_refl _
  · rename_i ch rest hrest
    rw [if_neg (by simp [h ch (by rw [hrest]; rfl)])]
    split_ifs
    · exact Nat.le_refl _
    · exact Nat.le_succ _

theorem column_skip (cs : List Char) (hc : c.rest = cs ++ r) (h : ∀ ch ∈ cs, isBreak ch = false) :
    c.column ≤ (c.skip cs.length).column := by
  induction cs generalizing c with
  | nil => exact Nat.le_refl _
  | cons ch cs ih =>
    have hpeek : ∀ x ∈ c.peek, isBreak x = false := by
      intro x hx
      rw [peek_eq hc] at hx
      obtain rfl := Option.mem_some_iff.1 hx
      exact h _ List.mem_cons_self
    exact Nat.le_trans (column_next hpeek) (ih (rest_next hc) fun x hx => h x (List.mem_cons_of_mem _ hx))

end Cursor

/-! ## Words -/

/-- a text is a word, or a word and blanks and another text, if no blank stands at its ends -/
theorem word_or_more (hhead : cs.head? ≠ some ' ') (hne : cs ≠ []) (hlast : cs.getLast? ≠ some ' ') :
    ∃ word, word ≠ [] ∧ ' ' ∉ word ∧ (cs = word ∨ ∃ n later, later ≠ [] ∧ later.head? ≠ some ' ' ∧
      cs = word ++ (List.replicate (n + 1) ' ' ++ later)) := by
  have hsplit := List.takeWhile_append_dropWhile (p := (· != ' ')) (l := cs)
  refine ⟨cs.takeWhile (· != ' '), ?_, fun hmem => absurd (List.mem_takeWhile_imp hmem) (by decide), ?_⟩
  · obtain ⟨c, rest, rfl⟩ := List.exists_cons_of_ne_nil hne
    have hc : c ≠ ' ' := by simpa using hhead
    simp [hc]
  · cases hmore : cs.dropWhile (· != ' ') with
    | nil =>
      rw [hmore, List.append_nil] at hsplit
      exact Or.inl hsplit.symm
    | cons c rest =>
      have hc : c = ' ' := by
        have hstop := List.head?_dropWhile_not (· != ' ') cs
        rw [hmore] at hstop
        simpa using hstop
      subst hc
      have hblanks := List.takeWhile_append_dropWhile (p := (· == ' ')) (l := rest)
      have hall : rest.takeWhile (· == ' ') = List.replicate (rest.takeWhile (· == ' ')).length ' ' :=
        List.eq_replicate_of_mem fun x hx => by simpa using List.mem_takeWhile_imp hx
      have hcs : cs = cs.takeWhile (· != ' ') ++ (List.replicate ((rest.takeWhile (· == ' ')).length + 1) ' ' ++
          rest.dropWhile (· == ' ')) := by
        rw [List.replicate_succ, ← hall, List.cons_append, hblanks, ← hmore, hsplit]
      refine Or.inr ⟨_, rest.dropWhile (· == ' '), ?_, ?_, hcs⟩
      · intro hnil
        rw [hnil, List.append_nil, List.replicate_succ'] at hcs
        rw [hcs] at hlast
        simp at hlast
      · intro hblank
        have hstop := List.head?_dropWhile_not (· == ' ') rest
        rw [hblank] at hstop
        simp at hstop

/-- what is left of a plain scalar where a word starts -/
structure WordStart (cs : List Char) : Prop where
  nonempty : cs ≠ []
  blanks : ∀ c ∈ cs, c ≠ ' ' → isWhite c = false
  noBlank : cs.head? ≠ some ' '
  noComment : cs.head? ≠ some '#'
  noMark : holdsMark cs = false
  last : cs.getLast? ≠ some ' '

/-- the word that starts there: white space ends it, and neither a colon nor a comment -/
structure WordOf (word : List Char) : Prop where
  nonempty : word ≠ []
  notWhite : ∀ c ∈ word, isWhite c = false
  noColon : word.getLast? ≠ some ':'
  noComment : word.head? ≠ some '#'

theorem WordStart.later {word : List Char} {n : Nat} (h : WordStart (word ++ (List.replicate (n + 1) ' ' ++ ds)))
    (hne : ds ≠ []) (hhead : ds.head? ≠ some ' ') : WordStart ds := by
  have hmark : holdsMark (' ' :: ds) = false := by
    have hmark := h.noMark
    rw [List.replicate_succ', List.append_assoc] at hmark
    exact holdsMark_append (holdsMark_append hmark)
  refine ⟨hne, fun c hc => h.blanks c (by simp [hc]), hhead, head?_of_holdsMark hmark, holdsMark_tail hmark,
    fun hlast => ?_⟩
  exact h.last (by simp [List.getLast?_append, hlast])

theorem WordStart.split (h : WordStart cs) : ∃ word, WordOf word ∧
    (cs = word ∨ ∃ n later, WordStart later ∧ cs = word ++ (List.replicate (n + 1) ' ' ++ later)) := by
  obtain ⟨word, hword, hsolid, hsplit⟩ := word_or_more h.noBlank h.nonempty h.last
  have hwhite : ∀ c ∈ cs, c ∈ word → isWhite c = false := fun c hc hin =>
    h.blanks c hc (by rintro rfl; exact hsolid hin)
  rcases hsplit with rfl | ⟨n, later, hlater, hstop, rfl⟩
  · have hcolon : cs.getLast? ≠ some ':' := getLast?_of_holdsMark [] rfl (by rw [List.append_nil]; exact h.noMark)
    exact ⟨cs, ⟨hword, fun c hc => hwhite c hc hc, hcolon, h.noComment⟩, Or.inl rfl⟩
  · have hcolon : word.getLast? ≠ some ':' := getLast?_of_holdsMark (List.replicate (n + 1) ' ' ++ later) rfl h.noMark
    have hcomment := h.noComment
    rw [head?_append_of_ne_nil hword] at hcomment
    exact ⟨word, ⟨hword, fun c hc => hwhite c (by simp [hc]) hc, hcolon, hcomment⟩,
      Or.inr ⟨n, later, h.later hlater hstop, rfl⟩⟩

theorem WordStart.notWhite (h : WordStart cs) (r : List Char) : NotWhite (cs ++ r) := by
  intro c hc
  rw [head?_append_of_ne_nil h.nonempty] at hc
  refine h.blanks c (List.mem_of_mem_head? hc) ?_
  rintro rfl
  exact h.noBlank hc

theorem WordOf.noBreak {word : List Char} (h : WordOf word) (n : Nat) :
    ∀ c ∈ word ++ List.replicate n ' ', isBreak c = false := by
  intro c hc
  rcases List.mem_append.1 hc with hc | hc
  · have hwhite := h.notWhite c hc
    simp only [isWhite, Bool.or_eq_false_iff] at hwhite
    exact hwhite.2
  · obtain rfl := List.eq_of_mem_replicate hc
    decide

/-- behind the last word the line ends, and so does the scalar -/
theorem plainGap_end (h : LineEnd c.rest) :
    ∃ gap d, plainGap c = (gap, d) ∧ d.rest = [] ∧ (gap.chars = [] ∨ d.column = 0) := by
  rcases h with h | h
  · refine ⟨_, c, plainGap_kept 0 (r := []) h (by simp [NotWhite]), h, Or.inl rfl⟩
  · have hnext := Cursor.next_feed h
    have hmark : c.next.atDocumentMark = false := Cursor.atDocumentMark_eq_false (by rw [hnext]; simp)
    refine ⟨_, _, plainGap_break 0 (r := []) h (by simp [NotWhite]) hmark, ?_, Or.inr ?_⟩
    · exact congrArg Cursor.rest hnext
    · exact congrArg Cursor.column hnext

/-- one word, and what the reader does behind it -/
theorem plainWords_step {word : List Char} {bound : Nat} {gap : PlainGap} (h : WordOf word) (hc : c.rest = word ++ r)
    (hr : ∀ x ∈ r.head?, isWhite x = true) :
    plainWords false 0 (bound + 1) gap c =
      let (after, d) := plainGap (c.skip word.length)
      if after.chars.isEmpty || d.peek = some '#' || (!false && (d.column : Int) < 0 + 1) then
        (gap.chars ++ word, after.broken, d)
      else
        let (text, broken, e) := plainWords false 0 bound after d
        (gap.chars ++ word ++ text, broken, e) := by
  have hrun : plainRun false c.rest = word := by
    rw [hc]
    exact plainRun_word h.notWhite h.noColon hr
  have hgoes : ¬ (c.peek = some '#' ∨ word.isEmpty = true) := by
    rintro (hpeek | hempty)
    · rw [Cursor.peek, hc, head?_append_of_ne_nil h.nonempty] at hpeek
      exact h.noComment hpeek
    · exact h.nonempty (List.isEmpty_iff.1 hempty)
  rw [plainWords]
  simp only [hrun, Bool.or_eq_true, decide_eq_true_eq, hgoes, if_false]

/-- The words of a line are read to its end. -/
theorem plainWords_line (bound : Nat) (h : WordStart cs) (hr : LineEnd r) (hc : c.rest = cs ++ r)
    (hcolumn : 0 < c.column) (hbound : cs.length ≤ bound) (gap : PlainGap) :
    ∃ broken d, plainWords false 0 bound gap c = (gap.chars ++ cs, broken, d) ∧ d.rest = [] := by
  induction bound generalizing cs c gap with
  | zero => exact absurd (List.length_eq_zero_iff.1 (Nat.le_zero.1 hbound)) h.nonempty
  | succ bound ih =>
    obtain ⟨word, hword, rfl | ⟨n, later, hlater, rfl⟩⟩ := h.split
    · -- the last word
      have hends : ∀ x ∈ r.head?, isWhite x = true := by
        rcases hr with rfl | rfl
        · simp
        · simp only [List.head?_cons, Option.mem_some_iff, forall_eq']
          decide
      have hrest : (c.skip cs.length).rest = r := Cursor.rest_skip _ hc
      obtain ⟨after, d, hgap, hd, hover⟩ := plainGap_end (c := c.skip cs.length) (hrest ▸ hr)
      refine ⟨after.broken, d, ?_, hd⟩
      rw [plainWords_step hword hc hends, hgap]
      rcases hover with hover | hover <;> simp [hover]
    · have hrest : (c.skip word.length).rest = List.replicate (n + 1) ' ' ++ (later ++ r) :=
        Cursor.rest_skip word (by simpa using hc)
      have hd : ((c.skip word.length).skip (n + 1)).rest = later ++ r := by
        have hskip := Cursor.rest_skip _ hrest
        rwa [List.length_replicate] at hskip
      have hpeek : ((c.skip word.length).skip (n + 1)).peek ≠ some '#' := by
        rw [Cursor.peek, hd, head?_append_of_ne_nil hlater.nonempty]
        exact hlater.noComment
      have hfurther : 0 < ((c.skip word.length).skip (n + 1)).column := by
        have hcolumns := Cursor.column_skip (word ++ List.replicate (n + 1) ' ') (r := later ++ r) (by simpa using hc)
          (hword.noBreak _)
        rw [List.length_append, List.length_replicate, Cursor.skip_add] at hcolumns
        exact Nat.lt_of_lt_of_le hcolumn hcolumns
      have hshort : later.length ≤ bound := by
        rw [List.length_append, List.length_append, List.length_replicate] at hbound
        omega
      obtain ⟨broken, e, hread, he⟩ := ih hlater hd hfurther hshort ⟨List.replicate (n + 1) ' ', false⟩
      refine ⟨broken, e, ?_, he⟩
      rw [plainWords_step hword (r := List.replicate (n + 1) ' ' ++ (later ++ r)) (by simpa using hc)
        (by simp [List.replicate_succ]; decide), plainGap_kept _ hrest (hlater.notWhite r)]
      dsimp only
      rw [if_neg (by simp [hpeek, List.replicate_succ]; omega), hread]
      simp

/-! ## Lines -/

namespace PlainLine

/-- its first character, and what stands behind that -/
theorem exists_first (h : PlainLine cs) : ∃ c rest, cs = c :: rest ∧ c ≠ ' ' ∧ c ∉ startMarks ∧
    (c = '?' ∨ c = ':' ∨ c = '-' → blankOrEnd rest = false) := by
  have hstart := h.start
  unfold startsBare at hstart
  split at hstart
  · cases hstart
  · rename_i c rest
    simp only [Bool.and_eq_true, bne_iff_ne, ne_eq, Bool.not_eq_true', Bool.and_eq_false_iff, Bool.or_eq_false_iff,
      decide_eq_false_iff_not, List.contains_eq_mem] at hstart
    obtain ⟨⟨hblank, hmark⟩, hindicator⟩ := hstart
    refine ⟨c, rest, rfl, hblank, hmark, fun hc => hindicator.resolve_left ?_⟩
    rintro ⟨⟨hquestion, hcolon⟩, hhyphen⟩
    rcases hc with hc | hc | hc
    · exact hquestion hc
    · exact hcolon hc
    · exact hhyphen hc

theorem wordStart (h : PlainLine cs) : WordStart cs := by
  obtain ⟨c, rest, rfl, hblank, hmark, -⟩ := h.exists_first
  refine ⟨List.cons_ne_nil _ _, h.blanks, by simpa using hblank, ?_, h.noMark, h.last⟩
  rw [List.head?_cons, ne_eq, Option.some.injEq]
  rintro rfl
  exact hmark (by decide)

/-- behind a key it starts as nothing else does -/
theorem plainStart (h : PlainLine cs) {column : Nat} (hcolumn : column ≠ 0) (r : List Char) :
    ∃ c rest, cs ++ r = c :: rest ∧ Scanner.PlainStart column c rest := by
  obtain ⟨c, rest, rfl, hblank, hmark, hindicator⟩ := h.exists_first
  refine ⟨c, rest ++ r, rfl, h.blanks c List.mem_cons_self hblank, hmark, fun hc => ?_, fun h => absurd h hcolumn⟩
  have hsolid := hindicator hc
  rcases rest with _ | ⟨x, rest⟩
  · cases hsolid
  · have hx : x ≠ ' ' := by simpa [blankOrEnd] using hsolid
    exact h.blanks x (by simp) hx

end PlainLine

namespace Scanner

/-- the scalar behind the blank of a key is read to the end of the text -/
theorem fetch_line (h : PlainLine cs) (hr : LineEnd r) (hc : c.rest = ' ' :: (cs ++ r)) :
    ∃ d broken, (place c 0 [-1] false [] tokens).fetch =
      .ok (place d 0 [-1] broken [] (.scalar (String.ofList cs) .plain :: tokens)) ∧ d.rest = [] := by
  have hnext := Cursor.next_printable hc (by decide)
  have hrest := Cursor.rest_next hc
  have hcolumn : 0 < c.next.column := by
    rw [hnext]
    exact Nat.succ_pos _
  have hcomment : (cs ++ r).head? ≠ some '#' := by
    rw [head?_append_of_ne_nil h.wordStart.nonempty]
    exact h.wordStart.noComment
  obtain ⟨ch, rest, hfirst, hstart⟩ := h.plainStart (Nat.ne_of_gt hcolumn) r
  obtain ⟨broken, d, hread, hd⟩ := plainWords_line (c.next.rest.length + 1) h.wordStart hr hrest hcolumn
    (by rw [hrest, List.length_append]; omega) ⟨[], false⟩
  refine ⟨d, broken, ?_, hd⟩
  rw [fetch_behind_blank hc (h.wordStart.notWhite r) hcomment,
    dispatch_plain (by rw [← hfirst]; exact hrest) hstart rfl]
  simp only [fetchPlain, saveCandidate, place, Bool.false_eq_true, if_false, bind, Except.bind, readPlain, inFlow,
    bne_self_eq_false, hread, List.nil_append, pure, Except.pure]
  rfl

/-- at the end of the text the block is closed -/
theorem fetch_over {broken : Bool} (h : c.rest = []) : (place c 0 [-1] broken [] tokens).fetch =
    .ok { place c (-1) [] broken [] (.blockEnd :: tokens) with finished := true } := by
  have hplace : (place c 0 [-1] broken [] tokens).skipMark.toNextToken
      (place c 0 [-1] broken [] tokens).skipMark.bound = place c 0 [-1] broken [] tokens := by
    rw [skipMark_eq (by simp [place, h]), bound, toNextToken_eq (by simp [place, h, NotWhite]) (by simp [place, h])]
  have hpeek : c.peek = none := by rw [Cursor.peek, h, List.head?_nil]
  rw [fetch_eq hplace]
  simp only [place, dropStale, List.any_nil, List.filter_nil, Except.bind, Bool.false_eq_true, if_false]
  rw [unwindTo_eq (by simp)]
  simp only [dispatch, hpeek]
  rfl

end Scanner

/-- **Lines that stand bare.** A key with a plain line behind it, all of a text, are the tokens of a mapping of one
entry. -/
theorem scan_line (hkey : IsName key) (hshort : key.length ≤ 1024) (h : PlainLine cs) (hr : LineEnd r) :
    Token.scan (key ++ ':' :: ' ' :: (cs ++ r)) = .ok [.blockMappingStart, .key, .scalar (String.ofList key) .plain,
      .value, .scalar (String.ofList cs) .plain, .blockEnd] := by
  have hallowed : (key ++ ':' :: ' ' :: (cs ++ r)).all isAllowed = true := by
    rw [List.all_eq_true]
    intro c hc
    simp only [List.mem_append, List.mem_cons] at hc
    rcases hc with hc | rfl | rfl | hc | hc
    · exact (isAllowed_of_printable (Or.inr (isPlainAscii_of_name (hkey.2 c hc)).1)).1
    · decide
    · decide
    · exact (h.allowed c hc).1
    · rcases hr with rfl | rfl
      · cases hc
      · obtain rfl := List.mem_singleton.1 hc
        decide
  have hline : LineStart (key ++ ':' :: ' ' :: (cs ++ r)) := hkey.lineStart
  have hmark : (key ++ ':' :: ' ' :: (cs ++ r)).head? ≠ some '\ufeff' := by
    rw [head?_append_of_ne_nil hkey.1]
    intro hhead
    exact absurd (hkey.2 _ (List.mem_of_mem_head? hhead)) (by decide)
  have hstands : (Scanner.start (key ++ ':' :: ' ' :: (cs ++ r))).Stands true (key ++ ':' :: ' ' :: (cs ++ r)) [] := by
    refine ⟨rfl, 0, 0, ?_⟩
    rw [Scanner.skipMark_eq hmark, Scanner.bound, Scanner.toNextToken_eq hline.notWhite hline.noComment]
    rfl
  obtain ⟨index, line, hfirst⟩ := Scanner.fetch_key hstands hkey
  obtain ⟨d, broken, hvalue, hd⟩ := @Scanner.fetch_line cs r
    ⟨' ' :: (cs ++ r), index + key.length + 1, line, key.length + 1⟩ (Scanner.keyTokens true key []) h hr rfl
  have hlength := List.length_pos_iff.2 hkey.1
  obtain ⟨more, hmore⟩ : ∃ more, (key ++ ':' :: ' ' :: (cs ++ r)).length + 2 = more + 1 + 1 + 1 + 1 + 1 :=
    ⟨(key ++ ':' :: ' ' :: (cs ++ r)).length - 3, by simp only [List.length_append, List.length_cons]; omega⟩
  rw [Token.scan, if_pos hallowed, hmore, Scanner.fetchAll_fetch rfl hfirst,
    Scanner.fetchAll_fetch rfl (Scanner.fetch_colon hshort), Scanner.fetchAll_fetch rfl hvalue,
    Scanner.fetchAll_fetch rfl (Scanner.fetch_over hd)]
  rfl

end LinePrompt.Yaml
