/-
What the pen writes for a text, said without columns.

Where a line is broken depends on the columns, what is read back does not. So each form has a relation between a text
and the characters that may stand for it: `Folded` for runs, in which a lone blank may have become a line break, and
`Escaped` for characters between double quotes. Whatever the columns are, the pen writes such characters:
`folded_writeRuns` and `escaped_writeEscaped`. Lines go on at column two, which is where the values of a file's entries
stand.
-/
import LinePrompt.Proofs.Yaml.Runs

namespace LinePrompt.Yaml.Printer

/-! ## Pens -/

namespace Pen

theorem ink_put (p : Pen) (cs : List Char) : (p.put cs).ink = cs.reverse ++ p.ink := rfl

/-- a line that is broken behind its second column goes on at the second -/
theorem indent_of_past {p : Pen} (h : 2 < p.column) :
    (p.indent 2).ink = [' ', ' ', '\n'] ++ p.ink ∧ (p.indent 2).column = 2 := by
  have hpast : (!p.fresh || 2 < p.column || (p.column == 2 && !p.spaced)) = true := by simp [h]
  unfold indent
  rw [if_pos hpast]
  exact ⟨rfl, rfl⟩

/-- empty lines, and the line behind them at its second column -/
theorem indent_breakLines (n : Nat) (p : Pen) :
    ((breakLines (n + 1) p).indent 2).ink = [' ', ' '] ++ (List.replicate (n + 1) '\n' ++ p.ink) := by
  induction n generalizing p with
  | zero => rfl
  | succ n ih =>
    rw [breakLines, ih]
    simp [breakLine, List.replicate_succ']

end Pen

/-! ## Bare, and between apostrophes -/

/-- the characters that may stand for runs: a lone blank can be a line break -/
inductive Folded (spell : List Char → List Char) : List Run → List Char → Prop where
  | nil : Folded spell [] []
  | word (cs : List Char) {runs : List Run} {out : List Char} (h : Folded spell runs out) :
    Folded spell (.word cs :: runs) (spell cs ++ out)
  | blanks (n : Nat) {runs : List Run} {out : List Char} (h : Folded spell runs out) :
    Folded spell (.blanks n :: runs) (List.replicate n ' ' ++ out)
  | fold {runs : List Run} {out : List Char} (h : Folded spell runs out) :
    Folded spell (.blanks 1 :: runs) ('\n' :: ' ' :: ' ' :: out)
  | breaks (n : Nat) {runs : List Run} {out : List Char} (h : Folded spell runs out) :
    Folded spell (.breaks n :: runs) (List.replicate (n + 1) '\n' ++ ' ' :: ' ' :: out)

/-- the pen writes characters that stand for the runs -/
theorem folded_writeRuns (folds : Bool) (spell : List Char → List Char) (first : Bool) (runs : List Run) (p : Pen) :
    ∃ out, Folded spell runs out ∧ (writeRuns 2 folds spell first runs p).ink = out.reverse ++ p.ink := by
  induction runs generalizing first p with
  | nil => exact ⟨[], .nil, rfl⟩
  | cons r runs ih =>
    cases r with
    | word cs =>
      obtain ⟨out, hout, hink⟩ := ih (first && cs.isEmpty) (p.put (spell cs))
      refine ⟨spell cs ++ out, .word cs hout, ?_⟩
      rw [writeRuns, hink]
      simp [Pen.ink_put]
    | blanks n =>
      rw [writeRuns]
      by_cases hfold : (n = 1 && folds && foldColumn < p.column && !first && !runs.isEmpty) = true
      · have hn : n = 1 ∧ foldColumn < p.column := by
          simp only [Bool.and_eq_true, decide_eq_true_eq] at hfold
          exact ⟨hfold.1.1.1.1, hfold.1.1.2⟩
        obtain ⟨out, hout, hink⟩ := ih false (p.indent 2)
        obtain ⟨hindent, -⟩ := Pen.indent_of_past (p := p) (Nat.lt_trans (by decide) hn.2)
        refine ⟨'\n' :: ' ' :: ' ' :: out, hn.1 ▸ .fold hout, ?_⟩
        rw [if_pos hfold, hink, hindent]
        simp
      · obtain ⟨out, hout, hink⟩ := ih false (p.put (List.replicate n ' '))
        refine ⟨List.replicate n ' ' ++ out, .blanks n hout, ?_⟩
        rw [if_neg hfold, hink]
        simp [Pen.ink_put]
    | breaks n =>
      obtain ⟨out, hout, hink⟩ := ih false ((breakLines (n + 1) p).indent 2)
      refine ⟨List.replicate (n + 1) '\n' ++ ' ' :: ' ' :: out, .breaks n hout, ?_⟩
      rw [writeRuns, hink, Pen.indent_breakLines]
      simp

/-! ## Between double quotes -/

/-- the characters that may stand for a text between double quotes: a line can be broken before any character, and a
blank that comes next has a backslash of its own then -/
inductive Escaped : List Char → List Char → Prop where
  | nil : Escaped [] []
  | bare {c : Char} {cs out : List Char} (hc : escape? c = none) (h : Escaped cs out) : Escaped (c :: cs) (c :: out)
  | escape {c : Char} {form cs out : List Char} (hc : escape? c = some form) (h : Escaped cs out) :
    Escaped (c :: cs) (form ++ out)
  | fold {cs out : List Char} (hnext : cs.head? ≠ some ' ') (h : Escaped cs out) :
    Escaped cs ('\\' :: '\n' :: ' ' :: ' ' :: out)
  | foldBlank {cs out : List Char} (h : Escaped cs out) :
    Escaped (' ' :: cs) ('\\' :: '\n' :: ' ' :: ' ' :: '\\' :: ' ' :: out)

/-- a line broken in front of a character -/
theorem foldLine_ink {p : Pen} (next : Option Char) (h : 2 < p.column) :
    (foldLine 2 next p).ink = (if next = some ' ' then ['\\'] else []) ++ [' ', ' ', '\n', '\\'] ++ p.ink ∧
      (foldLine 2 next p).column ≤ foldColumn := by
  have hpast : 2 < (p.put ['\\']).column := Nat.lt_succ_of_lt h
  obtain ⟨hink, hcolumn⟩ := Pen.indent_of_past hpast
  unfold foldLine
  split_ifs with hnext
  · refine ⟨by simp [Pen.ink_put, hink], ?_⟩
    change ((p.put ['\\']).indent 2).column + 1 ≤ foldColumn
    rw [hcolumn]
    decide
  · exact ⟨by simp [Pen.ink_put, hink], by simp [hcolumn, foldColumn]⟩

theorem escape?_blank : escape? ' ' = none := by decide

/-- The pen writes characters that stand for the text. A blank that is written while the line is short is not folded:
this is what follows a line break in front of a blank. -/
theorem escaped_writeEscaped (folds first escaped : Bool) (cs : List Char) (p : Pen) :
    ∃ out, Escaped cs out ∧ (writeEscaped 2 folds first escaped cs p).ink = out.reverse ++ p.ink ∧
      (p.column ≤ foldColumn → ∀ rest, cs = ' ' :: rest → ∃ out', out = ' ' :: out' ∧ Escaped rest out') := by
  induction cs generalizing first escaped p with
  | nil => exact ⟨[], .nil, rfl, fun _ rest h => nomatch h⟩
  | cons c cs ih =>
    rcases hc : escape? c with _ | form
    · have hunfold : writeEscaped 2 folds first escaped (c :: cs) p =
          writeEscaped 2 folds false false cs ((if (folds && !first && !cs.isEmpty) && (c = ' ' || escaped) &&
            foldColumn < p.column then foldLine 2 (some c) p else p).put [c]) := by
        rw [writeEscaped]
        simp only [hc]
      rw [hunfold]
      by_cases hfold : ((folds && !first && !cs.isEmpty) && (c = ' ' || escaped) && foldColumn < p.column) = true
      · have hcolumn : foldColumn < p.column := by
          simp only [Bool.and_eq_true, decide_eq_true_eq] at hfold
          exact hfold.2
        obtain ⟨hink, -⟩ := foldLine_ink (p := p) (some c) (Nat.lt_trans (by decide) hcolumn)
        obtain ⟨out, hout, hwritten, -⟩ := ih false false ((foldLine 2 (some c) p).put [c])
        rw [if_pos hfold, hwritten, Pen.ink_put, hink]
        by_cases hblank : c = ' '
        · subst hblank
          exact ⟨_, .foldBlank hout, by simp, fun h => absurd h (Nat.not_le.2 hcolumn)⟩
        · refine ⟨_, .fold (by simpa using hblank) (.bare hc hout), by simp [hblank], ?_⟩
          exact fun h => absurd h (Nat.not_le.2 hcolumn)
      · obtain ⟨out, hout, hwritten, -⟩ := ih false false (p.put [c])
        rw [if_neg hfold, hwritten]
        refine ⟨c :: out, .bare hc hout, by simp [Pen.ink_put], ?_⟩
        rintro - rest heq
        obtain ⟨rfl, rfl⟩ := List.cons.inj heq
        exact ⟨out, rfl, hout⟩
    · have hnoblank : c ≠ ' ' := by
        rintro rfl
        rw [escape?_blank] at hc
        cases hc
      have hunfold : writeEscaped 2 folds first escaped (c :: cs) p =
          writeEscaped 2 folds false true cs (if (folds && !first && !cs.isEmpty) &&
            foldColumn + 1 < (p.put form).column then foldLine 2 cs.head? (p.put form) else p.put form) := by
        rw [writeEscaped]
        simp only [hc]
      rw [hunfold]
      by_cases hfold : ((folds && !first && !cs.isEmpty) && foldColumn + 1 < (p.put form).column) = true
      · have hcolumn : foldColumn + 1 < (p.put form).column := by
          simp only [Bool.and_eq_true, decide_eq_true_eq] at hfold
          exact hfold.2
        obtain ⟨hink, hshort⟩ := foldLine_ink (p := p.put form) cs.head? (Nat.lt_trans (by decide) hcolumn)
        obtain ⟨out, hout, hwritten, hblank⟩ := ih false true (foldLine 2 cs.head? (p.put form))
        rw [if_pos hfold, hwritten, hink, Pen.ink_put]
        by_cases hnext : cs.head? = some ' '
        · obtain ⟨rest, rfl⟩ := List.head?_eq_some_iff.1 hnext
          obtain ⟨out', rfl, hout'⟩ := hblank hshort rest rfl
          exact ⟨_, .escape hc (.foldBlank hout'), by simp, fun _ r h => absurd (List.cons.inj h).1 hnoblank⟩
        · exact ⟨_, .escape hc (.fold hnext hout), by simp [hnext], fun _ r h => absurd (List.cons.inj h).1 hnoblank⟩
      · obtain ⟨out, hout, hwritten, -⟩ := ih false true (p.put form)
        rw [if_neg hfold, hwritten]
        exact ⟨_, .escape hc hout, by simp [Pen.ink_put], fun _ r h => absurd (List.cons.inj h).1 hnoblank⟩

/-! ## All forms -/

/-- the characters that may stand for a text as the value of an entry -/
inductive Form (cs : List Char) : Style → List Char → Prop where
  | plain {out : List Char} (hplain : canBePlain cs = true) (hne : cs ≠ []) (h : Folded id (Run.split cs) out) :
    Form cs .plain out
  | single {out : List Char} (hsingle : canBeSingle cs = true) (h : Folded doubled (Run.split cs) out) :
    Form cs .single ('\x27' :: (out ++ ['\x27']))
  | double {out : List Char} (h : Escaped cs out) : Form cs .double ('"' :: (out ++ ['"']))

/-- the form that a text takes tells its type -/
theorem writeBlock_text (cs : List Char) (p : Pen) :
    writeBlock 0 .entry (.scalar none .text cs) p = writeScalar 2 true (formFor .text cs) cs p := by
  have htells : tellsTag .text (formFor .text cs) cs = true := by
    unfold tellsTag formFor
    split_ifs <;> simp_all
  have hstyle : scalarStyle .text cs = formFor .text cs := rfl
  rw [writeBlock, writeAnchor, hstyle]
  simp only [htells, if_true]
  rfl

/-- A text as the value of an entry: a blank, and characters that stand for it. If it stands bare, it is not taken for
anything else than a text. -/
theorem form_writeBlock (cs : List Char) (p : Pen) (hp : p.spaced = false) :
    ∃ style out, Form cs style out ∧ (style = .plain → resolveChars cs = .text) ∧
      (writeBlock 0 .entry (.scalar none .text cs) p).ink = (' ' :: out).reverse ++ p.ink ∧
        (writeBlock 0 .entry (.scalar none .text cs) p).fresh = false := by
  have hmark : ∀ cs : List Char, (p.mark cs).ink = (' ' :: cs).reverse ++ p.ink := by
    intro cs
    simp [Pen.mark, Pen.ink_put, hp]
  rw [writeBlock_text]
  unfold formFor
  by_cases hplain : (resolveChars cs = .text && canBePlain cs) = true
  · rw [if_pos hplain]
    simp only [Bool.and_eq_true, decide_eq_true_eq] at hplain
    obtain ⟨out, hout, hink⟩ := folded_writeRuns true id true (Run.split cs) (p.mark [])
    have hne : cs ≠ [] := by
      rintro rfl
      exact absurd hplain.1 (by decide)
    refine ⟨.plain, out, .plain hplain.2 hne hout, fun _ => hplain.1, ?_, rfl⟩
    simp only [writeScalar, writePlain, Pen.attach, Pen.ink_put, hink, hmark]
    simp
  · rw [if_neg hplain]
    by_cases hsingle : canBeSingle cs = true
    · rw [if_pos hsingle]
      obtain ⟨out, hout, hink⟩ := folded_writeRuns true doubled true (Run.split cs) (p.mark ['\x27'])
      refine ⟨.single, _, .single hsingle hout, nofun, ?_, rfl⟩
      simp only [writeScalar, writeSingle, Pen.attach, Pen.ink_put, hink, hmark]
      simp
    · rw [if_neg hsingle]
      obtain ⟨out, hout, hink, -⟩ := escaped_writeEscaped true true false cs (p.mark ['"'])
      refine ⟨.double, _, .double hout, nofun, ?_, rfl⟩
      simp only [writeScalar, writeDouble, Pen.attach, Pen.ink_put, hink, hmark]
      simp

end LinePrompt.Yaml.Printer
