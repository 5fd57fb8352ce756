/-
Reading back what stands bare.

A bare scalar ends with the line behind which a new entry starts, at the column of the block. Up to there the words and
the blanks between them are read back: `plainWords_bare`.
-/
import LinePrompt.Proofs.Yaml.Quoted
import LinePrompt.Yaml.Token.Plain

namespace LinePrompt.Yaml

/-- What can stand at the start of a line behind an entry: the end, or a character that neither goes on with the entry
nor ends the document. -/
structure LineStart (r : List Char) : Prop where
  notWhite : NotWhite r
  noComment : r.head? ≠ some '#'
  noMark : ∀ ch ∈ r.head?, ch ≠ '-' ∧ ch ≠ '.'

section Gaps

variable {c : Cursor} {r cs : List Char}

/-- a word is read up to the blank or break behind it -/
theorem plainRun_word (hcs : ∀ ch ∈ cs, isWhite ch = false) (hcolon : cs.getLast? ≠ some ':')
    (hr : ∀ ch ∈ r.head?, isWhite ch = true) : plainRun false (cs ++ r) = cs := by
  induction cs with
  | nil =>
    cases r with
    | nil => rfl
    | cons ch r => simp [plainRun, hr ch rfl]
  | cons ch cs ih =>
    have hch := hcs ch List.mem_cons_self
    have hends : (ch = ':' && colonEnds false (cs ++ r).head?) = false := by
      by_cases hcol : ch = ':'
      · -- a colon is not the last character, so another one that is not white follows it
        subst hcol
        rcases cs with _ | ⟨x, xs⟩
        · exact absurd rfl hcolon
        · simp [colonEnds, endOr, hcs x (by simp)]
      · simp [hcol]
    have hlater : plainRun false (cs ++ r) = cs := by
      refine ih (fun x hx => hcs x (List.mem_cons_of_mem _ hx)) ?_
      intro hlast
      refine hcolon ?_
      rw [List.getLast?_cons, hlast]
      rfl
    simp only [List.cons_append, plainRun, hch, hends, Bool.false_and, Bool.or_self, Bool.false_eq_true, if_false,
      hlater]

/-- blanks between two words of a line are kept -/
theorem plainGap_kept (n : Nat) (h : c.rest = List.replicate n ' ' ++ r) (hr : NotWhite r) :
    plainGap c = (⟨List.replicate n ' ', false⟩, c.skip n) := by
  have hrun : (c.run fun ch => ch = ' ') = List.replicate n ' ' :=
    Cursor.run_eq _ h (by simp) fun ch hch => (hr.noBlank ch hch).1
  have hrest : (c.skip n).rest = r := by
    have hskip := Cursor.rest_skip _ h
    rwa [List.length_replicate] at hskip
  have hline : (c.skip n).lineBreak? = none := Cursor.lineBreak?_eq_none (by rw [hrest]; exact hr.noBreak)
  simp only [plainGap, hrun, List.length_replicate, hline]

/-- a line break, with the blanks at the start of the next line -/
theorem plainGap_break (n : Nat) (h : c.rest = '\n' :: (List.replicate n ' ' ++ r)) (hr : NotWhite r)
    (hmark : c.next.atDocumentMark = false) : plainGap c = (⟨[' '], true⟩, c.skip (n + 1)) := by
  have hblanks : (c.run fun ch => ch = ' ') = [] := Cursor.run_eq [] h (by simp) (by simp)
  have hnext := Cursor.rest_next h
  have hrun : (c.next.run fun ch => ch = ' ') = List.replicate n ' ' :=
    Cursor.run_eq _ hnext (by simp) fun ch hch => (hr.noBlank ch hch).1
  have hrest : (c.next.skip n).rest = r := by
    have hskip := Cursor.rest_skip _ hnext
    rwa [List.length_replicate] at hskip
  have hline : (c.next.skip n).lineBreak? = none := Cursor.lineBreak?_eq_none (by rw [hrest]; exact hr.noBreak)
  simp only [plainGap, hblanks, List.length_nil, Cursor.skip, Cursor.lineBreak?_feed h, plainBreaks, hmark,
    Cursor.skipRun, hrun, List.length_replicate, hline, Bool.false_eq_true, if_false]
  rfl

end Gaps

/-! ## Columns -/

namespace Cursor

variable {c : Cursor} {r : List Char} {ch : Char}

theorem next_feed (h : c.rest = '\n' :: r) : c.next = ⟨r, c.index + 1, c.line + 1, 0⟩ := by
  unfold next
  rw [h]
  rfl

/-- past a printable character -/
theorem next_printable (h : c.rest = ch :: r) (hch : Printer.isPlainAscii ch = true) :
    c.next = ⟨r, c.index + 1, c.line, c.column + 1⟩ := by
  have hbreak : isBreak ch = false := by
    by_cases hblank : ch = ' '
    · subst hblank
      decide
    · have hwhite := isWhite_of_printable hch hblank
      simp only [isWhite, Bool.or_eq_false_iff] at hwhite
      exact hwhite.2
  have hmark : ch ≠ '\ufeff' := by
    rintro rfl
    exact absurd hch (by decide)
  unfold next
  rw [h]
  simp [hbreak, hmark]

/-- past printable characters -/
theorem skip_printable (cs : List Char) (h : c.rest = cs ++ r) (hcs : ∀ ch ∈ cs, Printer.isPlainAscii ch = true) :
    c.skip cs.length = ⟨r, c.index + cs.length, c.line, c.column + cs.length⟩ := by
  induction cs generalizing c with
  | nil =>
    obtain rfl : c.rest = r := h
    rfl
  | cons ch cs ih =>
    have hnext := next_printable h (hcs ch List.mem_cons_self)
    have hlater := ih (c := c.next) (by rw [hnext]; rfl) fun x hx => hcs x (List.mem_cons_of_mem _ hx)
    rw [List.length_cons, skip, hlater, hnext]
    simp only [Cursor.mk.injEq, true_and]
    omega

end Cursor

namespace Printer

/-! ## Words -/

theorem IsBareWord.notWhite {cs : List Char} (h : IsBareWord cs) : ∀ ch ∈ cs, isWhite ch = false :=
  fun ch hch => isWhite_of_printable (h.printable ch hch).1 (h.printable ch hch).2

theorem head?_append_of_ne_nil {α : Type} {cs r : List α} (h : cs ≠ []) : (cs ++ r).head? = cs.head? := by
  obtain ⟨x, xs, rfl⟩ := List.exists_cons_of_ne_nil h
  rfl

/-- bare words start with a word -/
theorem head?_bare {runs : List Run} {out : List Char} (hb : Bare runs) (h : Folded id runs out) (r : List Char) :
    NotWhite (out ++ r) ∧ (out ++ r).head? ≠ some '#' := by
  have hfirst : ∀ {cs later : List Char}, IsBareWord cs →
      NotWhite (cs ++ later) ∧ (cs ++ later).head? ≠ some '#' := by
    intro cs later hw
    constructor
    · intro ch hch
      rw [head?_append_of_ne_nil hw.nonempty] at hch
      exact hw.notWhite ch (List.mem_of_mem_head? hch)
    · rw [head?_append_of_ne_nil hw.nonempty]
      exact hw.noComment
  cases h with
  | nil => exact absurd hb (by simp [Bare])
  | @word cs runs out h =>
    rw [List.append_assoc]
    rcases runs with _ | ⟨q, runs⟩
    · exact hfirst hb
    · cases q with
      | blanks n => exact hfirst hb.1
      | word ds => exact absurd hb (by simp [Bare])
      | breaks n => exact absurd hb (by simp [Bare])
  | blanks n h => exact absurd hb (by simp [Bare])
  | fold h => exact absurd hb (by simp [Bare])
  | breaks n h => exact absurd hb (by simp [Bare])

/-- one word of a plain scalar, and what the reader does behind it -/
theorem plainWords_word {c : Cursor} {cs r : List Char} {bound : Nat} {gap : PlainGap} (hw : IsBareWord cs)
    (h : c.rest = cs ++ r) (hr : ∀ ch ∈ r.head?, isWhite ch = true) :
    plainWords false 0 (bound + 1) gap c =
      let (after, d) := plainGap (c.skip cs.length)
      if after.chars.isEmpty || d.peek = some '#' || (!false && (d.column : Int) < 0 + 1) then
        (gap.chars ++ cs, after.broken, d)
      else
        let (text, broken, e) := plainWords false 0 bound after d
        (gap.chars ++ cs ++ text, broken, e) := by
  have hword : plainRun false c.rest = cs := by
    rw [h]
    exact plainRun_word hw.notWhite hw.noColon hr
  have hgoes : ¬ (c.peek = some '#' ∨ cs.isEmpty = true) := by
    rintro (hc | hc)
    · rw [Cursor.peek, h, head?_append_of_ne_nil hw.nonempty] at hc
      exact hw.noComment hc
    · exact hw.nonempty (List.isEmpty_iff.1 hc)
  rw [plainWords]
  simp only [hword, Bool.or_eq_true, decide_eq_true_eq, hgoes, if_false]

/-- bare words are read back up to and with the line break behind them -/
theorem plainWords_bare {runs : List Run} {out r : List Char} (hb : Bare runs) (h : Folded id runs out)
    (hr : LineStart r) {c : Cursor} (hc : c.rest = out ++ '\n' :: r) {bound : Nat} (hbound : c.rest.length ≤ bound)
    (gap : PlainGap) :
    plainWords false 0 bound gap c = (gap.chars ++ runs.flatMap Run.chars, true, c.skip (out.length + 1)) := by
  induction runs using Bare.induct generalizing out c bound gap with
  | case1 cs =>
    cases h with
    | word _ h =>
      cases h with
      | nil =>
        rw [List.append_nil] at hc
        obtain ⟨bound, rfl⟩ : ∃ b, bound = b + 1 := ⟨bound - 1, by rw [hc] at hbound; simp at hbound; omega⟩
        have hrest : (c.skip cs.length).rest = '\n' :: r := Cursor.rest_skip _ hc
        have hnext := Cursor.next_feed hrest
        have hmark : (c.skip cs.length).next.atDocumentMark = false :=
          Cursor.atDocumentMark_eq_false (by rw [hnext]; exact hr.noMark)
        have hgap := plainGap_break 0 hrest hr.notWhite hmark
        rw [plainWords_word hb hc (by simp; decide), hgap]
        simp only [Nat.zero_add]
        have hcolumn : ((c.skip cs.length).skip 1).column = 0 := congrArg Cursor.column hnext
        rw [hcolumn, if_pos (by simp), List.append_nil, List.flatMap_cons, List.flatMap_nil, List.append_nil]
        rw [Cursor.skip_add]
        rfl
  | case2 cs n runs ih =>
    obtain ⟨hw, hn, hb⟩ := hb
    obtain ⟨m, rfl⟩ := Nat.exists_eq_succ_of_ne_zero (Nat.ne_of_gt hn)
    cases h with
    | @word _ _ out h =>
      rw [List.append_assoc] at hc
      obtain ⟨bound, rfl⟩ : ∃ b, bound = b + 1 := ⟨bound - 1, by rw [hc] at hbound; simp at hbound; omega⟩
      have hrest : (c.skip cs.length).rest = out ++ '\n' :: r := Cursor.rest_skip _ hc
      rw [List.length_append, Nat.add_assoc, Cursor.skip_add]
      simp only [id_eq] at hc ⊢
      generalize hd : c.skip cs.length = d at hrest ⊢
      have hshort : d.rest.length ≤ bound := by
        have hpos := List.length_pos_iff.2 hw.nonempty
        rw [hc, List.length_append] at hbound
        rw [hrest]
        omega
      cases h with
      | @blanks _ _ out h =>
        rw [List.append_assoc] at hrest
        obtain ⟨hwhite, hcomment⟩ := head?_bare hb h ('\n' :: r)
        have hgap := plainGap_kept m.succ hrest hwhite
        have hlater : (d.skip m.succ).rest = out ++ '\n' :: r := by
          have hskip := Cursor.rest_skip _ hrest
          rwa [List.length_replicate] at hskip
        have hcolumn : (d.skip m.succ).column = d.column + m.succ := by
          have hskip := Cursor.skip_printable _ hrest (by simp; decide)
          rw [List.length_replicate] at hskip
          rw [hskip]
        have hpeek : (d.skip m.succ).peek ≠ some '#' := by rwa [Cursor.peek, hlater]
        have hread := ih hb h hlater (show _ ≤ bound by rw [hlater]; rw [hrest] at hshort; simp at hshort ⊢; omega)
          ⟨List.replicate m.succ ' ', false⟩
        rw [plainWords_word hw hc (by simp [List.replicate_succ]; decide), hd, hgap]
        simp only
        have hplace : d.skip ((List.replicate m.succ ' ' ++ out).length + 1) =
            (d.skip m.succ).skip (out.length + 1) := by
          rw [← Cursor.skip_add, List.length_append, List.length_replicate, Nat.add_assoc]
        rw [if_neg (by simp [hpeek, hcolumn]; omega), hread, hplace]
        simp [Run.chars]
      | @fold _ out h =>
        obtain ⟨hwhite, hcomment⟩ := head?_bare hb h ('\n' :: r)
        have hnext := Cursor.next_feed hrest
        have hmark : d.next.atDocumentMark = false := Cursor.atDocumentMark_eq_false (by rw [hnext]; simp)
        have hgap := plainGap_break 2 hrest hwhite hmark
        have hskip : d.skip 3 = ⟨out ++ '\n' :: r, d.index + 1 + 2, d.line + 1, 2⟩ := by
          have hblanks := Cursor.skip_printable (c := d.next) (r := out ++ '\n' :: r) [' ', ' ']
            (by rw [hnext]; rfl) (by simp; decide)
          rw [hnext] at hblanks
          simpa [Cursor.skip, hnext] using hblanks
        have hpeek : (d.skip 3).peek ≠ some '#' := by
          rw [Cursor.peek, hskip]
          exact hcomment
        have hread := ih hb h (c := d.skip 3) (by rw [hskip])
          (show _ ≤ bound by rw [hskip]; rw [hrest] at hshort; simp at hshort ⊢; omega) ⟨[' '], true⟩
        rw [plainWords_word hw hc (by simp; decide), hd, hgap]
        simp only
        have hcolumn : (d.skip 3).column = 2 := by rw [hskip]
        have hplace : d.skip (('\n' :: ' ' :: ' ' :: out).length + 1) = (d.skip 3).skip (out.length + 1) := by
          rw [← Cursor.skip_add, Nat.add_comm 3]
          rfl
        rw [if_neg (by simp [hpeek, hcolumn]), hread, hplace]
        simp [Run.chars]
  | case3 runs hsingle hmore => exact absurd hb (by simp [Bare])

end Printer

end LinePrompt.Yaml
