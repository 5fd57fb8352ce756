/-
The runs that a text is written in.

Runs put together are the text (`chars_split`). Between apostrophes each run of blanks or line feeds stands apart, with
a word or nothing behind it (`Spaced`); a bare text is words with blanks between them, none of which a reader could take
for a key or a comment (`Bare`). `spaced_split` and `bare_split` say that the texts chosen for the two forms are so.
-/
import Mathlib.Tactic.Common
import LinePrompt.Yaml.Printer.Document

namespace LinePrompt.Yaml.Printer

namespace Run

/-- the characters of a run -/
def chars : Run → List Char
  | word cs => cs
  | blanks n => List.replicate n ' '
  | breaks n => List.replicate n '\n'

theorem chars_cons (c : Char) (runs : List Run) : (cons c runs).flatMap chars = c :: runs.flatMap chars := by
  unfold cons
  split_ifs with hblank hbreak
  · subst hblank
    split <;> simp [chars, List.replicate_succ]
  · subst hbreak
    split <;> simp [chars, List.replicate_succ]
  · split <;> simp [chars]

/-- runs put together are the text they were split off -/
theorem chars_split (cs : List Char) : (split cs).flatMap chars = cs := by
  induction cs with
  | nil => rfl
  | cons c cs ih => rw [split, List.foldr_cons, chars_cons]; exact congrArg _ ih

/-- a word has characters, none of them a blank or a line feed -/
def IsWord (cs : List Char) : Prop := cs ≠ [] ∧ ∀ c ∈ cs, c ≠ ' ' ∧ c ≠ '\n'

/-- a word comes next, if anything -/
def WordNext (runs : List Run) : Prop := ∀ r ∈ runs.head?, ∃ cs, r = word cs

/-- Words, blanks and line feeds, where none stands next to its kind and blanks never next to line feeds. -/
inductive Spaced : List Run → Prop where
  | nil : Spaced []
  | word {cs : List Char} {runs : List Run} (hword : IsWord cs) (hnext : ∀ r ∈ runs.head?, ∀ cs, r ≠ word cs)
    (h : Spaced runs) : Spaced (word cs :: runs)
  | blanks {n : Nat} {runs : List Run} (hn : 0 < n) (hnext : WordNext runs) (h : Spaced runs) :
    Spaced (blanks n :: runs)
  | breaks {n : Nat} {runs : List Run} (hn : 0 < n) (hnext : WordNext runs) (h : Spaced runs) :
    Spaced (breaks n :: runs)

end Run

/-! ## Between apostrophes -/

theorem blankAtBreak_tail {c : Char} {cs : List Char} (h : blankAtBreak (c :: cs) = false) :
    blankAtBreak cs = false := by
  unfold blankAtBreak at h
  split at h
  · cases h
  · cases h
  · rename_i heq
    cases heq
    exact h
  · rename_i heq
    cases heq

theorem split_cons (c : Char) (cs : List Char) : Run.split (c :: cs) = Run.cons c (Run.split cs) := rfl

/-- a text without blanks next to line feeds splits into runs that stand apart -/
theorem spaced_split {cs : List Char} (h : blankAtBreak cs = false) : Run.Spaced (Run.split cs) := by
  induction cs with
  | nil => exact .nil
  | cons c cs ih =>
    have hs := ih (blankAtBreak_tail h)
    have hchars := Run.chars_split cs
    rw [split_cons]
    unfold Run.cons
    split_ifs with hblank hbreak
    · subst hblank
      -- a blank joins the blanks in front of it, or starts a run in front of a word
      rcases hr : Run.split cs with _ | ⟨r, runs⟩
      · exact .blanks (by decide) (by simp [Run.WordNext]) .nil
      · rw [hr] at hs hchars
        cases hs with
        | word hword hnext hrest => exact .blanks (by decide) (by simp [Run.WordNext]) (.word hword hnext hrest)
        | blanks hn hnext hrest => exact .blanks (Nat.succ_pos _) hnext hrest
        | @breaks n _ hn hnext hrest =>
          obtain ⟨m, rfl⟩ := Nat.exists_eq_succ_of_ne_zero (Nat.ne_of_gt hn)
          rw [← hchars] at h
          simp [Run.chars, List.replicate_succ, blankAtBreak] at h
    · subst hbreak
      rcases hr : Run.split cs with _ | ⟨r, runs⟩
      · exact .breaks (by decide) (by simp [Run.WordNext]) .nil
      · rw [hr] at hs hchars
        cases hs with
        | word hword hnext hrest => exact .breaks (by decide) (by simp [Run.WordNext]) (.word hword hnext hrest)
        | @blanks n _ hn hnext hrest =>
          obtain ⟨m, rfl⟩ := Nat.exists_eq_succ_of_ne_zero (Nat.ne_of_gt hn)
          rw [← hchars] at h
          simp [Run.chars, List.replicate_succ, blankAtBreak] at h
        | breaks hn hnext hrest => exact .breaks (Nat.succ_pos _) hnext hrest
    · rcases hr : Run.split cs with _ | ⟨r, runs⟩
      · exact .word ⟨by simp, by simp [hblank, hbreak]⟩ (by simp) .nil
      · rw [hr] at hs
        cases hs with
        | word hword hnext hrest =>
          refine .word ⟨by simp, ?_⟩ hnext hrest
          intro x hx
          rcases List.mem_cons.1 hx with rfl | hx
          · exact ⟨hblank, hbreak⟩
          · exact hword.2 x hx
        | blanks hn hnext hrest =>
          exact .word ⟨by simp, by simp [hblank, hbreak]⟩ (by simp) (.blanks hn hnext hrest)
        | breaks hn hnext hrest =>
          exact .word ⟨by simp, by simp [hblank, hbreak]⟩ (by simp) (.breaks hn hnext hrest)

/-! ## Bare -/

/-- A word of a bare text: printable, no start of a comment, and no colon at its end. -/
structure IsBareWord (cs : List Char) : Prop where
  nonempty : cs ≠ []
  printable : ∀ c ∈ cs, isPlainAscii c = true ∧ c ≠ ' '
  noComment : cs.head? ≠ some '#'
  noColon : cs.getLast? ≠ some ':'

/-- bare words with blanks between them -/
def Bare : List Run → Prop
  | [.word cs] => IsBareWord cs
  | .word cs :: .blanks n :: runs => IsBareWord cs ∧ 0 < n ∧ Bare runs
  | _ => False

theorem holdsMark_tail {c : Char} {cs : List Char} (h : holdsMark (c :: cs) = false) : holdsMark cs = false := by
  unfold holdsMark at h
  split at h
  · rename_i heq
    cases heq
    exact (Bool.or_eq_false_iff.1 h).2
  · cases h
  · rename_i heq
    cases heq
    exact h
  · rename_i heq
    cases heq

theorem holdsMark_append {cs ds : List Char} (h : holdsMark (cs ++ ds) = false) : holdsMark ds = false := by
  induction cs with
  | nil => exact h
  | cons c cs ih => exact ih (holdsMark_tail h)

/-- no colon stands in front of a blank or of the end -/
theorem getLast?_of_holdsMark {cs : List Char} (ds : List Char) (hd : blankOrEnd ds = true)
    (h : holdsMark (cs ++ ds) = false) : cs.getLast? ≠ some ':' := by
  intro hlast
  obtain ⟨front, rfl⟩ := List.getLast?_eq_some_iff.1 hlast
  rw [List.append_assoc] at h
  have hcolon := holdsMark_append h
  simp [holdsMark, hd] at hcolon

/-- no comment starts behind a blank -/
theorem head?_of_holdsMark {cs : List Char} (h : holdsMark (' ' :: cs) = false) : cs.head? ≠ some '#' := by
  intro hhead
  obtain ⟨rest, rfl⟩ := List.head?_eq_some_iff.1 hhead
  simp [holdsMark] at h

theorem blankOrEnd_chars {runs : List Run} (hs : Run.Spaced runs) (hnext : ∀ r ∈ runs.head?, ∀ cs, r ≠ .word cs)
    (hprintable : ∀ c ∈ runs.flatMap Run.chars, isPlainAscii c = true) :
    blankOrEnd (runs.flatMap Run.chars) = true := by
  cases hs with
  | nil => rfl
  | word _ _ _ => exact absurd rfl (hnext _ rfl _)
  | @blanks n _ hn _ _ =>
    obtain ⟨m, rfl⟩ := Nat.exists_eq_succ_of_ne_zero (Nat.ne_of_gt hn)
    rfl
  | @breaks n _ hn _ _ =>
    obtain ⟨m, rfl⟩ := Nat.exists_eq_succ_of_ne_zero (Nat.ne_of_gt hn)
    exact absurd (hprintable '\n' (by simp [Run.chars, List.replicate_succ])) (by decide)

/-- runs of printable characters that hold no mark are bare words, if a word stands at each end -/
theorem bare_of_spaced {runs : List Run} (hs : Run.Spaced runs) (hnext : runs ≠ [] ∧ Run.WordNext runs)
    (hprintable : ∀ c ∈ runs.flatMap Run.chars, isPlainAscii c = true)
    (hmark : holdsMark (runs.flatMap Run.chars) = false) (hcomment : (runs.flatMap Run.chars).head? ≠ some '#')
    (hlast : (runs.flatMap Run.chars).getLast? ≠ some ' ') : Bare runs := by
  induction runs using Bare.induct with
  | case1 cs =>
    cases hs with
    | word hword _ _ =>
      simp only [List.flatMap_cons, List.flatMap_nil, Run.chars, List.append_nil] at hprintable hmark hcomment
      refine ⟨hword.1, fun c hc => ⟨hprintable c hc, (hword.2 c hc).1⟩, hcomment, ?_⟩
      exact getLast?_of_holdsMark [] rfl (by simpa using hmark)
  | case2 cs n runs ih =>
    cases hs with
    | word hword _ hrest =>
      have hblank : blankOrEnd ((Run.blanks n :: runs).flatMap Run.chars) = true :=
        blankOrEnd_chars hrest (by simp) fun c hc => hprintable c (by
          rw [List.flatMap_cons]
          exact List.mem_append_right _ hc)
      cases hrest with
      | blanks hn hnext' hrest =>
        rw [List.flatMap_cons] at hmark hprintable hcomment hlast
        obtain ⟨m, rfl⟩ := Nat.exists_eq_succ_of_ne_zero (Nat.ne_of_gt hn)
        have hrestChars : (Run.blanks m.succ :: runs).flatMap Run.chars =
            List.replicate m ' ' ++ ' ' :: runs.flatMap Run.chars := by
          simp [Run.chars, List.replicate_succ']
        have hmarkRest := holdsMark_append hmark
        rw [hrestChars] at hmarkRest
        have hmarkBlank := holdsMark_append hmarkRest
        have hlast' : (runs.flatMap Run.chars).getLast? ≠ some ' ' ∧ runs ≠ [] := by
          rw [hrestChars] at hlast
          constructor
          · intro hl
            refine hlast ?_
            simp [List.getLast?_append, List.getLast?_cons, hl]
          · rintro rfl
            simp at hlast
        refine ⟨⟨hword.1, fun c hc => ⟨hprintable c (List.mem_append_left _ hc), (hword.2 c hc).1⟩, ?_, ?_⟩, hn, ?_⟩
        · intro hc
          refine hcomment ?_
          rw [List.head?_append]
          simp [Run.chars, hc]
        · exact getLast?_of_holdsMark _ hblank hmark
        · refine ih hrest ⟨hlast'.2, hnext'⟩ ?_ (holdsMark_tail hmarkBlank) (head?_of_holdsMark hmarkBlank) hlast'.1
          intro c hc
          refine hprintable c (List.mem_append_right _ ?_)
          rw [hrestChars]
          exact List.mem_append_right _ (List.mem_cons_of_mem _ hc)
  | case3 runs hsingle hmore =>
    exfalso
    cases hs with
    | nil => exact hnext.1 rfl
    | @word cs runs hword hother hrest =>
      cases hrest with
      | nil => exact hsingle cs rfl
      | word _ _ _ => exact hother _ rfl _ rfl
      | @blanks n rest _ _ _ => exact hmore cs n rest rfl
      | @breaks n rest hn _ _ =>
        obtain ⟨m, rfl⟩ := Nat.exists_eq_succ_of_ne_zero (Nat.ne_of_gt hn)
        exact absurd (hprintable '\n' (by simp [Run.chars, List.replicate_succ])) (by decide)
    | blanks _ _ _ =>
      obtain ⟨cs, hcs⟩ := hnext.2 _ rfl
      cases hcs
    | breaks _ _ _ =>
      obtain ⟨cs, hcs⟩ := hnext.2 _ rfl
      cases hcs

theorem blankAtBreak_of_printable {cs : List Char} (h : ∀ c ∈ cs, isPlainAscii c = true) : blankAtBreak cs = false := by
  induction cs with
  | nil => rfl
  | cons c cs ih =>
    unfold blankAtBreak
    split
    · rename_i rest heq
      exact absurd (h '\n' (heq ▸ by simp)) (by decide)
    · rename_i rest heq
      exact absurd (h '\n' (heq ▸ by simp)) (by decide)
    · rename_i heq
      cases heq
      exact ih fun c hc => h c (List.mem_cons_of_mem _ hc)
    · rfl

/-- a text that can stand bare splits into bare words -/
theorem bare_split {cs : List Char} (h : canBePlain cs = true) (hne : cs ≠ []) : Bare (Run.split cs) := by
  unfold canBePlain at h
  simp only [Bool.and_eq_true, bne_iff_ne, ne_eq, Bool.not_eq_true', List.all_eq_true] at h
  obtain ⟨⟨⟨⟨hprintable, hhead⟩, hlast⟩, hstart⟩, htail⟩ := h
  obtain ⟨c, rest, rfl⟩ := List.exists_cons_of_ne_nil hne
  have hs := spaced_split (blankAtBreak_of_printable hprintable)
  have hchars := Run.chars_split (c :: rest)
  have hc : c ≠ ' ' := by
    rintro rfl
    exact hhead rfl
  -- the first character is no mark, so that the whole text holds none
  have hcolon : ¬ (c = ':' ∧ blankOrEnd rest = true) := by
    rintro ⟨rfl, hb⟩
    simp [startsAsMark, hb] at hstart
  have hhash : c ≠ '#' := by
    rintro rfl
    simp [startsAsMark, startMarks] at hstart
  have hmark : holdsMark (c :: rest) = false := by
    unfold holdsMark
    split
    · rename_i heq
      cases heq
      simp only [true_and, Bool.not_eq_true] at hcolon
      simpa [hcolon] using htail
    · rename_i heq
      cases heq
      exact absurd rfl hc
    · rename_i heq
      cases heq
      exact htail
    · rfl
  have hword : ∀ r ∈ (Run.split (c :: rest)).head?, ∃ cs, r = .word cs := by
    intro r hr
    have hfirst : c ≠ ' ' ∧ c ≠ '\n' :=
      ⟨hc, fun hbreak => absurd (hprintable c List.mem_cons_self) (by rw [hbreak]; decide)⟩
    rw [split_cons] at hr
    unfold Run.cons at hr
    rw [if_neg hfirst.1, if_neg hfirst.2] at hr
    split at hr <;> exact ⟨_, (Option.mem_some.1 hr).symm⟩
  refine bare_of_spaced hs ⟨?_, hword⟩ ?_ ?_ ?_ ?_
  · intro hnil
    rw [hnil] at hchars
    cases hchars
  · rwa [hchars]
  · rwa [hchars]
  · rw [hchars]
    simpa using hhash
  · rwa [hchars]

end LinePrompt.Yaml.Printer
