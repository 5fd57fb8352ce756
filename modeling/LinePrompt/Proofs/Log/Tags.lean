/-
Tags of log messages.

A tag is printable whatever the title is (`printable_tag`), and a line ends at no printable character. Formatting adds
blanks and quoted texts only, so what is said on one line stays on one line (`unbroken_format`): no title breaks the
line of a record, and no title can pass for another one or for a part of the message.

`tags_keep_lines` puts that together with what becomes of a record in a log with one file: its line is the last one of
the file, unless something is in the way of the file or the record has no message. A title keeps a record from having
one by its percent signs alone (`unwritten_record`).
-/
import LinePrompt.Proofs.Log.Entries
import LinePrompt.Proofs.Log.PercentSigns

namespace LinePrompt.Text

variable {c mark : Char} {s : List Char}

/-! ## Characters -/

/-- the characters at which a line ends: line feed, vertical tab, form feed, carriage return, the separators of files,
groups and records, next line, and the separators of lines and paragraphs -/
def lineBreaks : List Nat := [10, 11, 12, 13, 28, 29, 30, 0x85, 0x2028, 0x2029]

def breaksLine (c : Char) : Bool := lineBreaks.contains c.toNat

/-- nothing in the text ends a line -/
def Unbroken (s : List Char) : Prop := ∀ c ∈ s, breaksLine c = false

/-- that nothing ends a line can be told by looking at every character -/
theorem unbroken_iff : (s.all fun c => !breaksLine c) = true ↔ Unbroken s := by
  simp only [List.all_eq_true, Bool.not_eq_true', Unbroken]

instance (s : List Char) : Decidable (Unbroken s) := decidable_of_iff _ unbroken_iff

theorem not_breaksLine (h : isPrintable c = true) : breaksLine c = false := by
  have hbreaks : ∀ n ∈ lineBreaks, isPrintable (Char.ofNat n) = false := by decide +kernel
  by_contra hbreak
  rw [Bool.not_eq_false, breaksLine, List.contains_iff_mem] at hbreak
  have hnot := hbreaks _ hbreak
  rw [Char.ofNat_toNat, h] at hnot
  cases hnot

theorem unbroken_of_isPrintable (h : ∀ c ∈ s, isPrintable c = true) : Unbroken s :=
  fun c hc => not_breaksLine (h c hc)

theorem Unbroken.append {t : List Char} (hs : Unbroken s) (ht : Unbroken t) : Unbroken (s ++ t) := by
  intro c hc
  rcases List.mem_append.1 hc with hc | hc
  · exact hs c hc
  · exact ht c hc

/-! ## Quoted texts -/

theorem isPrintable_hexDigits (width n : Nat) : ∀ c ∈ hexDigits width n, isPrintable c = true := by
  have hdigit : ∀ m : Fin 16, isPrintable (hexDigit m.val) = true := by decide
  intro c hc
  obtain ⟨m, rfl⟩ := mem_hexDigits hc
  exact hdigit m

theorem isPrintable_codeEscape (c : Char) : ∀ x ∈ codeEscape c, isPrintable x = true := by
  have hfront : ∀ letter : Char, isPrintable letter = true → ∀ width,
      ∀ x ∈ ['\\', letter] ++ hexDigits width c.toNat, isPrintable x = true := by
    intro letter hletter width x hx
    simp only [List.cons_append, List.nil_append, List.mem_cons] at hx
    rcases hx with rfl | rfl | hx
    · rfl
    · exact hletter
    · exact isPrintable_hexDigits _ _ x hx
  unfold codeEscape
  dsimp only
  split_ifs
  · exact hfront 'x' rfl 2
  · exact hfront 'u' rfl 4
  · exact hfront 'U' rfl 8

theorem isPrintable_quoteChar (hmark : mark = '"' ∨ mark = '\x27') (c : Char) :
    ∀ x ∈ quoteChar mark c, isPrintable x = true := by
  have hletter : ∀ letter : Char, isPrintable letter = true → ∀ x ∈ ['\\', letter], isPrintable x = true := by
    intro letter hletter x hx
    simp only [List.mem_cons, List.not_mem_nil, or_false] at hx
    rcases hx with rfl | rfl
    · rfl
    · exact hletter
  unfold quoteChar
  split_ifs with hescaped htab hfeed hreturn hprintable
  · refine hletter c ?_
    rcases hescaped with rfl | rfl
    · rcases hmark with rfl | rfl <;> rfl
    · rfl
  · exact hletter 't' rfl
  · exact hletter 'n' rfl
  · exact hletter 'r' rfl
  · simpa using hprintable
  · exact isPrintable_codeEscape c

/-- **A quoted text is printable**, whatever the text is. -/
theorem isPrintable_quoteChars (s : List Char) : ∀ c ∈ quoteChars s, isPrintable c = true := by
  have hmark := quoteMark_eq s
  have hprintable : isPrintable (quoteMark s) = true := by rcases hmark with hm | hm <;> rw [hm] <;> rfl
  intro c hc
  simp only [quoteChars, List.mem_cons, List.mem_append, List.mem_flatMap, List.not_mem_nil, or_false] at hc
  rcases hc with rfl | ⟨x, -, hx⟩ | rfl
  · exact hprintable
  · exact isPrintable_quoteChar hmark x c hx
  · exact hprintable

/-! ## Formatted texts -/

namespace Percent

variable {text out : List Char} {args : List String} {bound : Nat} {ps : List Piece}

theorem unbroken_place (l : Layout) (hs : Unbroken s) : Unbroken (l.place s) := by
  have hfill (n : Nat) : Unbroken (List.replicate n ' ') := by
    intro c hc
    rw [List.eq_of_mem_replicate hc]
    rfl
  have hlaid (l : Layout) (hl : l.precision = none) {s : List Char} (hs : Unbroken s) : Unbroken (l.place s) := by
    unfold Layout.place
    dsimp only
    rw [hl]
    split_ifs
    · exact hs.append (hfill _)
    · exact (hfill _).append hs
  obtain ⟨left, width, precision⟩ := l
  cases precision with
  | none => exact hlaid _ rfl hs
  | some p => exact hlaid ⟨left, width, none⟩ rfl fun c hc => hs c (List.mem_of_mem_take hc)

theorem unbroken_present (letter : Char) {a : String} (ha : Unbroken a.toList) : Unbroken (present letter a) := by
  unfold present
  split_ifs
  · exact ha
  · exact unbroken_of_isPrintable (isPrintable_quoteChars _)

theorem unbroken_pieces (h : Made args text ps) (ht : Unbroken text) (ha : ∀ a ∈ args, Unbroken a.toList) :
    ∀ p ∈ ps, Unbroken p.chars := by
  induction h with
  | nil => exact fun p hp => absurd hp List.not_mem_nil
  | plain hc made ih =>
    obtain ⟨hc, ht⟩ := List.forall_mem_cons.1 ht
    refine List.forall_mem_cons.2 ⟨?_, ih ht ha⟩
    rw [Piece.chars_plain]
    exact List.forall_mem_singleton.2 hc
  | percent made ih =>
    obtain ⟨hpercent, ht⟩ := List.forall_mem_cons.1 ht
    refine List.forall_mem_cons.2 ⟨?_, ih (List.forall_mem_cons.1 ht).2 ha⟩
    rw [Piece.chars_plain]
    exact List.forall_mem_singleton.2 hpercent
  | @argument a l letter args cs rest ps takes made ih =>
    obtain ⟨ha, hargs⟩ := List.forall_mem_cons.1 ha
    obtain ⟨spec, rfl, -⟩ := takes.spec
    have hrest : Unbroken rest := fun c hc => ht c (by simp [hc])
    exact List.forall_mem_cons.2 ⟨unbroken_place l (unbroken_present letter ha), ih hrest hargs⟩

/-- formatting breaks no line -/
theorem unbroken_format (h : format text args = .ok out) (ht : Unbroken text) (ha : ∀ a ∈ args, Unbroken a.toList) :
    Unbroken out := by
  obtain ⟨ps, hps, rfl⟩ := pieces_of_format h
  intro c hc
  obtain ⟨p, hp, hcp⟩ := List.mem_flatMap.1 hc
  exact unbroken_pieces (made_of_pieces hps) ht ha p hp c hcp

end Percent

end LinePrompt.Text

namespace LinePrompt.Log

open LinePrompt.Files LinePrompt.Prompt LinePrompt.Text

variable {title message text : String} {args : List String} {severity : Severity} {logger : String} {path : Path}
  {log : Logbook} {s : Surroundings} {r : Record}

/-! ## Messages -/

/-- a tag is printable, whatever the title is -/
theorem printable_tag (title : String) : ∀ c ∈ (tag title).toList, isPrintable c = true := by
  intro c hc
  simp only [tag, quoted, String.toList_append, String.toList_ofList, List.mem_append] at hc
  rcases hc with (hc | hc) | hc
  · exact List.all_eq_true.1 (by decide : "prompt ".toList.all isPrintable = true) c hc
  · exact isPrintable_quoteChars _ c hc
  · exact List.all_eq_true.1 (by decide : ": ".toList.all isPrintable = true) c hc

theorem unbroken_tagged (hm : Unbroken message.toList) : Unbroken (tagged title message).toList := by
  rw [tagged, String.toList_append]
  exact (unbroken_of_isPrintable (printable_tag title)).append hm

theorem unbroken_message (hm : Unbroken message.toList) (ha : ∀ a ∈ args, Unbroken a.toList)
    (h : (Record.about severity logger title message args).message = .ok text) : Unbroken text.toList := by
  rw [message_about] at h
  cases args with
  | nil =>
    obtain rfl := Except.ok.inj h
    exact unbroken_tagged hm
  | cons a args =>
    rw [finish_of_args (List.cons_ne_nil a args)] at h
    rcases hformat : Percent.format (tagged title message).toList (a :: args) with f | out
    · simp [hformat, Except.map] at h
    · obtain rfl : String.ofList out = text := by simpa [hformat, Except.map] using h
      rw [String.toList_ofList]
      exact Percent.unbroken_format hformat (unbroken_tagged hm) ha

/-! ## Lines -/

/-- a text that is one line: a line feed ends it, and nothing before does -/
def IsLine (line : String) : Prop := ∃ body, line = body ++ "\n" ∧ Unbroken body.toList

theorem unbroken_name (severity : Severity) : Unbroken severity.name.toList := by
  cases severity <;> decide

theorem isLine_lineOf {clock : String} (hclock : Unbroken clock.toList) (hlogger : Unbroken r.logger.toList)
    (htext : Unbroken text.toList) : IsLine (lineOf clock r text) := by
  refine ⟨clock ++ " [" ++ r.severity.name ++ "] " ++ r.logger ++ ": " ++ text, rfl, ?_⟩
  simp only [String.toList_append]
  have hopen : Unbroken " [".toList := by decide
  have hshut : Unbroken "] ".toList := by decide
  have hcolon : Unbroken ": ".toList := by decide
  exact (((((hclock.append hopen).append (unbroken_name _)).append hshut).append hlogger).append hcolon).append htext

/-- what a log with one file keeps of a record -/
structure Kept (path : Path) (log : Logbook) (s : Surroundings) (r : Record) : Prop where
  /-- a message makes one line, which is entered in the file -/
  line : ∀ text, r.message = .ok text → IsLine (lineOf s.clock r text) ∧
    ∃ number, Entered path (lineOf s.clock r text) s number (log.add r s).2
  /-- without a message there is no line -/
  nothing : ∀ flaw, r.message = .error flaw → (log.add r s).2.surroundings = s

theorem surroundings_unwritten {flaw : Percent.Flaw} (h : KeptIn path log s)
    (hrank : log.effective ≤ r.severity.rank) (hmessage : r.message = .error flaw) :
    (log.add r s).2.surroundings = s := by
  obtain ⟨number, hlog, -⟩ := h
  rw [add_eq hlog hrank]
  simp only [Handler.handle, hmessage]

/-- **Tags are unambiguous, and keep to their line.** A title and a message are known by the tagged message. A tag is
printable. A record that is said on one line has one line of the file if it has a message, and it has the message that
is meant if it has no arguments or the title no percent sign. -/
theorem tags_keep_lines (h : KeptIn path log s) (hclock : Unbroken s.clock.toList) :
    (∀ title title' message message', tagged title message = tagged title' message' →
      title = title' ∧ message = message') ∧
    (∀ title, ∀ c ∈ (tag title).toList, isPrintable c = true) ∧
    ∀ (severity : Severity) (logger title message : String) (args : List String), Unbroken logger.toList →
      Unbroken message.toList → (∀ a ∈ args, Unbroken a.toList) → log.effective ≤ severity.rank →
        Kept path log s (.about severity logger title message args) ∧
        (args = [] ∨ '%' ∉ title.toList →
          (Record.about severity logger title message args).message = (finish message args).map (tagged title)) := by
  refine ⟨fun _ _ _ _ => tagged_inj.1, printable_tag, ?_⟩
  intro severity logger title message args hlogger hmessage hargs hrank
  refine ⟨⟨fun text htext => ⟨?_, entered_add h hrank htext⟩, fun flaw hflaw => ?_⟩, finish_tagged⟩
  · exact isLine_lineOf hclock hlogger (unbroken_message hmessage hargs htext)
  · exact surroundings_unwritten h hrank hflaw

/-- a log with one file that has not been opened yet, where all is heard -/
def unopened : Logbook := ⟨10, [.file ⟨.root, ["log"]⟩ none]⟩

/-- a tree without files -/
def noFiles : Surroundings := { Surroundings.bare with clock := "2024-02-29 23:59:59" }

theorem keptIn_unopened : KeptIn ⟨.root, ["log"]⟩ unopened noFiles := ⟨none, rfl, attached_none _ _⟩

/-- a title that holds a line feed -/
theorem tags_keep_lines_feed :
    Kept ⟨.root, ["log"]⟩ unopened noFiles (.about .debug promptLogger "a\nb" "closed via %s" ["cancel"]) ∧
      (Record.about .debug promptLogger "a\nb" "closed via %s" ["cancel"]).message =
        .ok "prompt 'a\\nb': closed via cancel" := by
  obtain ⟨-, -, hall⟩ := tags_keep_lines keptIn_unopened (by decide)
  obtain ⟨hkept, hmeant⟩ := hall .debug promptLogger "a\nb" "closed via %s" ["cancel"] (by decide) (by decide)
    (by decide) (by decide)
  refine ⟨hkept, (hmeant (Or.inr (by decide))).trans ?_⟩
  cbv

/-- A title can keep a record out of the file: this one is said on one line and has none. -/
theorem unwritten_record :
    Unbroken "closed via %s".toList ∧ Unbroken Outcome.primary.name.toList ∧
      unopened.effective ≤ Severity.debug.rank ∧
      (unopened.add (.about .debug promptLogger "100%" "closed via %s" [Outcome.primary.name]) noFiles).2.surroundings =
        noFiles := by
  have hflaw : (Record.about .debug promptLogger "100%" "closed via %s" [Outcome.primary.name]).message =
      .error .malformed := rfl
  have hheard : unopened.effective ≤ Severity.debug.rank := by decide
  exact ⟨by decide, by decide, hheard, surroundings_unwritten keptIn_unopened hheard hflaw⟩

end LinePrompt.Log
