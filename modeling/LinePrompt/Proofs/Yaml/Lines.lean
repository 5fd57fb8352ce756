/-
Mappings of scalars, written and scanned.

A line is an entry with the characters that were written for its value. The pen writes a mapping as such lines
(`exists_lines`); the scanner gives the tokens of the entries back (`scan_lines`), and these are read as a mapping node
with the nodes of keys and values behind it in turn (`graph_lines`).
-/
import LinePrompt.Proofs.Yaml.Scanning
import LinePrompt.Yaml.Document

namespace LinePrompt.Yaml

open Printer

/-- an entry as it is written: its key, the type and the text of its value, and the characters that stand for that -/
structure Line where
  key : List Char
  tag : Tag
  value : List Char
  style : Style
  out : List Char

namespace Line

def text (l : Line) : List Char := l.key ++ ':' :: ' ' :: (l.out ++ ['\n'])

def tokens (l : Line) : List Token :=
  [.key, .scalar (String.ofList l.key) .plain, .value, .scalar (String.ofList l.value) l.style]

/-- the entry, without the way it is written -/
def entry (l : Line) : List Char × Tag × List Char := (l.key, l.tag, l.value)

/-- the characters stand for the value, and its form tells its type -/
structure Sound (l : Line) : Prop where
  name : IsName l.key
  short : l.key.length ≤ 1024
  form : Form l.value l.style l.out
  tells : Composer.scalarTag .none (String.ofList l.value) l.style = l.tag

end Line

/-! ## Writing -/

/-- an entry with a short name for its key and a text or a truth value for its value -/
structure IsEntry (e : List Char × Tag × List Char) : Prop where
  name : IsName e.1
  short : e.1.length ≤ 100
  plain : formFor .text e.1 = .plain
  value : e.2.1 = .text ∨ e.2.1 = .bool ∧ (e.2.2 = "true".toList ∨ e.2.2 = "false".toList)

/-- the blocks of an entry, a key and a value -/
def blocks (e : List Char × Tag × List Char) : List Block := [.scalar none .text e.1, .scalar none e.2.1 e.2.2]

theorem split_name {cs : List Char} (h : IsName cs) : Run.split cs = [.word cs] := by
  obtain ⟨hne, hchars⟩ := h
  induction cs with
  | nil => exact absurd rfl hne
  | cons c cs ih =>
    have hc := hchars c List.mem_cons_self
    have hrest := fun x hx => hchars x (List.mem_cons_of_mem c hx)
    have hblank : c ≠ ' ' := ne_of_name hc (by decide)
    have hbreak : c ≠ '\n' := ne_of_name hc (by decide)
    rw [split_cons]
    rcases cs with _ | ⟨d, cs⟩
    · simp [Run.cons, Run.split, hblank, hbreak]
    · rw [ih (by simp) hrest]
      simp [Run.cons, hblank, hbreak]

theorem isShortKey_name {e : List Char × Tag × List Char} (h : IsEntry e) :
    isShortKey (.scalar none .text e.1) = true := by
  have hbreak : e.1.any isBreak = false := by
    rw [List.any_eq_false]
    intro ch hch
    have hwhite := h.name.isBareWord.notWhite ch hch
    simp only [isWhite, Bool.or_eq_false_iff] at hwhite
    simp [hwhite.2]
  have hshort := h.short
  have htag : (tagName .text).length = 5 := rfl
  simp only [isShortKey, anchorLength, Option.map_none, Option.getD_none, htag, keyLimit, hbreak, Bool.not_false,
    Bool.and_true, Bool.and_eq_true, decide_eq_true_eq, Bool.not_eq_true', List.isEmpty_eq_false_iff]
  exact ⟨by omega, h.name.1⟩

/-- a key stands as it is at the start of a line -/
theorem writeBlock_key {e : List Char × Tag × List Char} (h : IsEntry e) {p : Pen} (hp : p.spaced = true) :
    (writeBlock 0 .shortKey (.scalar none .text e.1) p).ink = e.1.reverse ++ p.ink := by
  have htells : tellsTag .text .plain e.1 = true := by
    have hplain := h.plain
    unfold formFor at hplain
    split_ifs at hplain with hform
    simp only [Bool.and_eq_true] at hform
    simpa [tellsTag] using hform.1
  have hstyle : scalarStyle .text e.1 = .plain := h.plain
  rw [writeBlock, writeAnchor, hstyle]
  simp only [htells, if_true, writeScalar, writePlain, split_name h.name, writeRuns, Pen.attach, Pen.ink_put]
  simp [Pen.mark, Pen.ink_put, hp]

/-- a truth value stands bare -/
theorem writeBlock_bool {value : List Char} (hvalue : value = "true".toList ∨ value = "false".toList) {p : Pen}
    (hp : p.spaced = false) :
    (writeBlock 0 .entry (.scalar none .bool value) p).ink = (' ' :: value).reverse ++ p.ink ∧
      (writeBlock 0 .entry (.scalar none .bool value) p).fresh = false := by
  have hname : IsName value := by rcases hvalue with rfl | rfl <;> decide
  have hform : scalarStyle .bool value = .plain := by rcases hvalue with rfl | rfl <;> decide
  have htells : tellsTag .bool .plain value = true := by rcases hvalue with rfl | rfl <;> decide
  rw [writeBlock, writeAnchor, hform]
  simp only [htells, if_true, writeScalar, writePlain, split_name hname, writeRuns, Pen.attach, Pen.ink_put]
  simp [Pen.mark, Pen.ink_put, hp]

/-- The value of an entry: a blank, and characters that stand for it and tell its type. -/
theorem writeBlock_value {e : List Char × Tag × List Char} (h : IsEntry e) {p : Pen} (hp : p.spaced = false) :
    ∃ style out, Form e.2.2 style out ∧ Composer.scalarTag .none (String.ofList e.2.2) style = e.2.1 ∧
      (writeBlock 0 .entry (.scalar none e.2.1 e.2.2) p).ink = (' ' :: out).reverse ++ p.ink ∧
        (writeBlock 0 .entry (.scalar none e.2.1 e.2.2) p).fresh = false := by
  rcases h.value with htext | ⟨hbool, hvalue⟩
  · rw [htext]
    obtain ⟨style, out, hform, htells, hwritten⟩ := form_writeBlock e.2.2 p hp
    refine ⟨style, out, hform, ?_, hwritten⟩
    by_cases hplain : style = .plain
    · simp [Composer.scalarTag, Props.none, hplain, resolve, htells hplain]
    · simp [Composer.scalarTag, Props.none, hplain]
  · rw [hbool]
    have hname : IsName e.2.2 := by rcases hvalue with hv | hv <;> rw [hv] <;> decide
    have hform : Form e.2.2 .plain e.2.2 := by
      refine .plain ?_ hname.1 ?_
      · rcases hvalue with hv | hv <;> rw [hv] <;> decide
      · have hfolded : Folded id [.word e.2.2] (e.2.2 ++ []) := .word e.2.2 .nil
        rwa [List.append_nil, ← split_name hname] at hfolded
    refine ⟨.plain, e.2.2, hform, ?_, writeBlock_bool hvalue hp⟩
    rcases hvalue with hv | hv <;> rw [hv] <;> rfl

/-- Entries are written as lines. The pen breaks a line before the next is written, so the text of the lines stands
there once it has done so. -/
theorem exists_lines {es : List (List Char × Tag × List Char)} (hes : ∀ e ∈ es, IsEntry e) (p : Pen)
    (hp : (p.indent 0).spaced = true) :
    ∃ ls : List Line, ls.map Line.entry = es ∧ (∀ l ∈ ls, l.Sound) ∧
      ((writeEntries 0 (es.flatMap blocks) p).indent 0).ink = (ls.flatMap Line.text).reverse ++ (p.indent 0).ink := by
  induction es generalizing p with
  | nil => exact ⟨[], rfl, by simp, by simp [writeEntries]⟩
  | cons e es ih =>
    have he := hes e List.mem_cons_self
    have hkey := writeBlock_key he hp
    obtain ⟨style, out, hform, htells, hink, hfresh⟩ :=
      writeBlock_value he (p := (writeBlock 0 .shortKey (.scalar none .text e.1) (p.indent 0)).attach [':']) rfl
    generalize hq : writeBlock 0 .entry (.scalar none e.2.1 e.2.2)
      ((writeBlock 0 .shortKey (.scalar none .text e.1) (p.indent 0)).attach [':']) = q at hink hfresh
    have hindent : q.indent 0 = q.breakLine := by
      simp [Pen.indent, hfresh, Pen.pad, Pen.breakLine]
    obtain ⟨ls, hentries, hsound, hwritten⟩ :=
      ih (fun x hx => hes x (List.mem_cons_of_mem e hx)) q (by rw [hindent]; rfl)
    refine ⟨⟨e.1, e.2.1, e.2.2, style, out⟩ :: ls, ?_, ?_, ?_⟩
    · simp [hentries, Line.entry]
    · intro l hl
      rcases List.mem_cons.1 hl with rfl | hl
      · exact ⟨he.name, Nat.le_trans he.short (by decide), hform, htells⟩
      · exact hsound l hl
    · have hunfold : writeEntries 0 ((e :: es).flatMap blocks) p = writeEntries 0 (es.flatMap blocks) q := by
        rw [List.flatMap_cons, blocks, List.cons_append, List.cons_append, List.nil_append, writeEntries]
        simp only [isShortKey_name he, if_true]
        rw [hq]
      rw [hunfold, hwritten, hindent]
      simp [Pen.breakLine, hink, Pen.attach, Pen.ink_put, hkey, Line.text]

/-! ## What is allowed in a text -/

/-- what stands for runs are their characters, blanks and line feeds -/
theorem mem_of_folded {spell : List Char → List Char} {runs : List Run} {out : List Char} (h : Folded spell runs out)
    (hspell : ∀ cs, ∀ ch ∈ spell cs, ch ∈ cs) {ch : Char} (hch : ch ∈ out) :
    ch = '\n' ∨ ch = ' ' ∨ ch ∈ runs.flatMap Run.chars := by
  induction h with
  | nil => cases hch
  | word cs h ih =>
    rcases List.mem_append.1 hch with hch | hch
    · exact Or.inr (Or.inr (List.mem_append_left _ (hspell cs ch hch)))
    · exact (ih hch).imp_right (Or.imp_right fun h => List.mem_append_right _ h)
  | blanks n h ih =>
    rcases List.mem_append.1 hch with hch | hch
    · exact Or.inr (Or.inl (List.eq_of_mem_replicate hch))
    · exact (ih hch).imp_right (Or.imp_right fun h => List.mem_append_right _ h)
  | fold h ih =>
    simp only [List.mem_cons] at hch
    rcases hch with rfl | rfl | rfl | hch
    · exact Or.inl rfl
    · exact Or.inr (Or.inl rfl)
    · exact Or.inr (Or.inl rfl)
    · exact (ih hch).imp_right (Or.imp_right fun h => List.mem_append_right _ h)
  | breaks n h ih =>
    rcases List.mem_append.1 hch with hch | hch
    · exact Or.inl (List.eq_of_mem_replicate hch)
    · simp only [List.mem_cons] at hch
      rcases hch with rfl | rfl | hch
      · exact Or.inr (Or.inl rfl)
      · exact Or.inr (Or.inl rfl)
      · exact (ih hch).imp_right (Or.imp_right fun h => List.mem_append_right _ h)

theorem mem_doubled (cs : List Char) : ∀ ch ∈ doubled cs, ch ∈ cs := by
  intro ch hch
  obtain ⟨x, hx, hch⟩ := List.mem_flatMap.1 hch
  split_ifs at hch with hquote
  · simp only [List.mem_cons, List.not_mem_nil, or_false, or_self] at hch
    rw [hch, ← hquote]
    exact hx
  · rw [List.mem_singleton.1 hch]
    exact hx

theorem isPlainAscii_hexDigitsUpper {width n : Nat} {ch : Char} (h : ch ∈ Text.hexDigitsUpper width n) :
    isPlainAscii ch = true := by
  have hdigit : ∀ m : Fin 16, isPlainAscii (Text.hexDigit m.val).toUpper = true := by decide
  obtain ⟨x, hx, rfl⟩ := List.mem_map.1 h
  obtain ⟨m, rfl⟩ := Text.mem_hexDigits hx
  exact hdigit m

/-- escapes are printable -/
theorem isPlainAscii_of_escape {c ch : Char} {form : List Char} (h : escape? c = some form) (hch : ch ∈ form) :
    isPlainAscii ch = true := by
  unfold escape? at h
  rcases hletter : escapeLetter? c with _ | letter
  · simp only [hletter] at h
    split_ifs at h
    obtain rfl := Option.some.inj h
    unfold codeForm at hch
    rcases List.mem_cons.1 hch with rfl | hch
    · decide
    · dsimp only at hch
      split_ifs at hch
      all_goals
        rcases List.mem_cons.1 hch with rfl | hch
        · decide
        · exact isPlainAscii_hexDigitsUpper hch
  · simp only [hletter] at h
    obtain rfl := Option.some.inj h
    have hprintable : isPlainAscii letter = true := by
      unfold escapeLetter? at hletter
      split at hletter <;> cases hletter <;> decide
    simp only [List.mem_cons, List.not_mem_nil, or_false] at hch
    rcases hch with rfl | rfl
    · decide
    · exact hprintable

theorem printable_of_escaped {cs out : List Char} (h : Escaped cs out) {ch : Char} (hch : ch ∈ out) :
    ch = '\n' ∨ isPlainAscii ch = true := by
  induction h with
  | nil => cases hch
  | bare hc h ih =>
    rcases List.mem_cons.1 hch with rfl | hch
    · exact Or.inr (of_escape?_eq_none hc).1
    · exact ih hch
  | escape hc h ih =>
    rcases List.mem_append.1 hch with hch | hch
    · exact Or.inr (isPlainAscii_of_escape hc hch)
    · exact ih hch
  | fold hnext h ih =>
    simp only [List.mem_cons] at hch
    rcases hch with rfl | rfl | rfl | rfl | hch
    · exact Or.inr (by decide)
    · exact Or.inl rfl
    · exact Or.inr (by decide)
    · exact Or.inr (by decide)
    · exact ih hch
  | foldBlank h ih =>
    simp only [List.mem_cons] at hch
    rcases hch with rfl | rfl | rfl | rfl | rfl | rfl | hch
    · exact Or.inr (by decide)
    · exact Or.inl rfl
    · exact Or.inr (by decide)
    · exact Or.inr (by decide)
    · exact Or.inr (by decide)
    · exact Or.inr (by decide)
    · exact ih hch

/-- whatever the text is, printable characters and line feeds stand for it -/
theorem printable_of_form {cs out : List Char} {style : Style} (h : Form cs style out) {ch : Char} (hch : ch ∈ out) :
    ch = '\n' ∨ isPlainAscii ch = true := by
  cases h with
  | plain hplain hne h =>
    simp only [canBePlain, Bool.and_eq_true, List.all_eq_true] at hplain
    rcases mem_of_folded h (fun _ _ h => h) hch with rfl | rfl | hmem
    · exact Or.inl rfl
    · exact Or.inr (by decide)
    · rw [Run.chars_split] at hmem
      exact Or.inr (hplain.1.1.1.1 ch hmem)
  | single hsingle h =>
    simp only [canBeSingle, Bool.and_eq_true, List.all_eq_true, Bool.or_eq_true, decide_eq_true_eq] at hsingle
    simp only [List.mem_cons, List.mem_append, List.not_mem_nil, or_false] at hch
    rcases hch with rfl | hch | rfl
    · exact Or.inr (by decide)
    · rcases mem_of_folded h mem_doubled hch with rfl | rfl | hmem
      · exact Or.inl rfl
      · exact Or.inr (by decide)
      · rw [Run.chars_split] at hmem
        exact hsingle.1 ch hmem
    · exact Or.inr (by decide)
  | double h =>
    simp only [List.mem_cons, List.mem_append, List.not_mem_nil, or_false] at hch
    rcases hch with rfl | hch | rfl
    · exact Or.inr (by decide)
    · exact printable_of_escaped h hch
    · exact Or.inr (by decide)

theorem Line.Sound.printable {l : Line} (h : l.Sound) {ch : Char} (hch : ch ∈ l.text) :
    ch = '\n' ∨ isPlainAscii ch = true := by
  simp only [Line.text, List.mem_append, List.mem_cons, List.not_mem_nil, or_false] at hch
  rcases hch with hch | rfl | rfl | hch | rfl
  · exact Or.inr (isPlainAscii_of_name (h.name.2 ch hch)).1
  · exact Or.inr (by decide)
  · exact Or.inr (by decide)
  · exact printable_of_form h.form hch
  · exact Or.inl rfl

theorem isAllowed_of_printable {ch : Char} (h : ch = '\n' ∨ isPlainAscii ch = true) :
    isAllowed ch = true ∧ ch ≠ '\r' := by
  rcases h with rfl | h
  · decide
  · constructor
    · simp only [isPlainAscii, Bool.and_eq_true, decide_eq_true_eq] at h
      simp [isAllowed, h.1, h.2]
    · rintro rfl
      exact absurd h (by decide)

theorem unifyBreaks_eq {text : List Char} (h : ∀ ch ∈ text, ch ≠ '\r') : unifyBreaks text = text := by
  induction text with
  | nil => rfl
  | cons ch rest ih =>
    have hne := h ch List.mem_cons_self
    have hrest := ih fun x hx => h x (List.mem_cons_of_mem _ hx)
    unfold unifyBreaks
    split
    · rename_i heq
      exact absurd (List.cons.inj heq).1 hne
    · rename_i heq
      exact absurd (List.cons.inj heq).1 hne
    · rename_i heq
      obtain ⟨rfl, rfl⟩ := List.cons.inj heq
      rw [hrest]
    · rename_i heq
      cases heq

/-! ## Scanning -/

theorem lineStart_lines {ls : List Line} (hs : ∀ l ∈ ls, l.Sound) : LineStart (ls.flatMap Line.text) := by
  cases ls with
  | nil => exact lineStart_nil
  | cons l ls =>
    have hname :=
      (hs l List.mem_cons_self).name.lineStart (r := ':' :: ' ' :: (l.out ++ ['\n']) ++ ls.flatMap Line.text)
    simpa [Line.text] using hname

/-- lines are scanned one after another -/
theorem fetchAll_lines {ls : List Line} (hs : ∀ l ∈ ls, l.Sound) {s : Scanner} {tokens : List Token}
    (h : s.Stands false (ls.flatMap Line.text) tokens) (bound : Nat) :
    ∃ s', Scanner.fetchAll (3 * ls.length + 1 + bound) s = .ok s' ∧
      s'.tokens = .blockEnd :: ((ls.flatMap Line.tokens).reverse ++ tokens) := by
  induction ls generalizing s tokens with
  | nil =>
    rw [show 3 * ([] : List Line).length + 1 + bound = bound + 1 by simp; omega]
    exact Scanner.fetchAll_end h bound
  | cons l ls ih =>
    have hl := hs l List.mem_cons_self
    have hrest := fun x hx => hs x (List.mem_cons_of_mem l hx)
    have htext : (l :: ls).flatMap Line.text = l.key ++ ':' :: ' ' :: (l.out ++ '\n' :: ls.flatMap Line.text) := by
      simp [Line.text]
    rw [htext] at h
    obtain ⟨s₁, hread, hstands⟩ :=
      Scanner.fetchAll_entry hl.name hl.short hl.form (lineStart_lines hrest) h (3 * ls.length + 1 + bound)
    obtain ⟨s', hs', htokens⟩ := ih hrest hstands
    refine ⟨s', ?_, ?_⟩
    · rw [show 3 * (l :: ls).length + 1 + bound = 3 * ls.length + 1 + bound + 3 by simp; omega, hread, hs']
    · rw [htokens]
      simp [Line.tokens, Scanner.keyTokens]

theorem length_text (l : Line) : 3 ≤ l.text.length := by
  simp [Line.text]
  omega

theorem length_lines (ls : List Line) : 3 * ls.length ≤ (ls.flatMap Line.text).length := by
  induction ls with
  | nil => simp
  | cons l ls ih =>
    have hl := length_text l
    simp only [List.flatMap_cons, List.length_append, List.length_cons]
    omega

/-- the tokens of lines are those of a mapping of their entries -/
theorem scan_lines {l : Line} {ls : List Line} (hs : ∀ x ∈ l :: ls, x.Sound) :
    Token.scan ((l :: ls).flatMap Line.text) =
      .ok (.blockMappingStart :: ((l :: ls).flatMap Line.tokens ++ [.blockEnd])) := by
  have hl := hs l List.mem_cons_self
  have hrest := fun x hx => hs x (List.mem_cons_of_mem l hx)
  have hallowed : ((l :: ls).flatMap Line.text).all isAllowed = true := by
    rw [List.all_eq_true]
    intro ch hch
    obtain ⟨x, hx, hch⟩ := List.mem_flatMap.1 hch
    exact (isAllowed_of_printable ((hs x hx).printable hch)).1
  have htext : (l :: ls).flatMap Line.text = l.key ++ ':' :: ' ' :: (l.out ++ '\n' :: ls.flatMap Line.text) := by
    simp [Line.text]
  have hline : LineStart ((l :: ls).flatMap Line.text) := lineStart_lines hs
  have hmark : ((l :: ls).flatMap Line.text).head? ≠ some '\ufeff' := by
    rw [htext, head?_append_of_ne_nil hl.name.1]
    intro hhead
    exact absurd (hl.name.2 _ (List.mem_of_mem_head? hhead)) (by decide)
  have hstands : (Scanner.start ((l :: ls).flatMap Line.text)).Stands true ((l :: ls).flatMap Line.text) [] := by
    refine ⟨rfl, 0, 0, ?_⟩
    rw [Scanner.skipMark_eq hmark, Scanner.bound, Scanner.toNextToken_eq hline.notWhite hline.noComment]
    rfl
  have hlength : 3 * (l :: ls).length ≤ ((l :: ls).flatMap Line.text).length := length_lines _
  obtain ⟨more, hmore⟩ : ∃ more, ((l :: ls).flatMap Line.text).length + 2 = 3 * ls.length + 1 + more + 3 :=
    ⟨((l :: ls).flatMap Line.text).length + 2 - (3 * ls.length + 4), by simp only [List.length_cons] at hlength; omega⟩
  generalize hgeneral : (l :: ls).flatMap Line.text = text at hallowed hstands hmore ⊢
  rw [← hgeneral, htext] at hstands
  obtain ⟨s₁, hread, hstands₁⟩ :=
    Scanner.fetchAll_entry hl.name hl.short hl.form (lineStart_lines hrest) hstands (3 * ls.length + 1 + more)
  obtain ⟨s', hs', htokens⟩ := fetchAll_lines hrest hstands₁ more
  rw [← htext, hgeneral] at hread
  rw [Token.scan, if_pos hallowed, hmore, hread, hs']
  simp [htokens, Line.tokens, Scanner.keyTokens]

/-! ## Events and nodes -/

namespace Line

def events (l : Line) : List Event :=
  [.scalar .none (String.ofList l.key) .plain, .scalar .none (String.ofList l.value) l.style]

/-- the nodes of key and value -/
def nodes (l : Line) : List Node :=
  [.scalar (resolveChars l.key) (String.ofList l.key), .scalar l.tag (String.ofList l.value)]

end Line

/-- key and value of a line are read in four steps, up to the end of the mapping -/
theorem run_lines (ls : List Line) (events : List Event) (handles : List (String × String)) (bound : Nat) :
    Reader.run (4 * ls.length + 2 + bound) ⟨ls.flatMap Line.tokens ++ [.blockEnd], [.blockKey], events, handles⟩ =
      .ok ⟨[], [], .mappingEnd :: ((ls.flatMap Line.events).reverse ++ events), handles⟩ := by
  induction ls generalizing events with
  | nil =>
    rw [show 4 * ([] : List Line).length + 2 + bound = bound + 1 + 1 by simp; omega]
    rfl
  | cons l ls ih =>
    rw [show 4 * (l :: ls).length + 2 + bound = 4 * ls.length + 2 + bound + 1 + 1 + 1 + 1 by
      simp only [List.length_cons]; omega]
    have hread : Reader.run (4 * ls.length + 2 + bound + 1 + 1 + 1 + 1)
        ⟨(l :: ls).flatMap Line.tokens ++ [.blockEnd], [.blockKey], events, handles⟩ =
        Reader.run (4 * ls.length + 2 + bound)
          ⟨ls.flatMap Line.tokens ++ [.blockEnd], [.blockKey], l.events.reverse ++ events, handles⟩ := rfl
    rw [hread, ih]
    simp

/-- the events of a mapping of the entries -/
theorem events_lines (ls : List Line) :
    Event.ofTokens (.blockMappingStart :: (ls.flatMap Line.tokens ++ [.blockEnd])) =
      .ok (.mappingStart .none :: (ls.flatMap Line.events ++ [.mappingEnd])) := by
  have hlength : (ls.flatMap Line.tokens).length = 4 * ls.length := by
    induction ls with
    | nil => rfl
    | cons l ls ih =>
      rw [List.flatMap_cons, List.length_append, ih]
      simp only [Line.tokens, List.length_cons, List.length_nil]
      omega
  obtain ⟨more, hmore⟩ : ∃ more, 8 * (Token.blockMappingStart :: (ls.flatMap Line.tokens ++ [.blockEnd])).length + 8 =
      4 * ls.length + 2 + more + 1 :=
    ⟨8 * (4 * ls.length + 2) + 8 - (4 * ls.length + 3), by simp [hlength]; omega⟩
  have hstart : Reader.run (4 * ls.length + 2 + more + 1)
      ⟨.blockMappingStart :: (ls.flatMap Line.tokens ++ [.blockEnd]), [.blockNode false], [], standardHandles⟩ =
      Reader.run (4 * ls.length + 2 + more)
        ⟨ls.flatMap Line.tokens ++ [.blockEnd], [.blockKey], [.mappingStart .none], standardHandles⟩ := rfl
  have hexplicit : (isDirective .blockMappingStart || Token.blockMappingStart = .documentStart) = false := rfl
  unfold Event.ofTokens
  simp only [hexplicit, Bool.false_and, Bool.false_eq_true, if_false, bind, Except.bind, pure, Except.pure, hmore,
    hstart, run_lines]
  simp [closing]

/-- the nodes of lines are put behind those there are, and into the mapping that is open -/
theorem compose_lines {ls : List Line} (hs : ∀ l ∈ ls, l.Sound) (nodes : List Node) (children : List Nat) :
    (ls.flatMap Line.events).foldlM Composer.step ⟨nodes, [], [⟨0, .mapping, children, true⟩], none⟩ =
      .ok ⟨nodes ++ ls.flatMap Line.nodes, [],
        [⟨0, .mapping, (List.range' nodes.length (2 * ls.length)).reverse ++ children, true⟩], none⟩ := by
  induction ls generalizing nodes children with
  | nil => simp [pure, Except.pure]
  | cons l ls ih =>
    have htells := (hs l List.mem_cons_self).tells
    have hplain : Composer.scalarTag .none (String.ofList l.key) .plain = resolveChars l.key := by
      simp [Composer.scalarTag, Props.none, resolve]
    have hstep : ((l :: ls).flatMap Line.events).foldlM Composer.step
        ⟨nodes, [], [⟨0, .mapping, children, true⟩], none⟩ =
        (ls.flatMap Line.events).foldlM Composer.step ⟨nodes ++ l.nodes, [],
          [⟨0, .mapping, (nodes.length + 1) :: nodes.length :: children, true⟩], none⟩ := by
      simp [Line.events, Line.nodes, Composer.step, Composer.name, Composer.place, Props.none, bind, Except.bind, pure,
        Except.pure, ← hplain, ← htells]
    have hrange : List.range' nodes.length (2 * (l :: ls).length) =
        nodes.length :: (nodes.length + 1) :: List.range' (nodes.length + 2) (2 * ls.length) := by
      rw [List.length_cons, Nat.mul_succ]
      rfl
    have hlength : (nodes ++ l.nodes).length = nodes.length + 2 := by simp [Line.nodes]
    rw [hstep, ih (fun x hx => hs x (List.mem_cons_of_mem l hx)), hlength, hrange]
    simp

/-- the graph of a mapping of the entries -/
theorem graph_lines {ls : List Line} (hs : ∀ l ∈ ls, l.Sound) :
    Graph.ofEvents (.mappingStart .none :: (ls.flatMap Line.events ++ [.mappingEnd])) =
      .ok (some ⟨.mapping .mapping (Composer.pairUp (List.range' 1 (2 * ls.length)).reverse) :: ls.flatMap Line.nodes,
        0⟩) := by
  have hcompose := compose_lines hs [.sequence .mapping []] []
  have hstart : Composer.step .empty (.mappingStart .none) =
      .ok ⟨[.sequence .mapping []], [], [⟨0, .mapping, [], true⟩], none⟩ := rfl
  unfold Graph.ofEvents
  simp only [List.foldlM_cons, hstart, bind, Except.bind, List.foldlM_append, hcompose, List.foldlM_nil]
  simp [Composer.step, Composer.closeNode, Composer.place, pure, Except.pure]

end LinePrompt.Yaml
