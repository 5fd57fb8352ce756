/-
What `ask` prints as JSON.

With `--json` a result is printed as an object of two entries on one line. The line is printable ASCII but for its end
(`isPlain_resultLine`), so nothing of it is taken for a control of the terminal on its way out; and the value that it
stands for has the outcome's name and the text, whatever the text is (`decode_resultLine`). An application without a
result counts as dismissed without a text. All of it is in `answered_in_json`.
-/
import LinePrompt.Proofs.CommandLine.Asking
import LinePrompt.Proofs.Text.JsonStrings

namespace LinePrompt.CommandLine

open LinePrompt.Files LinePrompt.Log LinePrompt.Prompt LinePrompt.Text.Json

variable {a : Application} {words : List String} {play : Play} {log : Logbook} {s : Surroundings} {o : Outcome}
  {text : String}

/-! ## The line -/

/-- the line without its end -/
def resultObject (o : Outcome) (text : String) : List Char :=
  '\x7b' :: (string "outcome".toList ++ ':' :: ' ' :: (string o.name.toList ++ ',' :: ' ' ::
    (string "text".toList ++ ':' :: ' ' :: (string text.toList ++ ['\x7d']))))

theorem toList_resultLine (o : Outcome) (text : String) :
    (resultLine o text).toList = resultObject o text ++ ['\n'] := by
  have hopen : "\x7b\"outcome\": ".toList = '\x7b' :: (string "outcome".toList ++ [':', ' ']) := by cbv
  have hnext : ", \"text\": ".toList = ',' :: ' ' :: (string "text".toList ++ [':', ' ']) := by cbv
  have hclose : "\x7d\n".toList = ['\x7d', '\n'] := by cbv
  unfold resultLine resultObject
  rw [String.toList_ofList, hopen, hnext, hclose]
  simp only [List.cons_append, List.append_assoc, List.nil_append]

theorem isPlain_resultObject (o : Outcome) (text : String) : ∀ c ∈ resultObject o text, IsPlain c := by
  intro c hc
  simp only [resultObject, List.mem_cons, List.mem_append, List.not_mem_nil, or_false] at hc
  rcases hc with rfl | hc | rfl | rfl | hc | rfl | rfl | hc | rfl | rfl | hc | rfl
  · decide
  · exact isPlain_string _ c hc
  · decide
  · decide
  · exact isPlain_string _ c hc
  · decide
  · decide
  · exact isPlain_string _ c hc
  · decide
  · decide
  · exact isPlain_string _ c hc
  · decide

/-- the line is printed as it is -/
theorem printed_resultLine (o : Outcome) (text : String) : printed (resultLine o text) = resultLine o text := by
  have hcontrol : ∀ c : Char, c ≠ '\n' → ¬ IsPlain c → c ∉ (resultLine o text).toList := by
    intro c hfeed hplain hc
    rw [toList_resultLine, List.mem_append, List.mem_singleton] at hc
    rcases hc with hc | hc
    · exact hplain (isPlain_resultObject o text c hc)
    · exact hfeed hc
  exact printed_eq (hcontrol _ (by decide) (by decide))

/-! ## What the line says -/

/-- two entries, whatever blanks stand in front of the second -/
theorem readItems?_two {α : Type} {read : List Char → Option (α × List Char)} {closing : Char} {x y : α}
    {cs between rest : List Char} (hx : read cs = some (x, ',' :: between))
    (hy : read between = some (y, closing :: rest)) (hcomma : ',' ≠ closing)
    (hclosing : isBlank closing = false) (bound : Nat) :
    readItems? read closing (bound + 2) cs = some ([x, y], rest) := by
  have hfirst : skipBlanks (',' :: between) = ',' :: between := rfl
  have hlast : skipBlanks (closing :: rest) = closing :: rest := by simp [skipBlanks, hclosing]
  unfold readItems?
  simp only [hx, hfirst, if_neg hcomma, if_true]
  unfold readItems?
  simp only [hy, hlast, if_true, Option.map_some]

theorem readValue?_resultObject (o : Outcome) (text : String) (depth : Nat) (rest : List Char) :
    readValue? (depth + 2) (resultObject o text ++ rest) =
      some (.object [("outcome", .string o.name), ("text", .string text)], rest) := by
  set second := string "text".toList ++ ':' :: ' ' :: (string text.toList ++ '\x7d' :: rest) with hsecond
  set both := string "outcome".toList ++ ':' :: ' ' :: (string o.name.toList ++ ',' :: ' ' :: second) with hboth
  have hobject : resultObject o text ++ rest = '\x7b' :: both := by
    simp only [resultObject, hboth, hsecond, List.cons_append, List.append_assoc, List.nil_append]
  have hx : readPair? (readValue? (depth + 1)) both =
      some (("outcome", .string o.name), ',' :: ' ' :: second) := by
    rw [hboth, readPair?_string]
    simp only [String.ofList_toList]
  have hy : readPair? (readValue? (depth + 1)) (' ' :: second) =
      some (("text", .string text), '\x7d' :: rest) := by
    show readPair? (readValue? (depth + 1)) second = _
    rw [hsecond, readPair?_string]
    simp only [String.ofList_toList]
  obtain ⟨bound, hbound⟩ : ∃ bound, both.length = bound + 2 :=
    Nat.exists_eq_add_of_le' (by simp [hboth]; omega)
  have hgroup : readGroup? (readPair? (readValue? (depth + 1))) '\x7d' both =
      some ([("outcome", .string o.name), ("text", .string text)], rest) := by
    have hfront : skipBlanks both = both := by
      rw [hboth, string_append]
      rfl
    unfold readGroup?
    rw [hfront, hbound]
    simp only [readItems?_two hx hy (by decide) (by decide)]
    rw [hboth, string_append]
    rfl
  have hfront : skipBlanks ('\x7b' :: both) = '\x7b' :: both := rfl
  rw [hobject]
  unfold readValue?
  rw [hfront]
  simp only [hgroup, Option.map_some]

/-- **The line stands for the outcome and the text.** -/
theorem decode_resultLine (o : Outcome) (text : String) :
    decode (resultLine o text) = some (.object [("outcome", .string o.name), ("text", .string text)]) := by
  obtain ⟨depth, hdepth⟩ : ∃ depth, (resultLine o text).length + 1 = depth + 2 := by
    refine Nat.exists_eq_add_of_le' ?_
    rw [← String.length_toList, toList_resultLine]
    simp [resultObject]
  unfold decode
  rw [hdepth, toList_resultLine, readValue?_resultObject]
  rfl

/-! ## The answer -/

/-- an outcome and a text printed as JSON -/
structure PrintedInJson (o : Outcome) (text : String) (e : Ending) : Prop where
  returns : e.escape = none
  /-- one line: printable ASCII characters, and the one line feed behind them -/
  line : ∃ cs, e.out.toList = cs ++ ['\n'] ∧ ∀ c ∈ cs, IsPlain c
  /-- an object of two entries, which hold the outcome's name and the text as they are -/
  value : decode e.out = some (.object [("outcome", .string o.name), ("text", .string text)])

theorem printedInJson_endingOf (played : Played) (hjson : a.question.asJson = true) :
    PrintedInJson played.outcomeAndText.1 played.outcomeAndText.2 (endingOf a played) := by
  unfold endingOf
  obtain ⟨o, text⟩ := played.outcomeAndText
  have hanswer : answerText a.question.asJson o text = resultLine o text := by rw [hjson]; rfl
  rw [hanswer, printed_resultLine]
  exact ⟨rfl, ⟨_, toList_resultLine o text, isPlain_resultObject o text⟩, decode_resultLine o text⟩

/-- **An `ask` with `--json` prints its result as JSON**, for every outcome and every text: what the application is said
to have come to, or what it comes to by what the user does. -/
theorem answered_in_json (words : List String) (play : Play) (log : Logbook) (s : Surroundings) (a : Application)
    (happ : (run words play log s).ending.application = some a) (hjson : a.question.asJson = true) :
    PrintedInJson (a.play (run words play log s).log.effective play).outcomeAndText.1
      (a.play (run words play log s).log.effective play).outcomeAndText.2 (run words play log s).ending := by
  obtain ⟨-, -, hending⟩ := run_of_application happ
  have hprinted := printedInJson_endingOf (a.play (run words play log s).log.effective play) hjson
  rwa [← hending] at hprinted

/-- a question whose answer is wanted as JSON -/
def inJson : Application := ⟨⟨"t", none, "OK", none, none, true, none⟩, .standard⟩

/-- quotes, a backslash, line breaks, a control of the terminal, and characters within and beyond the first plane -/
def hardText : String := "\"\\\r\n\x1b[31m\u2028é😀"

/-- a text that is hard to print, and no result at all -/
theorem answered_in_json_hard :
    (run ["ask", "--json", "t"] (.given (some (.alternate, hardText))) .untouched quiet).ending.application =
        some inJson ∧ inJson.question.asJson = true ∧
      PrintedInJson .alternate hardText
        (run ["ask", "--json", "t"] (.given (some (.alternate, hardText))) .untouched quiet).ending ∧
      PrintedInJson .dismissed "" (run ["ask", "--json", "t"] (.given none) .untouched quiet).ending := by
  have hwords : Command.ask.grammar.readWords ["--json", "t"] = .ok ⟨[(.json, "")], ["t"]⟩ := by decide +kernel
  have hq : readQuestion quiet ["--json", "t"] = .ok inJson.question := by
    simp only [readQuestion, readOwn, hwords]
    rfl
  have happ (result : Option (Outcome × String)) :
      (run ["ask", "--json", "t"] (.given result) .untouched quiet).ending.application = some inJson := by
    rw [(run_quiet _ hq rfl).2]
    exact application_endingOf _ _
  refine ⟨happ _, rfl, ?_, ?_⟩
  · exact answered_in_json _ (.given (some (.alternate, hardText))) _ _ _ (happ _) rfl
  · exact answered_in_json _ (.given none) _ _ _ (happ _) rfl

end LinePrompt.CommandLine
