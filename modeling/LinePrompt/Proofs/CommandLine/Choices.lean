/-
The options of `ask`, in any order and with any values.

An option that takes a value takes the next word, whatever that looks like (`readWords_waiting`), so a value is never
taken for another option, for the mark that ends the options, or for the title. What is said in front of the command
does not depend on what is said behind it (`readGlobals_append`).

`choices_put` says what comes of it for words in which each option is given once at most: the application has the title
and the values that were given, in whatever order, and it is there once the settings are loaded and the log is set up.
Settings that can be loaded are not enough for that: `choices_unheard`.
-/
import Mathlib.Data.List.Nodup
import LinePrompt.Proofs.Settings.Documents

namespace LinePrompt.CommandLine

open LinePrompt.Files LinePrompt.Files.Surroundings LinePrompt.Log LinePrompt.Prompt LinePrompt.Screen

/-! ## Reading words -/

section Words

variable {g : Grammar} {word value name : String} {front rest : List String} {given : List Given} {o : Parameter}
  {v : String} {p q : Parsed}

/-- an option that waits for its value takes the next word -/
theorem readWords_waiting (hend : word ≠ "--") (hoption : Grammar.isOption word = true)
    (hword : g.readWord word = .ok ⟨[], some (o, name)⟩) (value : String) (rest : List String) :
    g.readWords (word :: value :: rest) =
      (g.readWords rest).map fun q => { q with given := (o, value) :: q.given } := by
  rw [Grammar.readWords, if_neg hend, if_pos hoption, hword]
  rfl

theorem readWords_flag (hend : word ≠ "--") (hoption : Grammar.isOption word = true)
    (hword : g.readWord word = .ok ⟨[(o, "")], none⟩) (rest : List String) :
    g.readWords (word :: rest) = (g.readWords rest).map fun q => { q with given := (o, "") :: q.given } := by
  rw [Grammar.readWords, if_neg hend, if_pos hoption, hword]
  rfl

/-- Where options stand in front only, the words behind the first that is none make no difference to what is read in
front of it. -/
theorem readWords_append (hfront : g.mixed = false) (hend : word ≠ "--") (hoption : Grammar.isOption word = false)
    (h : g.readWords (front ++ [word]) = .ok ⟨given, [word]⟩) (rest : List String) :
    g.readWords (front ++ word :: rest) = .ok ⟨given, word :: rest⟩ := by
  generalize hwords : front ++ [word] = words at h
  fun_induction g.readWords words generalizing front given with
  | case1 => simp at hwords
  | case2 left =>
    -- the mark that ends the options, with nothing between it and the word
    obtain ⟨rfl, rfl⟩ := Parsed.mk.inj (Except.ok.inj h)
    obtain rfl : front = ["--"] := List.append_cancel_right hwords
    show g.readWords ("--" :: word :: rest) = _
    rw [Grammar.readWords, if_pos rfl]
  | case3 first left hmark hfirst f hword => cases h
  | case4 first left hmark hfirst options hword ih =>
    obtain ⟨q, hq, hgiven⟩ := exists_of_map_ok h
    obtain ⟨rfl, hleft⟩ := Parsed.mk.inj hgiven
    cases front with
    | nil =>
      obtain ⟨rfl, -⟩ := List.cons.inj hwords
      exact absurd hfirst (by simp [hoption])
    | cons first' front =>
      obtain ⟨rfl, hbehind⟩ := List.cons.inj hwords
      rw [List.cons_append, Grammar.readWords, if_neg hmark, if_pos hfirst, hword]
      dsimp only
      rw [ih hbehind (by rw [hq, ← hleft])]
      rfl
  | case5 first hmark hfirst options p name hword => cases h
  | case6 first hmark hfirst options p name hword value left ih =>
    obtain ⟨q, hq, hgiven⟩ := exists_of_map_ok h
    obtain ⟨rfl, hleft⟩ := Parsed.mk.inj hgiven
    cases front with
    | nil => cases (List.cons.inj hwords).2
    | cons first' front =>
      obtain ⟨rfl, hbehind⟩ := List.cons.inj hwords
      cases front with
      | nil =>
        -- the word would be the option's value, and none would be left
        obtain ⟨rfl, rfl⟩ := List.cons.inj hbehind
        rw [Grammar.readWords] at hq
        obtain rfl := Except.ok.inj hq
        cases hleft
      | cons value' front =>
        obtain ⟨rfl, hleftover⟩ := List.cons.inj hbehind
        rw [List.cons_append, List.cons_append, Grammar.readWords, if_neg hmark, if_pos hfirst, hword]
        dsimp only
        rw [ih hleftover (by rw [hq, ← hleft])]
        rfl
  | case7 first left hmark hfirst hmixed => simp [hfront] at hmixed
  | case8 first left hmark hfirst hmixed =>
    obtain ⟨rfl, hleft⟩ := Parsed.mk.inj (Except.ok.inj h)
    obtain rfl : front = [] := by simpa [hleft] using hwords
    rw [List.nil_append, Grammar.readWords, if_neg hend, if_neg (by simp [hoption]), if_neg (by simp [hfront])]

/-- an option that is given once has the value it is given -/
theorem value?_eq_some (honce : (p.given.map Prod.fst).Nodup) : p.value? o = some v ↔ (o, v) ∈ p.given := by
  constructor
  · intro h
    obtain ⟨⟨o', v'⟩, hfound, rfl⟩ := Option.map_eq_some_iff.1 h
    obtain rfl : o' = o := by simpa using List.find?_some hfound
    exact List.mem_reverse.1 (List.mem_of_find?_eq_some hfound)
  · intro h
    obtain ⟨⟨o', v'⟩, hfound⟩ : ∃ x, p.given.reverse.find? (·.1 == o) = some x :=
      Option.isSome_iff_exists.1 (List.find?_isSome.2 ⟨(o, v), List.mem_reverse.2 h, by simp⟩)
    obtain rfl : o' = o := by simpa using List.find?_some hfound
    have hmem : (o', v') ∈ p.given := List.mem_reverse.1 (List.mem_of_find?_eq_some hfound)
    obtain rfl : v' = v := congrArg Prod.snd (List.inj_on_of_nodup_map honce hmem h rfl)
    simp only [Parsed.value?, hfound, Option.map_some]

theorem has_eq_true : p.has o = true ↔ o ∈ p.given.map Prod.fst := by
  simp [Parsed.has]

/-- the order of options that are given once makes no difference to their values -/
theorem value?_perm (horder : p.given.Perm q.given) (honce : (p.given.map Prod.fst).Nodup) (o : Parameter) :
    q.value? o = p.value? o := by
  have honce' : (q.given.map Prod.fst).Nodup := (horder.map Prod.fst).nodup_iff.1 honce
  apply Option.ext
  intro v
  rw [value?_eq_some honce', value?_eq_some honce, horder.mem_iff]

theorem has_perm (horder : p.given.Perm q.given) (o : Parameter) : q.has o = p.has o := by
  rw [Bool.eq_iff_iff, has_eq_true, has_eq_true, (horder.map Prod.fst).mem_iff]

end Words

variable {s : Surroundings} {front rest : List String} {g : Globals} {c : Settings}

/-- what is said in front of `ask` is the same whatever is said behind it -/
theorem readGlobals_append (h : readGlobals s (front ++ ["ask"]) = .ok (g, ["ask"])) (rest : List String) :
    readGlobals s (front ++ "ask" :: rest) = .ok (g, "ask" :: rest) := by
  obtain ⟨⟨given, operands⟩, hwords, hleft, hfirst, hlevel, hfile, rfl⟩ := readGlobals_ok h
  obtain rfl : operands = ["ask"] := hleft
  have hlonger := readWords_append rfl (by decide) (by decide) hwords rest
  exact readGlobals_of_checks (by simp) hlonger hfirst hlevel hfile

/-! ## Choices -/

/-- what can be said about a prompt -/
inductive Choice where
  | initial (text : String)
  | primary (label : String)
  | alternate (label : String)
  | cancel (label : String)
  | json
deriving DecidableEq

namespace Choice

def option : Choice → Parameter
  | initial _ => .initial
  | primary _ => .primary
  | alternate _ => .alternate
  | cancel _ => .cancel
  | json => .json

def value : Choice → String
  | initial text => text
  | primary label => label
  | alternate label => label
  | cancel label => label
  | json => ""

def given (choice : Choice) : Given := (choice.option, choice.value)

/-- the words for it -/
def words : Choice → List String
  | initial text => ["-i", text]
  | primary label => ["-p", label]
  | alternate label => ["-a", label]
  | cancel label => ["--cancel", label]
  | json => ["--json"]

theorem given_injective : Function.Injective given := by
  intro x y h
  cases x <;> cases y <;> simp_all [given, option, value]

end Choice

variable {choices other : List Choice} {title : String}

/-- the words behind `ask` -/
def line (choices : List Choice) (title : String) : List String := choices.flatMap Choice.words ++ ["--", title]

/-- what the words come to -/
def heard (choices : List Choice) (title : String) : Parsed := ⟨choices.map Choice.given, [title]⟩

theorem readWords_choice (choice : Choice) (rest : List String) :
    Command.ask.grammar.readWords (choice.words ++ rest) =
      (Command.ask.grammar.readWords rest).map fun q => { q with given := choice.given :: q.given } := by
  have hinitial : Command.ask.grammar.readWord "-i" = .ok ⟨[], some (.initial, "-i")⟩ := by decide +kernel
  have hprimary : Command.ask.grammar.readWord "-p" = .ok ⟨[], some (.primary, "-p")⟩ := by decide +kernel
  have halternate : Command.ask.grammar.readWord "-a" = .ok ⟨[], some (.alternate, "-a")⟩ := by decide +kernel
  have hcancel : Command.ask.grammar.readWord "--cancel" = .ok ⟨[], some (.cancel, "--cancel")⟩ := by decide +kernel
  have hjson : Command.ask.grammar.readWord "--json" = .ok ⟨[(.json, "")], none⟩ := by decide +kernel
  cases choice with
  | initial text => exact readWords_waiting (by decide) (by decide) hinitial text rest
  | primary label => exact readWords_waiting (by decide) (by decide) hprimary label rest
  | alternate label => exact readWords_waiting (by decide) (by decide) halternate label rest
  | cancel label => exact readWords_waiting (by decide) (by decide) hcancel label rest
  | json => exact readWords_flag (by decide) (by decide) hjson rest

theorem readWords_line (choices : List Choice) (title : String) :
    Command.ask.grammar.readWords (line choices title) = .ok (heard choices title) := by
  induction choices with
  | nil =>
    show Command.ask.grammar.readWords ["--", title] = _
    rw [Grammar.readWords, if_pos rfl]
    rfl
  | cons choice choices ih =>
    have hline : line (choice :: choices) title = choice.words ++ line choices title := by
      rw [line, List.flatMap_cons, List.append_assoc]
      rfl
    rw [hline, readWords_choice, ih]
    rfl

/-- the question that choices put -/
def asked (choices : List Choice) (title : String) : Question :=
  let p := heard choices title
  ⟨title, p.value? .initial, (p.value? .primary).getD "OK", p.value? .alternate, p.value? .cancel, p.has .json, none⟩

theorem readQuestion_line (s : Surroundings) (choices : List Choice) (title : String) :
    readQuestion s (line choices title) = .ok (asked choices title) := by
  -- no choice asks for something to be printed, and none names a file with settings
  have hoptions : ∀ x ∈ (heard choices title).given, x.1 ≠ .help ∧ x.1 ≠ .version ∧ x.1 ≠ .config := by
    intro x hx
    obtain ⟨choice, -, rfl⟩ := List.mem_map.1 hx
    cases choice <;> simp [Choice.given, Choice.option]
  have hfirst := firstRequest_ok (fun x hx => ⟨(hoptions x hx).1, (hoptions x hx).2.1⟩) .ask
  have hown : readOwn .ask (line choices title) = .ok (heard choices title) := by
    simp only [readOwn, readWords_line, hfirst]
    rfl
  have hconfig : checkConfig .ask (heard choices title) s = .ok none := by
    have hnone : (heard choices title).given.reverse.find? (·.1 == Parameter.config) = none := by
      rw [List.find?_eq_none]
      intro x hx
      simpa using (hoptions x (List.mem_reverse.1 hx)).2.2
    simp only [checkConfig, Parsed.value?, hnone, Option.map_none]
  simp only [readQuestion, hown, hconfig, bind, Except.bind]
  rfl

theorem ofWords_line (hfront : readGlobals s (front ++ ["ask"]) = .ok (g, ["ask"])) (choices : List Choice)
    (title : String) : Task.ofWords s (front ++ "ask" :: line choices title) = .ok (.ask g (asked choices title)) := by
  rw [Task.ofWords, readGlobals_append hfront]
  show (readQuestion s (line choices title)).bind (fun q => .ok (Task.ask g q)) = _
  rw [readQuestion_line]
  rfl

/-! ## The prompt that choices put -/

/-- each option is given once at most -/
def Once (choices : List Choice) : Prop := (choices.map Choice.option).Nodup

theorem Once.heard (h : Once choices) (title : String) : ((heard choices title).given.map Prod.fst).Nodup := by
  have hoptions : (CommandLine.heard choices title).given.map Prod.fst = choices.map Choice.option := List.map_map ..
  rw [hoptions]
  exact h

theorem value?_heard (h : Once choices) (title : String) (choice : Choice) :
    (heard choices title).value? choice.option = some choice.value ↔ choice ∈ choices := by
  rw [value?_eq_some (h.heard title)]
  exact List.mem_map_of_injective Choice.given_injective

theorem has_heard : (heard choices title).has .json = true ↔ .json ∈ choices := by
  rw [has_eq_true]
  constructor
  · intro h
    obtain ⟨choice, hchoice, hjson⟩ : ∃ choice ∈ choices, choice.option = .json := by
      simpa [heard, Choice.given] using h
    cases choice with
    | json => exact hchoice
    | _ => cases hjson
  · intro h
    exact List.mem_map.2 ⟨_, List.mem_map_of_mem h, rfl⟩

/-- the order makes no difference -/
theorem asked_perm (honce : Once choices) (horder : choices.Perm other) (title : String) :
    asked other title = asked choices title := by
  have hgiven : (heard choices title).given.Perm (heard other title).given := horder.map _
  simp only [asked, value?_perm hgiven (honce.heard title), has_perm hgiven]

/-- the application that shows what was chosen -/
structure Puts (choices : List Choice) (title : String) (a : Application) : Prop where
  title : a.request.title = title
  initialValue : ∀ text, a.request.initialValue = some text ↔ .initial text ∈ choices
  primaryLabel : ∀ label, .primary label ∈ choices → a.request.primaryLabel = label
  primaryUnsaid : (∀ label, .primary label ∉ choices) → a.request.primaryLabel = "OK"
  alternateLabel : ∀ label, a.request.alternateLabel = some label ↔ .alternate label ∈ choices
  cancelLabel : ∀ label, a.request.cancelLabel = some label ↔ .cancel label ∈ choices
  /-- an alternate control is there for a label that is not empty -/
  alternate : .alternate ∈ controls a.request ↔ ∃ label, .alternate label ∈ choices ∧ label ≠ ""
  asJson : a.question.asJson = true ↔ .json ∈ choices

theorem puts_asked (honce : Once choices) (title : String) (c : Settings) :
    Puts choices title ⟨asked choices title, c⟩ := by
  have hvalue := value?_heard honce title
  exact {
    title := rfl
    initialValue := fun text => hvalue (.initial text)
    primaryLabel := by
      intro label hlabel
      have hsaid : (heard choices title).value? .primary = some label := (hvalue (.primary label)).2 hlabel
      show ((heard choices title).value? .primary).getD "OK" = label
      rw [hsaid]
      rfl
    primaryUnsaid := by
      intro hunsaid
      show ((heard choices title).value? .primary).getD "OK" = "OK"
      have hnone : (heard choices title).value? .primary = none :=
        Option.eq_none_iff_forall_ne_some.2 fun label hlabel => hunsaid label ((hvalue (.primary label)).1 hlabel)
      rw [hnone]
      rfl
    alternateLabel := fun label => hvalue (.alternate label)
    cancelLabel := fun label => hvalue (.cancel label)
    alternate := by
      have hcontrols : .alternate ∈ controls (Application.request ⟨asked choices title, c⟩) ↔
          (⟨asked choices title, c⟩ : Application).hasAlternate := by
        unfold controls
        rw [hasAlternate_request]
        split_ifs with h <;> simp [h]
      rw [hcontrols, hasAlternate_iff]
      exact exists_congr fun label => and_congr_left' (hvalue (.alternate label))
    asJson := has_heard }

/-- the application is there once the log is set up -/
theorem application_line (hfront : readGlobals s (front ++ ["ask"]) = .ok (g, ["ask"]))
    (hset : settingsFor s none = .ok c) (choices : List Choice) (title : String) (play : Play) (log : Logbook) :
    (run (front ++ "ask" :: line choices title) play log s).ending.application =
      if (setUp (some c) ⟨g.level, g.logFile, false⟩ s).1 = none then some ⟨asked choices title, c⟩ else none := by
  have htask := ofWords_line hfront choices title
  have hset' : settingsFor s (asked choices title).config = .ok c := hset
  rcases hup : setUp (some c) ⟨g.level, g.logFile, false⟩ s with ⟨t | t, log', s'⟩
  · rw [(run_ask play log htask hset' hup).2, application_endingOf, if_pos rfl]
  · simp only [run, htask, runAsk, hset', hup]
    rfl

/-- **Choices put their prompt.** Behind words that make sense, and with settings that can be loaded, the application is
there once the log is set up. Each value is what was chosen, whatever it looks like; the order of the options makes no
difference to anything. -/
theorem choices_put (hfront : readGlobals s (front ++ ["ask"]) = .ok (g, ["ask"])) (honce : Once choices)
    (hset : settingsFor s none = .ok c) (title : String) (play : Play) (log : Logbook) :
    ((∃ a, (run (front ++ "ask" :: line choices title) play log s).ending.application = some a) ↔
        (setUp (some c) ⟨g.level, g.logFile, false⟩ s).1 = none) ∧
      (∀ a, (run (front ++ "ask" :: line choices title) play log s).ending.application = some a →
        a.settings = c ∧ Puts choices title a) ∧
      ∀ other, choices.Perm other → run (front ++ "ask" :: line other title) play log s =
        run (front ++ "ask" :: line choices title) play log s := by
  have happ := application_line hfront hset choices title play log
  refine ⟨?_, ?_, ?_⟩
  · rw [happ]
    split_ifs with hup
    · exact iff_of_true ⟨_, rfl⟩ hup
    · exact iff_of_false (fun ⟨_, ha⟩ => nomatch ha) hup
  · intro a ha
    rw [happ] at ha
    split_ifs at ha
    obtain rfl := Option.some.inj ha
    exact ⟨rfl, puts_asked honce title c⟩
  · intro other horder
    have htask := ofWords_line hfront choices title
    have htask' := ofWords_line hfront other title
    rw [asked_perm honce horder] at htask'
    unfold run
    rw [htask, htask']

/-- values that look like options, like the mark that ends them, and like nothing -/
def tricky : List Choice := [.cancel "--", .initial "--json", .alternate "", .json, .primary "-p"]

theorem choices_put_tricky :
    readGlobals quiet ([] ++ ["ask"]) = .ok (⟨none, some "c"⟩, ["ask"]) ∧ Once tricky ∧
      settingsFor quiet none = .ok .standard ∧
      ∃ a, (run ("ask" :: line tricky "--help") (.given none) .untouched quiet).ending.application = some a ∧
        Puts tricky "--help" a ∧ a.request.primaryLabel = "-p" := by
  have hfront : readGlobals quiet ([] ++ ["ask"]) = .ok (⟨none, some "c"⟩, ["ask"]) := readGlobals_quiet []
  have honce : Once tricky := by unfold Once; decide
  have hset : settingsFor quiet none = .ok .standard := by
    rw [settingsFor, load_quiet]
    rfl
  have hopens : (setUp (some .standard) ⟨none, some "c", false⟩ quiet).1 = none := by rw [setUp_quiet]
  obtain ⟨hshown, hputs, -⟩ := choices_put hfront honce hset "--help" (.given none) .untouched
  obtain ⟨a, ha⟩ := hshown.2 hopens
  exact ⟨hfront, honce, hset, a, ha, (hputs a ha).2, (hputs a ha).2.primaryLabel "-p" (by decide)⟩

/-! ## Settings that are not enough -/

/-- settings that want the log written to the working directory itself -/
def misdirectedSettings : Settings :=
  { Settings.standard with
    logFile :=
      ⟨[(0, .mapping [(.scalar (.text "log_file"), .scalar (.text "."))]), (0, .mapping [])], .scalar (.text ".")⟩
    source := some "/textprompt.yaml" }

def misdirected : Surroundings := Settings.holding "log_file: .\n"

theorem settingsFor_misdirected : settingsFor misdirected none = .ok misdirectedSettings := by
  have hparse : Yaml.Value.parse "log_file: .\n".toList = .ok (misdirectedSettings.logFile.within (.cell 0)) := by
    decide +kernel
  rw [settingsFor, misdirected, Settings.load_holding hparse]
  rfl

theorem setUp_misdirected :
    (setUp (some misdirectedSettings) ⟨none, none, false⟩ misdirected).1 = some (.files ⟨.isDirectory, "/"⟩) := by
  have hpath : Settings.logPath misdirected (some misdirectedSettings) none = .ok ⟨.here, []⟩ := by
    have hhere : Path.ofText "." = ⟨.here, []⟩ := by cbv
    show Settings.expanded misdirected (.ofText ".") = _
    rw [hhere]
    rfl
  unfold setUp
  rw [hpath]
  rfl

/-- Settings that can be loaded are not enough for a prompt: the log is set up before. -/
theorem choices_unheard :
    ¬ ∀ (s : Surroundings) (choices : List Choice) (title : String) (c : Settings) (play : Play) (log : Logbook),
      Once choices → settingsFor s none = .ok c →
        ∃ a, (run ("ask" :: line choices title) play log s).ending.application = some a := by
  intro hall
  obtain ⟨a, ha⟩ := hall misdirected [] "t" misdirectedSettings (.given none) .untouched List.nodup_nil
    settingsFor_misdirected
  have hfront : readGlobals misdirected ([] ++ ["ask"]) = .ok (⟨none, none⟩, ["ask"]) := by
    have hwords : Command.main.grammar.readWords ["ask"] = .ok ⟨[], ["ask"]⟩ := rfl
    exact readGlobals_of_checks (List.cons_ne_nil _ _) hwords rfl rfl rfl
  have happ := application_line hfront settingsFor_misdirected [] "t" (.given none) .untouched
  rw [setUp_misdirected] at happ
  cases ha.symm.trans happ

end LinePrompt.CommandLine
