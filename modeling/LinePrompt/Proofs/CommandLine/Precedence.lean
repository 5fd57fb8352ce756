/-
The settings in force once `ask` shows its prompt.

Each setting is looked for at its own places, one after another: on the command line, in the environment, in the file
with the settings, and at last there is the built-in one. A constructor for each place says what it gives, and that
nothing was said at the places before it (`LevelInForce`, `LogFileInForce`, `CancelLabelInForce`, `EscapeInForce`).
Settings are read from one file at most (`ConfigurationFile`).

`settings_in_force` says so of every run that comes to show its prompt: of the log it leaves and of the application it
ran. With a level in the environment that is none, and none on the command line, no run comes to anything.
-/
import LinePrompt.Proofs.CommandLine.Asking
import LinePrompt.Proofs.Log.Opening
import LinePrompt.Proofs.Settings.Loading

namespace LinePrompt.CommandLine

open LinePrompt.Files LinePrompt.Log LinePrompt.Prompt LinePrompt.Screen LinePrompt.Yaml

variable {s s' : Surroundings} {words rest : List String} {p o : Parsed} {g : Globals} {q : Question} {c : Settings}
  {v : Value} {config : Option String} {file? : Option Path} {log log' : Logbook} {a : Application}

/-! ## The file with the settings -/

/-- the file in the working directory -/
def hereFile (s : Surroundings) : Path := (Path.ofLocation s.cwd).child "textprompt.yaml"

/-- the file under a home directory -/
def homeFile (home : Path) : Path := ((home.child ".config").child "textprompt").child "config.yaml"

/-- the one file that settings are read from, if there is one -/
inductive ConfigurationFile (s : Surroundings) : Option String → Option Path → Prop where
  | asked {raw : String} (named : raw ≠ "") (there : s.isThere (.ofText raw) = .ok true) :
    ConfigurationFile s (some raw) (some (.ofText raw))
  | here (there : s.isThere (hereFile s) = .ok true) : ConfigurationFile s none (some (hereFile s))
  | home {home : Path} (notHere : s.isThere (hereFile s) = .ok false)
    (expands : s.expandHome? (.ofText "~") = some home) (there : s.isThere (homeFile home) = .ok true) :
    ConfigurationFile s none (some (homeFile home))
  | nowhere {home : Path} (notHere : s.isThere (hereFile s) = .ok false)
    (expands : s.expandHome? (.ofText "~") = some home) (notThere : s.isThere (homeFile home) = .ok false) :
    ConfigurationFile s none none

/-- the value that the file holds; without a file there is nothing -/
inductive Holds (s : Surroundings) : Option Path → Value → Prop where
  | nothing : Holds s none Yaml.null
  | file {path : Path} {bytes : ByteArray} {text : String} {v : Value} (read : s.read path = .ok bytes)
    (decoded : String.fromUTF8? bytes = some text) (parsed : Value.parse text.toList = .ok v) : Holds s (some path) v

/-- settings whose entries are those of a value, where it has them -/
structure ReadOff (v : Value) (c : Settings) : Prop where
  label : Settings.textEntry v "default_cancel_label" "Cancel" = .ok c.cancelLabel
  escape : Settings.switchEntry v = .ok c.escapeDismisses
  level : Settings.textEntry v "log_level" "WARNING" = .ok c.logLevel
  logFile : c.logFile = (v.get? "log_file").getD Yaml.null

theorem readOff_standard : ReadOff Yaml.null .standard := ⟨rfl, rfl, rfl, rfl⟩

theorem readOff_ofDocument {path : String} (h : Settings.ofDocument path v = .ok c) : ReadOff v c := by
  unfold Settings.ofDocument at h
  dsimp only at h
  split_ifs at h
  · cases h
  · obtain ⟨b, hescape, h⟩ := exists_of_bind_ok h
    obtain ⟨label, hlabel, h⟩ := exists_of_bind_ok h
    obtain ⟨level, hlevel, h⟩ := exists_of_bind_ok h
    obtain rfl := Except.ok.inj h
    exact ⟨hlabel, hescape, hlevel, rfl⟩

theorem readOff_read {path : Path} (h : Settings.read s path = .ok c) : ∃ v, Holds s (some path) v ∧ ReadOff v c := by
  unfold Settings.read at h
  rcases hread : s.read path with f | bytes
  · simp [hread] at h
  · simp only [hread, Settings.ofBytes] at h
    rcases htext : String.fromUTF8? bytes with _ | text
    · simp [htext] at h
    · simp only [htext] at h
      rcases hparse : Value.parse text.toList with fault | v
      · rw [hparse] at h
        cases fault <;> cases h
      · rw [hparse] at h
        exact ⟨v, .file hread htext hparse, readOff_ofDocument h⟩

/-- the first path of a list at which something stands, with nothing at the paths before it -/
theorem firstThere?_cons {path : Path} {paths : List Path} {found : Option Path}
    (h : Settings.firstThere? s (path :: paths) = .ok found) :
    (s.isThere path = .ok true ∧ found = some path) ∨
      (s.isThere path = .ok false ∧ Settings.firstThere? s paths = .ok found) := by
  unfold Settings.firstThere? at h
  rcases hthere : s.isThere path with f | _ | _
  · simp [hthere] at h
  · simp only [hthere] at h
    exact Or.inr ⟨rfl, h⟩
  · simp only [hthere, Except.ok.injEq] at h
    exact Or.inl ⟨rfl, h.symm⟩

theorem usualPaths_ok {paths : List Path} (h : Settings.usualPaths s = .ok paths) :
    ∃ home, s.expandHome? (.ofText "~") = some home ∧ paths = [hereFile s, homeFile home] := by
  obtain ⟨home, hhome, h⟩ := exists_of_bind_ok h
  unfold Settings.expanded at hhome
  split at hhome
  · rename_i home' hexpand
    obtain rfl := Except.ok.inj hhome
    exact ⟨home', hexpand, (Except.ok.inj h).symm⟩
  · cases hhome

/-- settings are loaded from the first file that is there -/
theorem configurationFile_load (named : ∀ raw, config = some raw → raw ≠ "") (h : Settings.load s config = .ok c) :
    ∃ file?, ConfigurationFile s config file? ∧
      match file? with
      | some path => Settings.read s path = .ok c
      | none => c = .standard := by
  unfold Settings.load at h
  cases config with
  | some raw =>
    have hgiven : Settings.nonempty? (some raw) = some raw := by simp [Settings.nonempty?, named raw rfl]
    simp only [hgiven] at h
    obtain ⟨found, hfirst, h⟩ := exists_of_bind_ok h
    rcases firstThere?_cons hfirst with ⟨hthere, rfl⟩ | ⟨-, hnone⟩
    · exact ⟨_, .asked (named raw rfl) hthere, h⟩
    · obtain rfl : none = found := Except.ok.inj hnone
      cases h
  | none =>
    have hgiven : Settings.nonempty? none = none := rfl
    simp only [hgiven] at h
    obtain ⟨paths, hpaths, h⟩ := exists_of_bind_ok h
    obtain ⟨home, hhome, rfl⟩ := usualPaths_ok hpaths
    obtain ⟨found, hfirst, h⟩ := exists_of_bind_ok h
    rcases firstThere?_cons hfirst with ⟨hhere, rfl⟩ | ⟨hhere, hrest⟩
    · exact ⟨_, .here hhere, h⟩
    · rcases firstThere?_cons hrest with ⟨hthere, rfl⟩ | ⟨hthere, hnone⟩
      · exact ⟨_, .home hhere hhome hthere, h⟩
      · obtain rfl : none = found := Except.ok.inj hnone
        exact ⟨none, .nowhere hhere hhome hthere, (Except.ok.inj h).symm⟩

/-- settings that were loaded are those that one file holds -/
theorem readOff_load (named : ∀ raw, config = some raw → raw ≠ "") (h : Settings.load s config = .ok c) :
    ∃ file? v, ConfigurationFile s config file? ∧ Holds s file? v ∧ ReadOff v c := by
  obtain ⟨file?, hfile, hc⟩ := configurationFile_load named h
  cases file? with
  | some path =>
    obtain ⟨v, hholds, hoff⟩ := readOff_read hc
    exact ⟨_, v, hfile, hholds, hoff⟩
  | none =>
    subst hc
    exact ⟨none, _, hfile, .nothing, readOff_standard⟩

/-! ## The words of an `ask` -/

/-- a file with settings that is asked for has a name -/
theorem checkConfig_ok {command : Command} (h : checkConfig command o s = .ok config) :
    config = o.value? .config ∧ ∀ raw, config = some raw → raw ≠ "" := by
  unfold checkConfig at h
  rcases hv : o.value? .config with _ | raw
  · simp only [hv, Except.ok.injEq] at h
    subst h
    exact ⟨rfl, fun raw hraw => nomatch hraw⟩
  · simp only [hv] at h
    obtain ⟨there, hstands, h⟩ := exists_of_bind_ok h
    split_ifs at h with hthere
    obtain rfl := Except.ok.inj h
    refine ⟨rfl, fun raw' hraw' => ?_⟩
    obtain rfl := Option.some.inj hraw'
    rintro rfl
    -- nothing stands at an empty path
    have hnothing : there = false := (Except.ok.inj hstands).symm
    simp [hnothing] at hthere

theorem readQuestion_ok (h : readQuestion s rest = .ok q) :
    ∃ o, Command.ask.grammar.readWords rest = .ok o ∧ q.config = o.value? .config ∧ q.cancelLabel = o.value? .cancel ∧
      ∀ raw, q.config = some raw → raw ≠ "" := by
  unfold readQuestion at h
  obtain ⟨o, hown, h⟩ := exists_of_bind_ok h
  obtain ⟨config, hconfig, h⟩ := exists_of_bind_ok h
  obtain ⟨hasked, hnamed⟩ := checkConfig_ok hconfig
  have hwords : Command.ask.grammar.readWords rest = .ok o := by
    unfold readOwn at hown
    rcases hwords : Command.ask.grammar.readWords rest with f | o'
    · simp [hwords] at hown
    · rcases hrequest : firstRequest o' .ask with r | ⟨⟩
      · simp [hwords, hrequest, Except.map] at hown
      · simpa [hwords, hrequest, Except.map] using hown
  split at h
  · cases h
  · obtain rfl := Except.ok.inj h
    exact ⟨o, hwords, hasked, rfl, hnamed⟩
  · cases h

theorem chooseCommand_ask (h : chooseCommand s words = .ok (.ask, rest)) : words = "ask" :: rest := by
  unfold chooseCommand at h
  split at h
  · cases h
  · rename_i name rest'
    split at h
    · rename_i c hname
      obtain ⟨rfl, rfl⟩ := Prod.mk.inj (Except.ok.inj h)
      unfold Command.ofName? at hname
      split at hname
      · rfl
      · cases hname
      · cases hname
    · dsimp only at h
      split_ifs at h
      · rcases hglobals : readGlobals s (name :: rest') with r | globals
        · simp [hglobals, bind, Except.bind] at h
        · simp [hglobals, bind, Except.bind, throw, throwThe, MonadExceptOf.throw] at h

/-- The words of an `ask`: the program's options in front of the command, the command's behind it. -/
structure Asks (s : Surroundings) (words : List String) (p o : Parsed) (g : Globals) (q : Question) : Prop where
  front : Command.main.grammar.readWords words = .ok p
  behind : ∃ rest, p.operands = "ask" :: rest ∧ Command.ask.grammar.readWords rest = .ok o
  level : checkGlobal .logLevel p s = .ok ()
  globals : g = ⟨(valueOr p .logLevel s "TEXTPROMPT_LOG_LEVEL").bind level?,
    valueOr p .logFile s "TEXTPROMPT_LOG_FILE"⟩
  config : q.config = o.value? .config
  cancelLabel : q.cancelLabel = o.value? .cancel
  named : ∀ raw, q.config = some raw → raw ≠ ""

theorem asks_ofWords (h : Task.ofWords s words = .ok (.ask g q)) : ∃ p o, Asks s words p o g q := by
  unfold Task.ofWords at h
  obtain ⟨⟨g', behind⟩, hglobals, h⟩ := exists_of_bind_ok h
  obtain ⟨⟨command, rest⟩, hcommand, h⟩ := exists_of_bind_ok h
  obtain ⟨p, hwords, hbehind, -, hlevel, -, hg⟩ := readGlobals_ok hglobals
  dsimp only at h
  split at h
  · obtain ⟨q', hquestion, h⟩ := exists_of_bind_ok h
    obtain ⟨rfl, rfl⟩ := Task.ask.inj (Except.ok.inj h)
    obtain ⟨o, hrest, hconfig, hcancel, hnamed⟩ := readQuestion_ok hquestion
    exact ⟨p, o, hwords, ⟨rest, hbehind.trans (chooseCommand_ask hcommand), hrest⟩, hlevel, hg, hconfig, hcancel,
      hnamed⟩
  · obtain ⟨config, -, h⟩ := exists_of_bind_ok h
    cases h

/-! ## The level of the log -/

/-- the text is a name of the severity that a command line may use, in any case -/
structure Names (value : String) (severity : Severity) : Prop where
  choice : severity.name ∈ levelChoices
  anyCase : severity.name.toLower = value.toLower

theorem names_of_level? {value name : String} (h : level? value = some name) :
    ∃ severity : Severity, severity.name = name ∧ Names value severity := by
  have hcase := List.find?_some h
  have hchoice := List.mem_of_find?_eq_some h
  have hname : ∀ name ∈ levelChoices, ∃ severity : Severity, severity.name = name := by
    simp only [levelChoices, List.forall_mem_cons, List.not_mem_nil, false_imp_iff, implies_true, and_true]
    exact ⟨⟨.debug, rfl⟩, ⟨.info, rfl⟩, ⟨.warning, rfl⟩, ⟨.error, rfl⟩⟩
  obtain ⟨severity, rfl⟩ := hname name hchoice
  exact ⟨severity, rfl, hchoice, by simpa using hcase⟩

/-- a severity's own name gives its rank, whatever the settings say -/
theorem threshold_name (c : Option Settings) (severity : Severity) :
    Settings.threshold c (some severity.name) = severity.rank := by
  have hgiven : Settings.nonempty? (some severity.name) = some severity.name := by cases severity <;> rfl
  have hnamed : thresholdOfName? (Text.toCapitals severity.name) = some severity.rank := by
    cases severity <;> decide +kernel
  simp only [Settings.threshold, hgiven, Option.some_or, Option.getD_some, hnamed]

/-- the threshold of the log, by the places that are asked for it -/
inductive LevelInForce (s : Surroundings) (p : Parsed) (v : Value) : Nat → Prop where
  | option {value : String} {severity : Severity} (given : p.value? .logLevel = some value)
    (names : Names value severity) : LevelInForce s p v severity.rank
  | environment {value : String} {severity : Severity} (unsaid : p.value? .logLevel = none)
    (given : s.given? "TEXTPROMPT_LOG_LEVEL" = some value) (names : Names value severity) :
    LevelInForce s p v severity.rank
  /-- the entry's text is a level's name, in any case -/
  | file {e : Value} {text : String} {rank : Nat} (unsaid : p.value? .logLevel = none)
    (unset : s.given? "TEXTPROMPT_LOG_LEVEL" = none) (entry : v.get? "log_level" = some e) (shown : e.text = .ok text)
    (names : thresholdOfName? (Text.toCapitals text) = some rank) : LevelInForce s p v rank
  /-- there is no entry, or its text is no level's name -/
  | builtIn (unsaid : p.value? .logLevel = none) (unset : s.given? "TEXTPROMPT_LOG_LEVEL" = none)
    (unnamed : ∀ e text, v.get? "log_level" = some e → e.text = .ok text →
      thresholdOfName? (Text.toCapitals text) = none) : LevelInForce s p v Severity.warning.rank

/-- the text of an entry, or the given text where there is no entry -/
theorem textEntry_ok {key default text : String} (h : Settings.textEntry v key default = .ok text) :
    (∃ e, v.get? key = some e ∧ e.text = .ok text) ∨ v.get? key = none ∧ text = default := by
  unfold Settings.textEntry at h
  rcases he : v.get? key with _ | e
  · simp only [he, Except.ok.injEq] at h
    exact Or.inr ⟨rfl, h.symm⟩
  · rcases hshown : e.text with fault | shown
    · simp [he, hshown, Settings.ofValue, Except.mapError] at h
    · simp only [he, hshown, Settings.ofValue, Except.mapError, Except.ok.injEq] at h
      exact Or.inl ⟨e, rfl, h ▸ hshown⟩

theorem levelInForce (h : Asks s words p o g q) (hoff : ReadOff v c) :
    LevelInForce s p v (Settings.threshold (some (c.overridden s)) g.level) := by
  have hglobal : g.level = (valueOr p .logLevel s "TEXTPROMPT_LOG_LEVEL").bind level? := by rw [h.globals]
  have hchecked := h.level
  unfold checkGlobal at hchecked
  rcases hvalue : valueOr p .logLevel s "TEXTPROMPT_LOG_LEVEL" with _ | value
  · obtain ⟨hunsaid, hunset⟩ := Option.or_eq_none_iff.1 hvalue
    have hlevel : (c.overridden s).logLevel = c.logLevel := by simp [Settings.overridden, hunset]
    rw [hglobal, hvalue, Option.bind_none, Settings.threshold_unsaid, hlevel]
    rcases textEntry_ok hoff.level with ⟨e, hentry, hshown⟩ | ⟨hentry, hdefault⟩
    · rcases hnamed : thresholdOfName? (Text.toCapitals c.logLevel) with _ | rank
      · refine .builtIn hunsaid hunset ?_
        intro e' text' hentry' hshown'
        obtain rfl := Option.some.inj (hentry.symm.trans hentry')
        obtain rfl := Except.ok.inj (hshown.symm.trans hshown')
        exact hnamed
      · exact .file hunsaid hunset hentry hshown hnamed
    · have hwarning : (thresholdOfName? (Text.toCapitals c.logLevel)).getD Severity.warning.rank =
          Severity.warning.rank := by
        rw [hdefault]
        decide +kernel
      rw [hwarning]
      exact .builtIn hunsaid hunset fun e text hsome => by simp [hentry] at hsome
  · simp only [hvalue] at hchecked
    split_ifs at hchecked with hsome
    obtain ⟨name, hname⟩ := Option.isSome_iff_exists.1 hsome
    obtain ⟨severity, rfl, hnames⟩ := names_of_level? hname
    rw [hglobal, hvalue, Option.bind_some, hname, threshold_name]
    rcases hoption : p.value? .logLevel with _ | value'
    · have hset : s.given? "TEXTPROMPT_LOG_LEVEL" = some value := by simpa [valueOr, hoption] using hvalue
      exact .environment hoption hset hnames
    · obtain rfl : value' = value := by simpa [valueOr, hoption] using hvalue
      exact .option hoption hnames

/-! ## The file for the log -/

/-- neither the command line nor the environment names a file: an empty name on the command line is none, and keeps the
environment from being asked -/
def NoLogFile (s : Surroundings) (p : Parsed) : Prop :=
  p.value? .logFile = some "" ∨ p.value? .logFile = none ∧ s.given? "TEXTPROMPT_LOG_FILE" = none

/-- the file for the log, by the places that are asked for it -/
inductive LogFileInForce (s : Surroundings) (p : Parsed) (v : Value) : String → Prop where
  | option {file : String} (given : p.value? .logFile = some file) (named : file ≠ "") : LogFileInForce s p v file
  | environment {file : String} (unsaid : p.value? .logFile = none)
    (given : s.given? "TEXTPROMPT_LOG_FILE" = some file) : LogFileInForce s p v file
  | file {e : Value} {file : String} (silent : NoLogFile s p) (entry : v.get? "log_file" = some e)
    (text : e.root = .scalar (.text file)) (named : file ≠ "") : LogFileInForce s p v file
  | builtIn (silent : NoLogFile s p) (blank : ∀ e, v.get? "log_file" = some e → e.isBlank = true) :
    LogFileInForce s p v Settings.standardLogFile

theorem logFileInForce {path : Path} (h : Asks s words p o g q) (hoff : ReadOff v c)
    (hpath : Settings.logPath s (some (c.overridden s)) g.logFile = .ok path) :
    ∃ file, LogFileInForce s p v file ∧ s.expandHome? (.ofText file) = some path := by
  have hglobal : g.logFile = valueOr p .logFile s "TEXTPROMPT_LOG_FILE" := by rw [h.globals]
  unfold Settings.logPath at hpath
  obtain ⟨raw, hraw, hexpand⟩ := exists_of_bind_ok hpath
  rcases Settings.nonempty?_cases g.logFile with ⟨file, hfile, hnamed, hgiven⟩ | ⟨hempty, hgiven⟩
  · simp only [hgiven] at hraw
    obtain ⟨text, htext, rfl⟩ := Settings.pathOf_ok hraw
    obtain rfl : file = text := by simpa [Value.ofText] using htext
    refine ⟨file, ?_, Settings.expanded_ok hexpand⟩
    rw [hglobal] at hfile
    rcases hoption : p.value? .logFile with _ | file'
    · exact .environment hoption (by simpa [valueOr, hoption] using hfile)
    · obtain rfl : file' = file := by simpa [valueOr, hoption] using hfile
      exact .option hoption hnamed
  · have hsilent : NoLogFile s p := by
      rw [hglobal] at hempty
      rcases hoption : p.value? .logFile with _ | file'
      · refine Or.inr ⟨hoption, ?_⟩
        -- a variable that is empty counts as missing
        have hset : s.given? "TEXTPROMPT_LOG_FILE" ≠ some "" := by simp [Surroundings.given?, Option.filter_eq_some_iff]
        simpa [valueOr, hoption, hset] using hempty
      · exact Or.inl (by simpa [valueOr, hoption] using hempty)
    simp only [hgiven, Settings.overridden] at hraw
    split_ifs at hraw with hblank
    · obtain ⟨text, htext, rfl⟩ := Settings.pathOf_ok hraw
      obtain rfl : Settings.standardLogFile = text := by simpa [Value.ofText] using htext
      refine ⟨_, .builtIn hsilent ?_, Settings.expanded_ok hexpand⟩
      intro e hentry
      simpa [hoff.logFile, hentry] using hblank
    · obtain ⟨text, htext, rfl⟩ := Settings.pathOf_ok hraw
      rcases hentry : v.get? "log_file" with _ | e
      · simp [hoff.logFile, hentry, Yaml.null, Value.isBlank] at hblank
      · have hroot : e.root = .scalar (.text text) := by simpa [hoff.logFile, hentry] using htext
        refine ⟨text, .file hsilent hentry hroot ?_, Settings.expanded_ok hexpand⟩
        rintro rfl
        simp [hoff.logFile, hentry, Value.isBlank, hroot] at hblank

/-! ## The cancel label -/

/-- the label of the cancel button, by the places that are asked for it -/
inductive CancelLabelInForce (s : Surroundings) (o : Parsed) (v : Value) : String → Prop where
  | option {label : String} (given : o.value? .cancel = some label) (named : label ≠ "") :
    CancelLabelInForce s o v label
  | environment {label : String} (unsaid : o.value? .cancel = some "" ∨ o.value? .cancel = none)
    (given : s.given? "TEXTPROMPT_CANCEL_LABEL" = some label) : CancelLabelInForce s o v label
  | file {e : Value} {label : String} (unsaid : o.value? .cancel = some "" ∨ o.value? .cancel = none)
    (unset : s.given? "TEXTPROMPT_CANCEL_LABEL" = none) (entry : v.get? "default_cancel_label" = some e)
    (shown : e.text = .ok label) : CancelLabelInForce s o v label
  | builtIn (unsaid : o.value? .cancel = some "" ∨ o.value? .cancel = none)
    (unset : s.given? "TEXTPROMPT_CANCEL_LABEL" = none) (missing : v.get? "default_cancel_label" = none) :
    CancelLabelInForce s o v "Cancel"

theorem cancelLabelInForce (h : Asks s words p o g q) (hoff : ReadOff v c) (threshold : Nat) :
    CancelLabelInForce s o v (controlLabel (Application.scene ⟨q, c.overridden s⟩ threshold)
      (Application.request ⟨q, c.overridden s⟩) .cancel) := by
  have hlabel : controlLabel (Application.scene ⟨q, c.overridden s⟩ threshold)
      (Application.request ⟨q, c.overridden s⟩) .cancel =
        (Settings.nonempty? q.cancelLabel).getD (c.overridden s).cancelLabel := by
    rcases hq : q.cancelLabel with _ | label
    · simp [controlLabel, Request.resolvedCancelLabel, Application.request, Application.scene, Settings.nonempty?, hq]
    · by_cases hlabel : label = "" <;>
        simp [controlLabel, Request.resolvedCancelLabel, Application.request, Application.scene, Settings.nonempty?,
          Option.filter, hq, hlabel]
  rw [hlabel]
  rcases Settings.nonempty?_cases q.cancelLabel with ⟨label, hsaid, hnamed, hgiven⟩ | ⟨hempty, hgiven⟩
  · rw [hgiven, Option.getD_some]
    exact .option (h.cancelLabel ▸ hsaid) hnamed
  · rw [h.cancelLabel] at hempty
    rw [hgiven, Option.getD_none]
    rcases hset : s.given? "TEXTPROMPT_CANCEL_LABEL" with _ | label
    · have hkept : (c.overridden s).cancelLabel = c.cancelLabel := by simp [Settings.overridden, hset]
      rw [hkept]
      rcases textEntry_ok hoff.label with ⟨e, hentry, hshown⟩ | ⟨hentry, hdefault⟩
      · exact .file hempty hset hentry hshown
      · rw [hdefault]
        exact .builtIn hempty hset hentry
    · have hover : (c.overridden s).cancelLabel = label := by simp [Settings.overridden, hset]
      rw [hover]
      exact .environment hempty hset

/-! ## The escape key -/

/-- does the escape key dismiss the prompt, by the places that are asked? -/
inductive EscapeInForce (s : Surroundings) (v : Value) : Bool → Prop where
  | yes {word : String} (given : s.value? "TEXTPROMPT_ESCAPE_DISMISSES" = some word)
    (known : Text.toSmall word ∈ Settings.trueWords) : EscapeInForce s v true
  | no {word : String} (given : s.value? "TEXTPROMPT_ESCAPE_DISMISSES" = some word)
    (known : Text.toSmall word ∈ Settings.falseWords) : EscapeInForce s v false
  | file {e : Value} {b : Bool}
    (unknown : ∀ word, s.value? "TEXTPROMPT_ESCAPE_DISMISSES" = some word →
      Text.toSmall word ∉ Settings.trueWords ++ Settings.falseWords)
    (entry : v.get? "escape_dismisses" = some e) (switch : e.root = .scalar (.bool b)) : EscapeInForce s v b
  | builtIn
    (unknown : ∀ word, s.value? "TEXTPROMPT_ESCAPE_DISMISSES" = some word →
      Text.toSmall word ∉ Settings.trueWords ++ Settings.falseWords)
    (missing : v.get? "escape_dismisses" = none) : EscapeInForce s v true

theorem switchEntry_ok {b : Bool} (h : Settings.switchEntry v = .ok b) :
    (∃ e, v.get? "escape_dismisses" = some e ∧ e.root = .scalar (.bool b)) ∨
      v.get? "escape_dismisses" = none ∧ b = true := by
  unfold Settings.switchEntry at h
  rcases he : v.get? "escape_dismisses" with _ | e
  · simp only [he, Except.ok.injEq] at h
    exact Or.inr ⟨rfl, h.symm⟩
  · simp only [he] at h
    split at h
    · rename_i b' hroot
      obtain rfl := Except.ok.inj h
      exact Or.inl ⟨e, rfl, hroot⟩
    · rcases hshown : e.quoted with fault | shown
      · simp [hshown, Settings.ofValue, Except.mapError, Except.bind] at h
      · simp [hshown, Settings.ofValue, Except.mapError, Except.bind] at h

theorem escapeInForce (hoff : ReadOff v c) : EscapeInForce s v (c.overridden s).escapeDismisses := by
  have hfile (hunknown : ∀ word, s.value? "TEXTPROMPT_ESCAPE_DISMISSES" = some word →
      Text.toSmall word ∉ Settings.trueWords ++ Settings.falseWords) : EscapeInForce s v c.escapeDismisses := by
    rcases switchEntry_ok hoff.escape with ⟨e, hentry, hswitch⟩ | ⟨hentry, hdefault⟩
    · exact .file hunknown hentry hswitch
    · rw [hdefault]
      exact .builtIn hunknown hentry
  have hempty : Text.toSmall "" ∉ Settings.trueWords ++ Settings.falseWords := by decide +kernel
  rcases hvalue : s.value? "TEXTPROMPT_ESCAPE_DISMISSES" with _ | word
  · have hkept : (c.overridden s).escapeDismisses = c.escapeDismisses := by
      simp [Settings.overridden, Surroundings.given?, hvalue]
    rw [hkept]
    exact hfile fun word hword => by cases hvalue.symm.trans hword
  · by_cases hword : word = ""
    · have hkept : (c.overridden s).escapeDismisses = c.escapeDismisses := by
        simp [Settings.overridden, Surroundings.given?, hvalue, hword, Option.filter]
      rw [hkept]
      refine hfile fun word' hword' => ?_
      obtain rfl := Option.some.inj (hvalue.symm.trans hword')
      rwa [hword]
    · have hover : (c.overridden s).escapeDismisses = (Settings.switch? word).getD c.escapeDismisses := by
        simp [Settings.overridden, Surroundings.given?, hvalue, hword, Option.filter]
      rw [hover, Settings.switch?]
      split_ifs with htrue hfalse
      · exact .yes hvalue (by simpa using htrue)
      · exact .no hvalue (by simpa using hfalse)
      · refine hfile fun word' hword' => ?_
        obtain rfl := Option.some.inj (hvalue.symm.trans hword')
        simpa using ⟨by simpa using htrue, by simpa using hfalse⟩

/-! ## All of them -/

/-- What is in force once the prompt of this application is shown, for the words in front of the command and behind it,
the one file and the value it holds. -/
structure InForce (s : Surroundings) (words : List String) (p o : Parsed) (file? : Option Path) (v : Value)
    (a : Application) (log : Logbook) : Prop where
  front : Command.main.grammar.readWords words = .ok p
  behind : ∃ rest, p.operands = "ask" :: rest ∧ Command.ask.grammar.readWords rest = .ok o
  file : ConfigurationFile s (o.value? .config) file?
  held : Holds s file? v
  level : LevelInForce s p v log.threshold
  /-- the one handler of the log writes to the file, with its home directory in full -/
  logFile : ∃ file path number, LogFileInForce s p v file ∧ s.expandHome? (.ofText file) = some path ∧
    log.handlers = [.file (path.absolute s.cwd) number]
  cancelLabel : ∀ threshold, CancelLabelInForce s o v (controlLabel (a.scene threshold) a.request .cancel)
  escape : ∀ threshold, EscapeInForce s v (a.scene threshold).escapeDismisses

theorem inForce_shown {play : Play} (h : Shown words play log s a g log' s') :
    ∃ p o file? v, InForce s words p o file? v a (run words play log s).log := by
  obtain ⟨p, o, hasks⟩ := asks_ofWords h.asked
  have hconfigured := h.configured
  unfold settingsFor at hconfigured
  rcases hload : Settings.load s a.question.config with t | c
  · simp [hload, Except.map] at hconfigured
  · simp only [hload, Except.map, Except.ok.injEq] at hconfigured
    obtain ⟨file?, v, hfile, hheld, hoff⟩ := readOff_load hasks.named hload
    have hsettings : a = ⟨a.question, c.overridden s⟩ := by rw [hconfigured]
    have hup := h.opened
    rw [← hconfigured] at hup
    obtain ⟨path, _, _, hpath, -, -, hlog⟩ := setUp_ok hup
    obtain ⟨path', hpath', hkept⟩ := keptIn_setUp hup
    obtain rfl := Except.ok.inj (hpath.symm.trans hpath')
    obtain ⟨file, hlogFile, hexpand⟩ := logFileInForce hasks hoff hpath
    obtain ⟨number, hhandlers, -⟩ := hkept.addAll (a.play log'.effective play).records
    refine ⟨p, o, file?, v, hasks.front, hasks.behind, hasks.config ▸ hfile, hheld, ?_, ?_, ?_, ?_⟩
    · rw [h.logged, threshold_addAll, hlog]
      dsimp only
      exact levelInForce hasks hoff
    · exact ⟨file, path, number, hlogFile, hexpand, by rw [h.logged, hhandlers]⟩
    · intro threshold
      rw [hsettings]
      exact cancelLabelInForce hasks hoff threshold
    · intro threshold
      rw [hsettings]
      exact escapeInForce hoff

/-- A level in the environment that is none, and is not overridden, refuses the words. -/
theorem ofWords_badLevel {value : String} (hwords : Command.main.grammar.readWords words = .ok p)
    (hasked : ∀ given ∈ p.given, given.1 ≠ .help ∧ given.1 ≠ .version) (hunsaid : p.value? .logLevel = none)
    (hset : s.given? "TEXTPROMPT_LOG_LEVEL" = some value) (hbad : ∀ severity, ¬ Names value severity) :
    ∃ r, Task.ofWords s words = .error r ∧
      (r = .silence ∨ r = .complaint .main (.badLevel value) ∨ r = .nullByte) := by
  have hvalue : valueOr p .logLevel s "TEXTPROMPT_LOG_LEVEL" = some value := by simp [valueOr, hunsaid, hset]
  have hlevel : level? value = none := by
    rcases hnone : level? value with _ | name
    · rfl
    · obtain ⟨severity, -, hnames⟩ := names_of_level? hnone
      exact absurd hnames (hbad severity)
  have hcheck : checkGlobal .logLevel p s = .error (.complaint .main (.badLevel value)) := by
    simp [checkGlobal, hvalue, hlevel]
  have hfirst := firstRequest_ok hasked .main
  have hkinds : ∀ o r, checkGlobal o p s = .error r → r = .complaint .main (.badLevel value) ∨ r = .nullByte := by
    intro o r hr
    cases o with
    | logLevel => exact Or.inl (Except.error.inj (hr.symm.trans hcheck))
    | logFile =>
      refine Or.inr ?_
      simp only [checkGlobal, stands] at hr
      split at hr
      · split_ifs at hr
        · cases hr
        · split at hr
          · cases hr
          · cases hr
          · exact (Except.error.inj hr).symm
          · cases hr
      · cases hr
    | _ => cases hr
  by_cases hnil : words = []
  · exact ⟨.silence, by simp [Task.ofWords, readGlobals, hnil, bind, Except.bind], Or.inl rfl⟩
  · rcases readGlobals_checks (s := s) hnil hwords hfirst with ⟨-, hok, -⟩ | ⟨o, r, hr, hglobals⟩
    · cases hok.symm.trans hcheck
    · refine ⟨r, ?_, Or.inr (hkinds o r hr)⟩
      rw [Task.ofWords, hglobals]
      rfl

/-- **The settings in force.** Every run that comes to show its prompt does so with the settings that their places say,
one after another; a run with a level in the environment that is none, none on the command line, and nothing asked to be
printed, is refused before it does anything. -/
theorem settings_in_force :
    (∀ (words : List String) (play : Play) (log : Logbook) (s : Surroundings) (a : Application),
      (run words play log s).ending.application = some a →
        ∃ p o file? v, InForce s words p o file? v a (run words play log s).log) ∧
    ∀ (words : List String) (play : Play) (log : Logbook) (s : Surroundings) (p : Parsed) (value : String),
      Command.main.grammar.readWords words = .ok p →
        (∀ given ∈ p.given, given.1 ≠ .help ∧ given.1 ≠ .version) → p.value? .logLevel = none →
          s.given? "TEXTPROMPT_LOG_LEVEL" = some value → (∀ severity, ¬ Names value severity) →
            ∃ r, run words play log s = ⟨.refused r, log, s⟩ ∧
              (r = .silence ∨ r = .complaint .main (.badLevel value) ∨ r = .nullByte) := by
  constructor
  · intro words play log s a happ
    obtain ⟨g, log', s', h⟩ := shown_of_application happ
    exact inForce_shown h
  · intro words play log s p value hwords hasked hunsaid hset hbad
    obtain ⟨r, htask, hr⟩ := ofWords_badLevel hwords hasked hunsaid hset hbad
    exact ⟨r, by simp only [run, htask], hr⟩

/-- a level in the environment that is none -/
def loud : Surroundings := { quiet with environment := ("TEXTPROMPT_LOG_LEVEL", "loud") :: quiet.environment }

theorem loud_unnamed : ∀ severity, ¬ Names "loud" severity := by
  intro severity h
  have hcase := h.anyCase
  revert hcase
  cases severity <;> decide +kernel

/-! ### A file with settings, and options -/

/-- what the file says -/
def fileText : String := "log_file: l\nlog_level: ERROR\nescape_dismisses: false\ndefault_cancel_label: Back\n"

/-- settings in a file, and nothing else around -/
def configured : Surroundings := { Surroundings.bare with tree := .oneFile "c" fileText.toUTF8 }

/-- an `ask` with that file; its options say another level and another label -/
def configuredWords : List String := ["--log-level", "info", "ask", "-c", "c", "--cancel", "No", "t"]

def configuredQuestion : Question := ⟨"t", none, "OK", none, some "No", false, some "c"⟩

/-- what the file holds -/
def configuredValue : Value :=
  ⟨[(0, .mapping [(.scalar (.text "log_file"), .scalar (.text "l")),
    (.scalar (.text "log_level"), .scalar (.text "ERROR")),
    (.scalar (.text "escape_dismisses"), .scalar (.bool false)),
    (.scalar (.text "default_cancel_label"), .scalar (.text "Back"))]), (0, .mapping [])], .cell 0⟩

def configuredSettings : Settings :=
  ⟨"Back", false, "ERROR", ⟨configuredValue.cells, .scalar (.text "l")⟩, some "c"⟩

theorem read_configured : configured.read (.ofText "c") = .ok fileText.toUTF8 :=
  Surroundings.read_eq_ok_iff.2 ⟨["c"], by rw [Path.ofText_oneLetter]; decide +kernel, rfl⟩

theorem parse_configured : Value.parse fileText.toList = .ok configuredValue := by decide +kernel

theorem decode_configured : String.fromUTF8? fileText.toUTF8 = some fileText := dif_pos (String.isValidUTF8 _)

theorem load_configured : Settings.load configured (some "c") = .ok configuredSettings := by
  have hname : (Path.ofText "c").text = "c" := by
    rw [Path.ofText_oneLetter]
    rfl
  rw [Settings.load_of_read (by decide) read_configured, hname, Settings.ofBytes, decode_configured]
  simp only [parse_configured]
  rfl

theorem settingsFor_configured : settingsFor configured (some "c") = .ok configuredSettings := by
  rw [settingsFor, load_configured]
  rfl

theorem frontWords_configured :
    Command.main.grammar.readWords configuredWords =
      .ok ⟨[(.logLevel, "info")], ["ask", "-c", "c", "--cancel", "No", "t"]⟩ := by
  decide +kernel

theorem ownWords_configured :
    Command.ask.grammar.readWords ["-c", "c", "--cancel", "No", "t"] =
      .ok ⟨[(.config, "c"), (.cancel, "No")], ["t"]⟩ := by
  decide +kernel

theorem level?_eq_info {value : String} (hdebug : "DEBUG".toLower ≠ value.toLower)
    (hinfo : "INFO".toLower = value.toLower) : level? value = some "INFO" := by
  simp [level?, levelChoices, hdebug, hinfo]

theorem readGlobals_configured : readGlobals configured configuredWords =
    .ok (⟨some "INFO", none⟩, ["ask", "-c", "c", "--cancel", "No", "t"]) := by
  have hlevel : level? "info" = some "INFO" := level?_eq_info (by decide +kernel) (by cbv)
  have hvalue (rest : List String) : valueOr ⟨[(.logLevel, "info")], rest⟩ .logLevel configured "TEXTPROMPT_LOG_LEVEL" =
      some "info" := rfl
  have hsilent (rest : List String) : valueOr ⟨[(.logLevel, "info")], rest⟩ .logFile configured "TEXTPROMPT_LOG_FILE" =
      none := rfl
  have hchecked (rest : List String) : checkGlobal .logLevel ⟨[(.logLevel, "info")], rest⟩ configured = .ok () := by
    simp only [checkGlobal, hvalue]
    exact if_pos (hlevel ▸ rfl)
  have hfile (rest : List String) : checkGlobal .logFile ⟨[(.logLevel, "info")], rest⟩ configured = .ok () := by
    simp only [checkGlobal, hsilent]
  have hread := readGlobals_of_checks (List.cons_ne_nil _ _) frontWords_configured rfl (hchecked _) (hfile _)
  rw [hvalue, hsilent, Option.bind_some, hlevel] at hread
  exact hread

theorem readQuestion_configured :
    readQuestion configured ["-c", "c", "--cancel", "No", "t"] = .ok configuredQuestion := by
  have hthere : stands configured "c" = .ok true := by
    have hname : namesDirectory "c" = false := by cbv
    have hfound : configured.find (.ofText "c") = .ok (["c"], .file 0) := by
      rw [Path.ofText_oneLetter]
      rfl
    exact stands_file (by decide) hname hfound
  have hconfig : checkConfig .ask ⟨[(.config, "c"), (.cancel, "No")], ["t"]⟩ configured = .ok (some "c") :=
    checkConfig_of_stands rfl hthere
  have hown : readOwn .ask ["-c", "c", "--cancel", "No", "t"] = .ok ⟨[(.config, "c"), (.cancel, "No")], ["t"]⟩ := by
    simp only [readOwn, ownWords_configured]
    rfl
  simp only [readQuestion, hown, hconfig, bind, Except.bind]
  rfl

theorem ofWords_configured :
    Task.ofWords configured configuredWords = .ok (.ask ⟨some "INFO", none⟩ configuredQuestion) := by
  rw [Task.ofWords, readGlobals_configured]
  show (readQuestion configured ["-c", "c", "--cancel", "No", "t"]).bind
    (fun q => .ok (Task.ask ⟨some "INFO", none⟩ q)) = _
  rw [readQuestion_configured]
  rfl

theorem ofText_logName : Path.ofText "l" = ⟨.here, ["l"]⟩ := by cbv

/-- the prompt comes up there -/
theorem application_configured :
    (run configuredWords (.gestures []) .untouched configured).ending.application =
      some ⟨configuredQuestion, configuredSettings⟩ := by
  have hpath : Settings.logPath configured (some configuredSettings) none = .ok ⟨.here, ["l"]⟩ := by
    show Settings.expanded configured (.ofText "l") = _
    rw [ofText_logName]
    rfl
  have hclean : (setUp (some configuredSettings) ⟨some "INFO", none, false⟩ configured).1 = none := by
    simp only [setUp, hpath]
    rfl
  have hup : setUp (some configuredSettings) ⟨some "INFO", none, false⟩ configured =
      (none, (setUp (some configuredSettings) ⟨some "INFO", none, false⟩ configured).2) := Prod.ext hclean rfl
  rw [(run_ask (.gestures []) .untouched ofWords_configured settingsFor_configured hup).2]
  exact application_endingOf _ _

/-- The options come before the file, the file before what is built in. -/
theorem inForce_configured (h : InForce configured configuredWords p o file? v a log) :
    log.threshold = Severity.info.rank ∧ (∃ number, log.handlers = [.file ⟨.root, ["l"]⟩ number]) ∧
      ∀ threshold, controlLabel (a.scene threshold) a.request .cancel = "No" ∧
        (a.scene threshold).escapeDismisses = false := by
  obtain rfl := Except.ok.inj (frontWords_configured.symm.trans h.front)
  obtain ⟨rest, hrest, hown⟩ := h.behind
  obtain rfl : ["-c", "c", "--cancel", "No", "t"] = rest := (List.cons.inj hrest).2
  obtain rfl := Except.ok.inj (ownWords_configured.symm.trans hown)
  obtain rfl : configuredValue = v := by
    have hfile := h.file
    have hheld := h.held
    cases hfile with
    | asked named there =>
      cases hheld with
      | file read decoded parsed =>
        obtain rfl := Except.ok.inj (read_configured.symm.trans read)
        obtain rfl := Option.some.inj (decode_configured.symm.trans decoded)
        exact Except.ok.inj (parse_configured.symm.trans parsed)
  have hunset (name : String) : configured.given? name = none := rfl
  refine ⟨?_, ?_, fun threshold => ⟨?_, ?_⟩⟩
  · have hlevel := h.level
    generalize log.threshold = rank at hlevel
    cases hlevel with
    | @option value severity given names =>
      obtain rfl : "info" = value := Option.some.inj given
      have hcase := names.anyCase
      cases severity with
      | info => rfl
      | _ => exact absurd hcase (by decide +kernel)
    | environment unsaid _ _ => cases unsaid
    | file unsaid _ _ _ _ => cases unsaid
    | builtIn unsaid _ _ => cases unsaid
  · obtain ⟨file, path, number, hfile, hexpand, hhandlers⟩ := h.logFile
    obtain rfl : "l" = file := by
      cases hfile with
      | option given _ => cases given
      | environment _ given => cases given
      | file _ entry text _ =>
        obtain rfl := Option.some.inj entry
        exact Scalar.text.inj (Item.scalar.inj text)
      | builtIn _ blank => exact absurd (blank _ rfl) (by decide +kernel)
    rw [ofText_logName] at hexpand
    obtain rfl : ⟨.here, ["l"]⟩ = path := Option.some.inj hexpand
    exact ⟨number, hhandlers⟩
  · have hlabel := h.cancelLabel threshold
    generalize controlLabel (a.scene threshold) a.request .cancel = label at hlabel
    cases hlabel with
    | option given _ => exact (Option.some.inj given).symm
    | environment unsaid _ => exact absurd unsaid (by decide)
    | file unsaid _ _ _ => exact absurd unsaid (by decide)
    | builtIn unsaid _ _ => exact absurd unsaid (by decide)
  · have hescape := h.escape threshold
    generalize (a.scene threshold).escapeDismisses = b at hescape
    cases hescape with
    | yes given _ => cases given
    | no given _ => rfl
    | file _ entry switch =>
      obtain rfl := Option.some.inj entry
      exact (Scalar.bool.inj (Item.scalar.inj switch)).symm
    | builtIn _ missing => cases missing

/-- a question that is asked with settings from a file and options, one that is asked in quiet surroundings, and one
that is not asked in loud ones -/
theorem settings_in_force_asked :
    (let ran := run configuredWords (.gestures []) .untouched configured
     ran.log.threshold = Severity.info.rank ∧ (∃ number, ran.log.handlers = [.file ⟨.root, ["l"]⟩ number]) ∧
       ∃ a, ran.ending.application = some a ∧ ∀ threshold,
         controlLabel (a.scene threshold) a.request .cancel = "No" ∧ (a.scene threshold).escapeDismisses = false) ∧
      (run ["ask", "-a", "Open", "t"] (.gestures []) .untouched quiet).ending.application = some opening ∧
      (∃ p o file? v, InForce quiet ["ask", "-a", "Open", "t"] p o file? v opening
        (run ["ask", "-a", "Open", "t"] (.gestures []) .untouched quiet).log) ∧
      ∃ r, run ["ask", "t"] (.gestures []) .untouched loud = ⟨.refused r, .untouched, loud⟩ := by
  have hconfigured : ∃ p o file? v, InForce configured configuredWords p o file? v
      ⟨configuredQuestion, configuredSettings⟩ (run configuredWords (.gestures []) .untouched configured).log :=
    settings_in_force.1 _ _ _ _ _ application_configured
  obtain ⟨_, _, _, _, hinforce⟩ := hconfigured
  obtain ⟨hlevel, hfile, hrest⟩ := inForce_configured hinforce
  have hwords : Command.ask.grammar.readWords ["-a", "Open", "t"] = .ok ⟨[(.alternate, "Open")], ["t"]⟩ := by
    decide +kernel
  have hq : readQuestion quiet ["-a", "Open", "t"] = .ok opening.question := by
    simp only [readQuestion, readOwn, hwords]
    rfl
  have happ : (run ["ask", "-a", "Open", "t"] (.gestures []) .untouched quiet).ending.application = some opening := by
    rw [(run_quiet _ hq rfl).2]
    exact application_endingOf _ _
  refine ⟨⟨hlevel, hfile, _, application_configured, hrest⟩, happ, settings_in_force.1 _ _ _ _ _ happ, ?_⟩
  have hnothing : ∀ given ∈ ([] : List (Parameter × String)), given.1 ≠ .help ∧ given.1 ≠ .version := by
    intro given hgiven
    cases hgiven
  obtain ⟨r, hr, -⟩ := settings_in_force.2 ["ask", "t"] (.gestures []) .untouched loud ⟨[], ["ask", "t"]⟩ "loud" rfl
    hnothing rfl rfl loud_unnamed
  exact ⟨r, hr⟩

end LinePrompt.CommandLine
