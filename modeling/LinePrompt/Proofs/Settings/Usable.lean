/-
What settings from a file are good for.

A file gives each setting a value of any type. The label and the level are kept as texts, and the switch is refused
unless it is a truth value; but what stands for the file of the log is kept as it was found. A value that counts as
nothing is as good as none, and a text is a path. Anything else is `Mistyped`: the check of the settings and the search
for the path of the log both fail by its type, whatever there is around them (`fails_of_mistyped`). With all others they
come to something, if they are not without a home directory (`serves`).

`loaded_usable` says so of all settings that can be loaded.
-/
import LinePrompt.Proofs.Settings.Documents
import LinePrompt.Proofs.Settings.Validation

namespace LinePrompt.Settings

open LinePrompt.Files LinePrompt.CommandLine LinePrompt.Log LinePrompt.Yaml Surroundings

variable {s : Surroundings} {request : Option String} {c : Settings} {v : Value} {p : Path}

/-! ## The level -/

theorem thresholdOfName?_cases (name : String) :
    thresholdOfName? name = none ∨ thresholdOfName? name = some 0 ∨
      ∃ severity : Severity, thresholdOfName? name = some severity.rank := by
  unfold thresholdOfName?
  split_ifs
  · exact Or.inr (Or.inl rfl)
  · rcases Severity.ofName? name with _ | severity
    · exact Or.inl rfl
    · exact Or.inr (Or.inr ⟨severity, rfl⟩)

/-- whatever the level is called, it comes to a threshold -/
theorem threshold_cases (c : Settings) :
    threshold (some c) none = 0 ∨ ∃ severity : Severity, threshold (some c) none = severity.rank := by
  rw [threshold_unsaid]
  rcases thresholdOfName?_cases (Text.toCapitals c.logLevel) with h | h | ⟨severity, h⟩
  · exact Or.inr ⟨.warning, by rw [h]; rfl⟩
  · exact Or.inl (by rw [h]; rfl)
  · exact Or.inr ⟨severity, by rw [h]; rfl⟩

/-! ## The file for the log -/

/-- a value that is there, and is no text -/
structure Mistyped (v : Value) : Prop where
  there : ¬ v.isBlank = true
  untexted : ∀ text, v.root ≠ .scalar (.text text)

/-- the trouble with a value that is no path -/
def typeTrouble (v : Value) : Trouble :=
  match v.root with
  | .scalar (.bytes _) => .bytesPath
  | _ => .noPath v.typeName

theorem pathOf_mistyped (h : Mistyped v) : pathOf v = .error (typeTrouble v) := by
  unfold pathOf typeTrouble
  split
  · rename_i text root
    exact absurd root (h.untexted text)
  · rename_i bytes root
    rw [root]
  · rename_i hbytes
    split
    · rename_i bytes root
      exact absurd root (hbytes bytes)
    · rfl

/-- the check of the settings and the search for the path of the log fail by the type of the file -/
structure Fails (c : Settings) (s : Surroundings) : Prop where
  checked : c.errors s = .error (typeTrouble c.logFile)
  path : logPath s (some c) none = .error (typeTrouble c.logFile)

theorem fails_of_mistyped (h : Mistyped c.logFile) (s : Surroundings) : Fails c s where
  checked := by
    have hfile : c.logFileErrors s = .error (typeTrouble c.logFile) := by
      unfold logFileErrors
      rw [if_neg h.there, pathOf_mistyped h]
      rfl
    rw [errors_eq, hfile]
    rfl
  path := by
    have hnone : nonempty? none = none := rfl
    simp only [logPath, hnone, if_neg h.there, pathOf_mistyped h, Except.bind]

/-- the settings name a file for the log by a tilde that stands for no home directory, and this is the trouble -/
inductive Homeless (c : Settings) (s : Surroundings) : Trouble → Prop where
  | named {text : String} (root : c.logFile.root = .scalar (.text text)) (said : text ≠ "")
    (lost : s.expandHome? (.ofText text) = none) : Homeless c s (homeTrouble (.ofText text))
  | usual (blank : c.logFile.isBlank = true) (lost : s.expandHome? (.ofText standardLogFile) = none) :
    Homeless c s .noHome

theorem homeTrouble_standardLogFile : homeTrouble (.ofText standardLogFile) = .noHome := by
  have hpath : Path.ofText standardLogFile = ⟨.here, ["~", ".textprompt", "textprompt.log"]⟩ := by
    refine Path.ofText_text (p := ⟨.here, ["~", ".textprompt", "textprompt.log"]⟩) (List.cons_ne_nil _ _) ?_
    simp only [List.forall_mem_cons]
    exact ⟨⟨by decide, by decide, by decide⟩, ⟨by decide, by decide, by decide⟩, ⟨by decide, by decide, by decide⟩,
      List.forall_mem_nil _⟩
  rw [hpath]
  rfl

theorem isThere_error {f : Files.Fault} (h : s.isThere p = .error f) : f = ⟨.nameTooLong, p.text⟩ := by
  unfold isThere at h
  split at h
  · cases h
  · exact (Except.error.inj h).symm
  · cases h

/-- they come to messages and to a path, unless there is no home directory, or the names above the file are too long -/
structure Serves (c : Settings) (s : Surroundings) : Prop where
  checked : (∃ errors, c.errors s = .ok errors) ∨ (∃ t, Homeless c s t ∧ c.errors s = .error t) ∨
    ∃ p, NamesFile c s p ∧ c.errors s = .error (.files ⟨.nameTooLong, p.parent.text⟩)
  path : (∃ p, LogsTo c s p ∧ logPath s (some c) none = .ok p) ∨
    ∃ t, Homeless c s t ∧ logPath s (some c) none = .error t

theorem serves_blank (blank : c.logFile.isBlank = true) (s : Surroundings) : Serves c s where
  checked := by
    have hfile : c.logFileErrors s = .ok [] := by
      unfold logFileErrors
      rw [if_pos blank]
    rw [errors_eq, hfile]
    exact Or.inl ⟨_, rfl⟩
  path := by
    rcases hexpand : s.expandHome? (.ofText standardLogFile) with _ | p
    · refine Or.inr ⟨_, .usual blank hexpand, ?_⟩
      have hnone : nonempty? none = none := rfl
      simp only [logPath, hnone, if_pos blank, pathOf, Value.ofText, Except.bind, expanded, hexpand,
        homeTrouble_standardLogFile]
    · have hlogs : LogsTo c s p := .usual blank hexpand
      exact Or.inl ⟨p, hlogs, hlogs.logPath⟩

theorem serves_text {text : String} (root : c.logFile.root = .scalar (.text text)) (said : text ≠ "")
    (s : Surroundings) : Serves c s := by
  have hblank : ¬ c.logFile.isBlank = true := fun h => said ((isBlank_text root).1 h)
  rcases hexpand : s.expandHome? (.ofText text) with _ | p
  · have hhomeless : Homeless c s (homeTrouble (.ofText text)) := .named root said hexpand
    constructor
    · refine Or.inr (Or.inl ⟨_, hhomeless, ?_⟩)
      rw [errors_eq, homeless_errors root said hexpand]
      rfl
    · refine Or.inr ⟨_, hhomeless, ?_⟩
      have hnone : nonempty? none = none := rfl
      simp only [logPath, hnone, if_neg hblank, pathOf, root, Except.bind, expanded, hexpand]
  · have hnames : NamesFile c s p := .text root said hexpand
    constructor
    · rw [errors_eq, logFileErrors_named hnames]
      rcases hthere : s.isThere p.parent with f | there
      · obtain rfl := isThere_error hthere
        exact Or.inr (Or.inr ⟨p, hnames, rfl⟩)
      · exact Or.inl (by cases there <;> exact ⟨_, rfl⟩)
    · exact Or.inl ⟨p, .named hnames, (LogsTo.named hnames).logPath⟩

theorem serves (h : ¬ Mistyped c.logFile) (s : Surroundings) : Serves c s := by
  by_cases hblank : c.logFile.isBlank = true
  · exact serves_blank hblank s
  · obtain ⟨text, root⟩ : ∃ text, c.logFile.root = .scalar (.text text) := by
      by_contra hnone
      exact h ⟨hblank, fun text root => hnone ⟨text, root⟩⟩
    have said : text ≠ "" := fun h => hblank ((isBlank_text root).2 h)
    exact serves_text root said s

/-! ## Settings that were loaded -/

/-- **Loaded settings, and what they are good for.** They are the standard ones, or those that the value in a file
holds. Their level comes to a threshold. With a mistyped file for the log, the check and the search for its path fail by
its type in all surroundings; with any other they serve. -/
theorem loaded_usable (h : load s request = .ok c) :
    (c = standard ∨ ∃ p v, LoadsFrom s request p ∧ Holds s (some p) v ∧ ReadOff v c) ∧
      (threshold (some c) none = 0 ∨ ∃ severity : Severity, threshold (some c) none = severity.rank) ∧
      (Mistyped c.logFile → ∀ s', Fails c s') ∧ (¬ Mistyped c.logFile → ∀ s', Serves c s') := by
  refine ⟨?_, threshold_cases c, fails_of_mistyped, serves⟩
  rcases loadsFrom_of_load h with hstandard | ⟨p, hfrom, hread⟩
  · exact Or.inl hstandard
  · obtain ⟨v, hholds, hoff⟩ := readOff_read hread
    exact Or.inr ⟨p, v, hfrom, hholds, hoff⟩

/-- settings with a list for the file of the log -/
def logToList : Settings :=
  { standard with
    logFile := ⟨[(2, .sequence [.scalar (.text "l")]), (0, .mapping [(.scalar (.text "log_file"), .cell 2)]),
      (2, .sequence []), (0, .mapping [])], .cell 2⟩
    source := some "/textprompt.yaml" }

theorem loaded_usable_list :
    load (holding "log_file: [l]\n") none = .ok logToList ∧
      ∀ s, logToList.errors s = .error (.noPath "list") ∧
        logPath s (some logToList) none = .error (.noPath "list") := by
  have hparse : Value.parse "log_file: [l]\n".toList = .ok (logToList.logFile.within (.cell 0)) := by decide +kernel
  have hload : load (holding "log_file: [l]\n") none = .ok logToList := by
    rw [load_holding hparse]
    rfl
  have hmistyped : Mistyped logToList.logFile := ⟨by decide, fun text h => nomatch h⟩
  obtain ⟨-, -, hfails, -⟩ := loaded_usable hload
  exact ⟨hload, fun s => ⟨(hfails hmistyped s).checked, (hfails hmistyped s).path⟩⟩

/-- settings with a number for it -/
def logToNumber : Settings :=
  { standard with
    logFile := ⟨[(0, .mapping [(.scalar (.text "log_file"), .scalar (.int 5))]), (0, .mapping [])], .scalar (.int 5)⟩
    source := some "/textprompt.yaml" }

/-- Settings can be loaded without having a text for the file of the log, or nothing; and then they are of no use. -/
theorem loaded_unusable :
    ¬ ∀ (s : Surroundings) (request : Option String) (c : Settings), load s request = .ok c →
      c.LogFileText ∧ ∀ s' t, c.errors s' = .error t ∨ logPath s' (some c) none = .error t →
        t ≠ typeTrouble c.logFile := by
  intro hall
  have hparse : Value.parse "log_file: 5\n".toList = .ok (logToNumber.logFile.within (.cell 0)) := by decide +kernel
  have hload : load (holding "log_file: 5\n") none = .ok logToNumber := by
    rw [load_holding hparse]
    rfl
  have hmistyped : Mistyped logToNumber.logFile := ⟨by decide, fun text h => nomatch h⟩
  obtain ⟨-, huseful⟩ := hall _ none _ hload
  exact huseful (holding "") _ (Or.inl (fails_of_mistyped hmistyped _).checked) rfl

end LinePrompt.Settings
