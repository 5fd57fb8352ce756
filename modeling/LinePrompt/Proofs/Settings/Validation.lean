/-
What settings without errors are good for.

Settings without errors name a level, and this is the threshold of the log that is set up by them. Their file for the
log is another matter: the check asks whether anything stands above the file, and nothing else. `Overlooks` lists what
it does not see, a file where there should be a directory first of all, and the usual file, which is not looked at.
Where nothing is overlooked the log is open at the path that the settings name; and where something is, it is not set
up, errors or none (`validated`). All this supposes that the working directory is where its names lead, as it is until
somebody moves it.
-/
import Mathlib
import LinePrompt.Proofs.Log.Opening
import LinePrompt.Proofs.Settings.RoundTrip

namespace LinePrompt.Settings

open LinePrompt.Files LinePrompt.Log Surroundings

variable {s : Surroundings} {c : Settings} {p full : Path} {terminal : Bool}

/-! ## The file that settings name -/

/-- the settings name a file for the log, and this is its path with the home directory in full -/
inductive NamesFile (c : Settings) (s : Surroundings) : Path → Prop where
  | text {text : String} {p : Path} (root : c.logFile.root = .scalar (.text text)) (said : text ≠ "")
    (expands : s.expandHome? (.ofText text) = some p) : NamesFile c s p

/-- where the log goes by the settings -/
inductive LogsTo (c : Settings) (s : Surroundings) : Path → Prop where
  | named {p : Path} (names : NamesFile c s p) : LogsTo c s p
  | usual {p : Path} (blank : c.logFile.isBlank = true) (expands : s.expandHome? (.ofText standardLogFile) = some p) :
    LogsTo c s p

theorem isBlank_text {text : String} (h : c.logFile.root = .scalar (.text text)) :
    c.logFile.isBlank = true ↔ text = "" := by
  unfold Yaml.Value.isBlank
  rw [h]
  exact beq_iff_eq

theorem NamesFile.not_blank (h : NamesFile c s p) : ¬ c.logFile.isBlank = true := by
  cases h with
  | text root said _ => exact fun hblank => said ((isBlank_text root).1 hblank)

theorem LogsTo.logPath (h : LogsTo c s p) : logPath s (some c) none = .ok p := by
  have hnone : nonempty? none = none := rfl
  cases h with
  | named names =>
    have hblank := names.not_blank
    cases names with
    | text root _ expands =>
      simp only [Settings.logPath, hnone, if_neg hblank, pathOf, root, Except.bind, expanded_eq expands]
  | usual blank expands =>
    simp only [Settings.logPath, hnone, if_pos blank, pathOf, Yaml.Value.ofText, Except.bind, expanded_eq expands]

/-- settings whose file is a text, or none, say where the log goes, if they are not without a home directory -/
theorem logsTo_cases (hfile : c.LogFileText) :
    (∃ p, LogsTo c s p) ∨
      (∃ text, c.logFile.root = .scalar (.text text) ∧ text ≠ "" ∧ s.expandHome? (.ofText text) = none) ∨
      c.logFile.isBlank = true ∧ s.expandHome? (.ofText standardLogFile) = none := by
  have husual : c.logFile.isBlank = true → (∃ p, LogsTo c s p) ∨
      c.logFile.isBlank = true ∧ s.expandHome? (.ofText standardLogFile) = none := by
    intro hblank
    rcases hexpand : s.expandHome? (.ofText standardLogFile) with _ | p
    · exact Or.inr ⟨hblank, rfl⟩
    · exact Or.inl ⟨p, .usual hblank hexpand⟩
  obtain ⟨file, hroot⟩ := hfile
  rcases file with _ | text
  · have hblank : c.logFile.isBlank = true := by
      unfold Yaml.Value.isBlank
      rw [hroot]
      rfl
    exact (husual hblank).imp id Or.inr
  · have hroot : c.logFile.root = .scalar (.text text) := hroot
    by_cases htext : text = ""
    · exact (husual ((isBlank_text hroot).2 htext)).imp id Or.inr
    · rcases hexpand : s.expandHome? (.ofText text) with _ | p
      · exact Or.inr (Or.inl ⟨text, hroot, htext, hexpand⟩)
      · exact Or.inl ⟨p, .named (.text hroot htext hexpand)⟩

/-! ## What the check sees -/

/-- what is wrong with the label and the level -/
def wordErrors (c : Settings) : List String :=
  (if Text.allBlank c.cancelLabel then ["default_cancel_label must not be empty"] else []) ++
    if levelNames.contains (Text.toCapitals c.logLevel) then []
    else ["log_level must be one of " ++ ", ".intercalate levelNames ++ ", got '" ++ c.logLevel ++ "'"]

theorem errors_eq (c : Settings) (s : Surroundings) : c.errors s = (c.logFileErrors s).map (c.wordErrors ++ ·) := by
  unfold errors
  rcases c.logFileErrors s with t | es <;> rfl

/-- what is wrong with a path, by what there is above it -/
def parentErrors (p : Path) : Except Fault Bool → Except Trouble (List String)
  | .ok true => .ok []
  | .ok false => .ok ["Log file parent directory does not exist: " ++ p.parent.text]
  | .error f => .error (.files f)

/-- a file that is named is checked by what there is above it, and nothing else -/
theorem logFileErrors_named (h : NamesFile c s p) : c.logFileErrors s = parentErrors p (s.isThere p.parent) := by
  unfold logFileErrors
  rw [if_neg h.not_blank]
  cases h with
  | text root _ expands =>
    simp only [pathOf, root, expanded_eq expands, bind, Except.bind]
    rcases s.isThere p.parent with f | (_ | _) <;> rfl

theorem homeless_errors {text : String} (hroot : c.logFile.root = .scalar (.text text)) (htext : text ≠ "")
    (hexpand : s.expandHome? (.ofText text) = none) : c.logFileErrors s = .error (homeTrouble (.ofText text)) := by
  have hblank : ¬ c.logFile.isBlank = true := fun hblank => htext ((isBlank_text hroot).1 hblank)
  unfold logFileErrors
  rw [if_neg hblank]
  simp only [pathOf, hroot, expanded, hexpand, bind, Except.bind]

/-- without errors, none of the three checks has any -/
theorem errors_nil (h : c.errors s = .ok []) :
    levelNames.contains (Text.toCapitals c.logLevel) = true ∧ c.logFileErrors s = .ok [] := by
  rw [errors_eq] at h
  rcases hfile : c.logFileErrors s with t | es
  · rw [hfile] at h
    cases h
  · rw [hfile] at h
    have hnil : c.wordErrors ++ es = [] := Except.ok.inj h
    simp only [wordErrors, List.append_eq_nil_iff] at hnil
    obtain ⟨⟨-, hlevel⟩, rfl⟩ := hnil
    split_ifs at hlevel with hcontains
    exact ⟨hcontains, rfl⟩

/-- a level that may be named is the threshold -/
theorem threshold_named (h : levelNames.contains (Text.toCapitals c.logLevel) = true) :
    ∃ severity : Severity, severity.name ∈ levelNames ∧ Text.toCapitals c.logLevel = severity.name ∧
      threshold (some c) none = severity.rank := by
  have hmem : Text.toCapitals c.logLevel ∈ levelNames := List.contains_iff_mem.1 h
  have hseverity : ∃ severity : Severity, Text.toCapitals c.logLevel = severity.name := by
    simp only [levelNames, List.mem_cons, List.not_mem_nil, or_false] at hmem
    rcases hmem with hname | hname | hname | hname
    · exact ⟨.debug, hname⟩
    · exact ⟨.info, hname⟩
    · exact ⟨.warning, hname⟩
    · exact ⟨.error, hname⟩
  obtain ⟨severity, hname⟩ := hseverity
  have hthreshold : thresholdOfName? severity.name = some severity.rank := by cases severity <;> rfl
  refine ⟨severity, hname ▸ hmem, hname, ?_⟩
  rw [threshold_unsaid, hname, hthreshold]
  rfl

/-- without errors, something stands above a file that is named -/
theorem found_of_logFileErrors (h : c.logFileErrors s = .ok []) (hnames : NamesFile c s p) :
    ∃ l e, s.find p.parent = .ok (l, e) := by
  rw [logFileErrors_named hnames] at h
  unfold isThere at h
  rcases hfound : s.find p.parent with cause | ⟨l, e⟩
  · cases cause <;> simp [hfound, parentErrors] at h
  · exact ⟨l, e, rfl⟩

/-! ## What the check does not see -/

/-- what the check overlooks -/
inductive Overlooks (c : Settings) (s : Surroundings) : Prop where
  /-- the usual file has no home directory to be in -/
  | noHome (blank : c.logFile.isBlank = true) (homeless : s.expandHome? (.ofText standardLogFile) = none)
  /-- something is in the way of the usual file -/
  | unchecked {p : Path} (blank : c.logFile.isBlank = true)
    (expands : s.expandHome? (.ofText standardLogFile) = some p) (obstacle : Obstacle s p)
  /-- what stands above the file is no directory -/
  | file {p : Path} {l : Location} {n : Nat} (logs : LogsTo c s p) (found : s.find p.parent = .ok (l, .file n))
  /-- a directory stands in place of the file -/
  | directory {p : Path} (logs : LogsTo c s p) (stands : s.tree.node? (s.goal p) = some .directory)
  /-- the system takes no such path in full -/
  | unusable {p : Path} (logs : LogsTo c s p) (unusable : (p.absolute s.cwd).Unusable)

/-- an obstacle that the check has not seen is one that it overlooks -/
theorem overlooks_of_obstacle (hvalid : c.logFileErrors s = .ok []) (hlogs : LogsTo c s p) (h : Obstacle s p) :
    Overlooks c s := by
  have hwhole := hlogs
  cases hlogs with
  | usual blank expands => exact .unchecked blank expands h
  | named names =>
    obtain ⟨l, e, hfound⟩ := found_of_logFileErrors hvalid names
    cases e with
    | file n => exact .file hwhole hfound
    | directory =>
      have hway := way_of_find hfound
      cases h with
      | barred barred =>
        rcases barred with ⟨m, hm, n, hn⟩ | hunusable
        · rw [hway m hm] at hn
          cases hn
        · exact absurd hunusable (locate_eq_ok.1 (find_eq_ok.1 hfound).1).1
      | directory stands => exact .directory hwhole stands
      | circle back => exact .directory hwhole (hway _ back)
      | unusable unusable => exact .unusable hwhole unusable

/-- what is overlooked keeps the log from being set up -/
theorem Overlooks.fails (h : Overlooks c s) (hcwd : s.tree.Grounded s.cwd) :
    ∃ t, (setUp (some c) ⟨none, none, terminal⟩ s).1 = some t := by
  cases h with
  | noHome blank homeless =>
    have hnone : nonempty? none = none := rfl
    have hpath : logPath s (some c) none = .error (homeTrouble (.ofText standardLogFile)) := by
      simp only [Settings.logPath, hnone, if_pos blank, pathOf, Yaml.Value.ofText, Except.bind, expanded, homeless]
    exact ⟨homeTrouble (.ofText standardLogFile), by simp only [setUp, hpath]⟩
  | unchecked blank expands obstacle => exact setUp_obstructed hcwd (LogsTo.usual blank expands).logPath obstacle
  | @file p l n logs found =>
    have hbarred : s.Barred p.parent := by
      obtain ⟨hl, hn⟩ := find_eq_ok.1 found
      rw [(locate_eq_ok.1 hl).2.2] at hn
      exact Or.inl ⟨_, s.goal_mem_way p.parent, n, hn⟩
    exact setUp_obstructed hcwd logs.logPath (.barred hbarred)
  | directory logs stands => exact setUp_obstructed hcwd logs.logPath (.directory stands)
  | unusable logs unusable => exact setUp_obstructed hcwd logs.logPath (.unusable unusable)

/-! ## Settings without errors -/

/-- what becomes of the log that is set up by settings without errors -/
structure Validated (c : Settings) (s : Surroundings) (r : Option Trouble × Logbook × Surroundings) : Prop where
  /-- the threshold is that of the level whose name the settings hold, in any case -/
  level : ∃ severity : Severity, severity.name ∈ levelNames ∧ Text.toCapitals c.logLevel = severity.name ∧
    r.2.1.threshold = severity.rank
  /-- with nothing overlooked the log is open at its file -/
  opens : s.tree.Grounded s.cwd → ¬ Overlooks c s → r.1 = none ∧ ∃ p n, LogsTo c s p ∧
    r.2.1.handlers.head? = some (.file (p.absolute s.cwd) (some n)) ∧
    r.2.2.find (p.absolute s.cwd) = .ok (s.goal p, .file n)
  /-- with something overlooked it is not set up -/
  fails : s.tree.Grounded s.cwd → Overlooks c s → ∃ t, r.1 = some t

/-- the threshold is set, whatever comes of the file -/
theorem threshold_setUp (c : Option Settings) (w : Wanted) (s : Surroundings) :
    (setUp c w s).2.1.threshold = threshold c w.level := by
  unfold setUp
  rcases logPath s c w.file with t | p
  · rfl
  · rcases hmake : s.makeDirectories p.parent with ⟨_ | f, made⟩
    · simp only [hmake]
      rcases made.openToAdd (p.absolute made.cwd) with f | ⟨n, opened⟩ <;> rfl
    · simp only [hmake]

/-- Settings without errors: the level is the one they name, and the log is open at their file unless the check has
overlooked what is in the way. -/
theorem validated (hfile : c.LogFileText) (hvalid : c.errors s = .ok []) (terminal : Bool) :
    Validated c s (setUp (some c) ⟨none, none, terminal⟩ s) := by
  obtain ⟨hlevel, hlog⟩ := errors_nil hvalid
  refine ⟨?_, ?_, ?_⟩
  · obtain ⟨severity, hname, hcapitals, hrank⟩ := threshold_named hlevel
    refine ⟨severity, hname, hcapitals, ?_⟩
    rw [threshold_setUp, hrank]
  · intro hcwd hseen
    rcases logsTo_cases (s := s) hfile with ⟨p, hlogs⟩ | ⟨text, hroot, htext, hhome⟩ | ⟨hblank, hhome⟩
    · have hclear : ¬ Obstacle s p := fun h => hseen (overlooks_of_obstacle hlog hlogs h)
      obtain ⟨n, s', hset, hfound⟩ :=
        setUp_opens (w := ⟨none, none, terminal⟩) hcwd hlogs.logPath hclear
      rw [hset]
      exact ⟨rfl, p, n, hlogs, rfl, hfound⟩
    · have hhomeless := homeless_errors hroot htext hhome
      rw [hlog] at hhomeless
      cases hhomeless
    · exact absurd (.noHome hblank hhome) hseen
  · intro hcwd hover
    exact hover.fails hcwd

/-- settings whose log goes to a file in the working directory -/
def nearby : Settings := { standard with logFile := .ofText "c" }

theorem logsTo_nearby (h : LogsTo nearby Surroundings.bare p) : p = ⟨.here, ["c"]⟩ := by
  cases h with
  | named names =>
    obtain ⟨root, -, expands⟩ := names
    obtain rfl : "c" = _ := by simpa [nearby, Yaml.Value.ofText] using root
    rw [Path.ofText_oneLetter] at expands
    exact (Option.some.inj expands).symm
  | usual blank _ =>
    have hblank : nearby.logFile.isBlank = false := by decide
    rw [hblank] at blank
    cases blank

theorem not_overlooks_nearby : ¬ Overlooks nearby Surroundings.bare := by
  have hblank : nearby.logFile.isBlank = false := by decide
  intro h
  cases h with
  | noHome blank =>
    rw [hblank] at blank
    cases blank
  | unchecked blank =>
    rw [hblank] at blank
    cases blank
  | file logs found =>
    obtain rfl := logsTo_nearby logs
    cases found
  | directory logs stands =>
    obtain rfl := logsTo_nearby logs
    revert stands
    decide
  | unusable logs unusable =>
    obtain rfl := logsTo_nearby logs
    cases unusable with
    | nullByte holds =>
      revert holds
      decide
    | long long =>
      revert long
      decide +kernel
    | name part long =>
      obtain rfl := List.mem_singleton.1 part
      revert long
      decide +kernel

/-- settings without errors, and their log open -/
theorem validated_nearby :
    nearby.LogFileText ∧ nearby.errors Surroundings.bare = .ok [] ∧
      Surroundings.bare.tree.Grounded Surroundings.bare.cwd ∧
      (setUp (some nearby) ⟨none, none, false⟩ Surroundings.bare).1 = none := by
  have hfile : nearby.LogFileText := ⟨some "c", rfl⟩
  have hexpand : Surroundings.bare.expandHome? (.ofText "c") = some ⟨.here, ["c"]⟩ := by
    rw [Path.ofText_oneLetter]
    rfl
  have hvalid : nearby.errors Surroundings.bare = .ok [] := by
    rw [errors_eq, logFileErrors_named (.text rfl (by decide) hexpand)]
    decide +kernel
  have hgrounded : Surroundings.bare.tree.Grounded Surroundings.bare.cwd := Tree.grounded_root _
  exact ⟨hfile, hvalid, hgrounded, ((validated hfile hvalid false).opens hgrounded not_overlooks_nearby).1⟩

/-- a file that stands where a log wants its directory -/
def filed : Surroundings :=
  { Surroundings.bare with tree := .oneFile "f" .empty }

/-- settings whose log goes into that directory -/
def belowFile : Settings := { standard with logFile := .ofText "f/x" }

/-- settings without errors whose log can not be set up -/
theorem validated_unopened :
    belowFile.LogFileText ∧ belowFile.errors filed = .ok [] ∧ filed.tree.Grounded filed.cwd ∧
      (setUp (some belowFile) ⟨none, none, false⟩ filed).1 = some (.files ⟨.taken, "f"⟩) := by
  have hfile : belowFile.LogFileText := ⟨some "f/x", rfl⟩
  have hpath : Path.ofText "f/x" = ⟨.here, ["f", "x"]⟩ := by cbv
  have hexpand : filed.expandHome? (.ofText "f/x") = some ⟨.here, ["f", "x"]⟩ := by
    rw [hpath]
    decide +kernel
  have hnames : NamesFile belowFile filed ⟨.here, ["f", "x"]⟩ := .text rfl (by decide) hexpand
  refine ⟨hfile, ?_, Tree.grounded_root _, ?_⟩
  · rw [errors_eq, logFileErrors_named hnames]
    decide +kernel
  · simp only [setUp, (LogsTo.named hnames).logPath]
    decide +kernel

end LinePrompt.Settings
