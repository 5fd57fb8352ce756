/-
What `validate` finds wrong, once it has a log of its own.

`validate` sets up its own log before it checks the settings, and what it makes on the way of that log is there when it
looks. So it reports what is wrong with the settings on the surroundings that it found, unless its log interferes
(`Interferes`): the directory for the settings' own log is missing, and all gaps on the way there are on the way of the
command's log too, or those in front of a name that is too long. The directory is made then, and not reported, or the
check fails by the name (`checked_before`).

`checked_too_late` is such a run.
-/
import LinePrompt.Proofs.CommandLine.Globals
import LinePrompt.Proofs.Settings.Loading
import LinePrompt.Proofs.Settings.Validation

namespace LinePrompt.Settings

open LinePrompt.Files Surroundings

variable {s s' : Surroundings} {c : Settings} {p : Path}

theorem expandHome?_congr (h : s'.homeText? = s.homeText?) (p : Path) : s'.expandHome? p = s.expandHome? p := by
  unfold expandHome?
  rw [h]

theorem NamesFile.congr (h : NamesFile c s p) (hhomes : s'.homeText? = s.homeText?) : NamesFile c s' p := by
  cases h with
  | text root said expands => exact .text root said ((expandHome?_congr hhomes _).trans expands)

/-- The check looks at nothing around it but the homes and what there is above a file that is named. -/
theorem logFileErrors_congr (hhomes : s'.homeText? = s.homeText?)
    (habove : ∀ p, NamesFile c s p → s'.isThere p.parent = s.isThere p.parent) :
    c.logFileErrors s' = c.logFileErrors s := by
  by_cases hblank : c.logFile.isBlank = true
  · unfold logFileErrors
    rw [if_pos hblank, if_pos hblank]
  · rcases hpath : pathOf c.logFile with t | path
    · unfold logFileErrors
      rw [if_neg hblank, if_neg hblank, hpath]
      rfl
    · obtain ⟨text, hroot, -⟩ := pathOf_ok hpath
      have htext : text ≠ "" := fun hempty => hblank ((isBlank_text hroot).2 hempty)
      rcases hexpand : s.expandHome? (.ofText text) with _ | p
      · have hexpand' := (expandHome?_congr hhomes (.ofText text)).trans hexpand
        rw [homeless_errors hroot htext hexpand, homeless_errors hroot htext hexpand']
      · have hnames : NamesFile c s p := .text hroot htext hexpand
        rw [logFileErrors_named hnames, logFileErrors_named (hnames.congr hhomes), habove p hnames]

end LinePrompt.Settings

namespace LinePrompt.CommandLine

open LinePrompt.Files LinePrompt.Log LinePrompt.Settings Surroundings

variable {s s' : Surroundings} {words : List String} {g : Globals} {w : Wanted} {c : Settings} {config : Option String}
  {log log' : Logbook} {own p : Path}

/-! ## A log of its own -/

/-- what `validate` ends with, by what the check of the settings came to -/
def judged (c : Settings) : Except Settings.Trouble (List String) → Ending
  | .error t => .escaped t
  | .ok errors => verdict c errors

/-- a place is a directory once the command has its own log, at this path: it is one already, or it is on the way of
that log -/
def Covered (own : Path) (s : Surroundings) (m : Location) : Prop :=
  s.tree.node? m = some .directory ∨ m ∈ s.way own.parent

/-- The directory above a path is missing, and the command's own log makes it, or puts its file in the place of it: all
that is missing on the way there is on the way of that log. -/
structure Makes (own p : Path) (s : Surroundings) : Prop where
  missing : s.isThere p.parent = .ok false
  usable : ¬ p.parent.Unusable
  covered : ∀ m ∈ Location.passed (s.start p.parent) p.parent.parts, Covered own s m
  ends : s.tree.node? (s.goal p.parent) ≠ none ∨ s.goal p.parent = s.goal (own.absolute s.cwd) ∨
    s.goal p.parent ∈ s.way own.parent

/-- The directory above a path is missing, and once the command has its own log the search for it gets as far as a name
that is too long. -/
structure Unmasks (own p : Path) (s : Surroundings) : Prop where
  missing : s.isThere p.parent = .ok false
  no_null : Char.ofNat 0 ∉ p.parent.text.toList
  covered : ∃ front step rest, p.parent.parts = front ++ step :: rest ∧ Tree.nameLimit < step.utf8ByteSize ∧
    ∀ m ∈ Location.way (s.start p.parent) front, Covered own s m

/-- the command's own log changes what there is above the file that the settings name -/
def Interferes (own : Path) (c : Settings) (s : Surroundings) : Prop :=
  ∃ p, NamesFile c s p ∧ (Makes own p s ∨ Unmasks own p s)

/-- what a `validate` that has got to its check reports, and what it leaves to be found above the settings' file -/
structure Checked (own : Path) (c : Settings) (s : Surroundings) (f : Finish) : Prop where
  /-- the report is on the settings as they are with the command's own log set up -/
  ending : f.ending = judged c (c.errors f.surroundings)
  /-- without interference that is the report on what the command found -/
  kept : ¬ Interferes own c s → f.ending = judged c (c.errors s)
  /-- and what was missing above the settings' file is missing still -/
  above : ¬ Interferes own c s → ∀ p, NamesFile c s p → f.surroundings.isThere p.parent = s.isThere p.parent
  /-- with interference the check comes to something else -/
  changed : Interferes own c s → c.errors f.surroundings ≠ c.errors s
  /-- a missing directory is made, and not reported -/
  made : ∀ p, NamesFile c s p → Makes own p s →
    f.surroundings.isThere p.parent = .ok true ∧ c.errors f.surroundings = .ok c.wordErrors
  /-- or a name is found to be too long -/
  unmasked : ∀ p, NamesFile c s p → Unmasks own p s →
    f.surroundings.isThere p.parent = .error ⟨.nameTooLong, p.parent.text⟩

section Filled

variable (hset : setUp none w s = (none, log', s')) (hown : Settings.logPath s none w.file = .ok own)

include hset hown

/-- with the command's own log set up, the directories are those that were there and those on the way of the log -/
theorem directory_setUp (m : Location) : s'.tree.node? m = some .directory ↔ Covered own s m := by
  obtain ⟨path, hpath, hfilled, hmade⟩ := filledIn_setUp hset
  obtain rfl : own = path := Except.ok.inj (hown.symm.trans hpath)
  constructor
  · intro hm
    rcases hfilled.nodes m with hsame | ⟨-, hon⟩
    · exact Or.inl (hsame ▸ hm)
    · rcases List.mem_cons.1 hon with rfl | hway
      · -- the log's file stands in its place
        obtain ⟨l, n, hfound⟩ := find_setUp hset hown
        obtain ⟨hl, hfile⟩ := find_eq_ok.1 hfound
        rw [← goal_of_cwd hfilled.cwd, ← (locate_eq_ok.1 hl).2.2, hfile] at hm
        cases hm
      · exact Or.inr hway
  · rintro (hstands | hway)
    · exact hfilled.keeps _ _ hstands
    · exact hmade m hway

theorem isThere_makes (h : Makes own p s) : s'.isThere p.parent = .ok true := by
  obtain ⟨path, hpath, hfilled, hmade⟩ := filledIn_setUp hset
  obtain rfl : own = path := Except.ok.inj (hown.symm.trans hpath)
  have hlocated : s'.locate p.parent = .ok (s'.goal p.parent) := by
    refine locate_eq_ok.2 ⟨h.usable, fun m hm => ?_, rfl⟩
    rw [start_of_cwd hfilled.cwd] at hm
    exact (directory_setUp hset hown m).2 (h.covered m hm)
  obtain ⟨e, he⟩ : ∃ e, s'.tree.node? (s'.goal p.parent) = some e := by
    rw [goal_of_cwd hfilled.cwd]
    rcases h.ends with hstands | hfile | hway
    · obtain ⟨e, he⟩ := Option.ne_none_iff_exists'.1 hstands
      exact ⟨e, hfilled.keeps _ _ he⟩
    · obtain ⟨l, n, hfound⟩ := find_setUp hset hown
      obtain ⟨hl, hthere⟩ := find_eq_ok.1 hfound
      rw [hfile, ← goal_of_cwd hfilled.cwd, ← (locate_eq_ok.1 hl).2.2]
      exact ⟨_, hthere⟩
    · exact ⟨_, hmade _ hway⟩
  unfold isThere
  rw [find_eq_ok.2 ⟨hlocated, he⟩]

theorem isThere_unmasks (h : Unmasks own p s) :
    s'.isThere p.parent = .error ⟨.nameTooLong, p.parent.text⟩ := by
  obtain ⟨path, -, hfilled, -⟩ := filledIn_setUp hset
  obtain ⟨front, step, rest, hparts, hlong, hway⟩ := h.covered
  have hfollow : s'.tree.follow (s'.start p.parent) p.parent.parts = .error .nameTooLong := by
    rw [start_of_cwd hfilled.cwd]
    exact Tree.follow_eq_nameTooLong.2
      ⟨front, step, rest, hparts, hlong, fun m hm => (directory_setUp hset hown m).2 (hway m hm)⟩
  unfold isThere
  rw [find_eq_nameTooLong.2 ⟨h.no_null, Or.inr hfollow⟩]

/-- what is there of a directory stays as it was, or the command's own log interferes -/
theorem isThere_setUp (p : Path) :
    s'.isThere p.parent = s.isThere p.parent ∨ Makes own p s ∨ Unmasks own p s := by
  obtain ⟨path, hpath, hfilled, -⟩ := filledIn_setUp hset
  obtain rfl : own = path := Except.ok.inj (hown.symm.trans hpath)
  rcases hfilled.isThere p.parent with hsame | ⟨hmissing, -⟩
  · exact Or.inl hsame
  rcases hfound : s'.find p.parent with c | ⟨l, e⟩
  · by_cases hc : c = .nameTooLong
    · subst hc
      obtain ⟨hnull, hlong | hfollow⟩ := find_eq_nameTooLong.1 hfound
      · -- the length of the path is no matter of what is there
        have hbefore : s.find p.parent = .error .nameTooLong := find_eq_nameTooLong.2 ⟨hnull, Or.inl hlong⟩
        simp [isThere, hbefore] at hmissing
      · obtain ⟨front, step, rest, hparts, hstep, hway⟩ := Tree.follow_eq_nameTooLong.1 hfollow
        rw [start_of_cwd hfilled.cwd] at hway
        exact Or.inr (Or.inr ⟨hmissing, hnull, front, step, rest, hparts, hstep,
          fun m hm => (directory_setUp hset hown m).1 (hway m hm)⟩)
    · refine Or.inl ?_
      rw [hmissing]
      unfold isThere
      rw [hfound]
      cases c <;> first | rfl | exact absurd rfl hc
  · obtain ⟨hl, he⟩ := find_eq_ok.1 hfound
    obtain ⟨husable, hpassed, rfl⟩ := locate_eq_ok.1 hl
    rw [start_of_cwd hfilled.cwd] at hpassed
    rw [goal_of_cwd hfilled.cwd] at he
    refine Or.inr (Or.inl ⟨hmissing, husable, fun m hm => (directory_setUp hset hown m).1 (hpassed m hm), ?_⟩)
    rcases hfilled.nodes (s.goal p.parent) with hsame | ⟨-, hon⟩
    · rw [← hsame, he]
      exact Or.inl (Option.some_ne_none e)
    · exact Or.inr (List.mem_cons.1 hon)

/-- without interference the check comes to what it came to before -/
theorem errors_setUp (hclear : ¬ Interferes own c s) : c.errors s' = c.errors s := by
  obtain ⟨_, -, hfilled, -⟩ := filledIn_setUp hset
  have hsame : c.logFileErrors s' = c.logFileErrors s := by
    apply logFileErrors_congr hfilled.homes
    intro p hnames
    exact (isThere_setUp hset hown p).resolve_right fun h => hclear ⟨p, hnames, h⟩
  rw [errors_eq, errors_eq, hsame]

end Filled

/-- the check tells apart what there is above the file -/
theorem errors_ne_of_isThere (hnames : NamesFile c s p) (hnames' : NamesFile c s' p)
    (hchanged : s'.isThere p.parent ≠ s.isThere p.parent) : c.errors s' ≠ c.errors s := by
  have htold : ∀ {a b : Except Fault Bool},
      (parentErrors p a).map (c.wordErrors ++ ·) = (parentErrors p b).map (c.wordErrors ++ ·) → a = b := by
    rintro (f | _ | _) (f' | _ | _) h <;> simp_all [parentErrors, Except.map]
  rw [errors_eq, errors_eq, logFileErrors_named hnames, logFileErrors_named hnames']
  exact fun hsame => hchanged (htold hsame)

/-- a `validate` that gets to its check ends by what the check comes to, and leaves its own log -/
theorem run_validate (play : Play) (log : Logbook) (htask : Task.ofWords s words = .ok (.validate g config))
    (hset : setUp none ⟨g.level, g.logFile, true⟩ s = (none, log', s')) (hload : settingsFor s' config = .ok c) :
    run words play log s = ⟨judged c (c.errors s'), log'.endCommand, s'⟩ := by
  simp only [run, htask, runValidate, hset, hload]
  rcases c.errors s' with t | es <;> rfl

/-- `validate` reports what is wrong with the settings on the surroundings it found, unless its own log interferes; and
then it misses a directory that this log makes, or stumbles over a name. -/
theorem checked_before (play : Play) (log : Logbook) (htask : Task.ofWords s words = .ok (.validate g config))
    (hset : setUp none ⟨g.level, g.logFile, true⟩ s = (none, log', s')) (hload : settingsFor s' config = .ok c) :
    ∃ own, Settings.logPath s none g.logFile = .ok own ∧ Checked own c s (run words play log s) := by
  obtain ⟨own, hown, hfilled, -⟩ := filledIn_setUp hset
  refine ⟨own, hown, ?_⟩
  rw [run_validate play log htask hset hload]
  exact {
    ending := rfl
    kept := fun hclear => congrArg (judged c) (errors_setUp hset hown hclear)
    above := fun hclear p hnames =>
      (isThere_setUp hset hown p).resolve_right fun h => hclear ⟨p, hnames, h⟩
    changed := by
      rintro ⟨p, hnames, hmakes | hunmasks⟩
      · refine errors_ne_of_isThere hnames (hnames.congr hfilled.homes) ?_
        rw [isThere_makes hset hown hmakes, hmakes.missing]
        decide
      · refine errors_ne_of_isThere hnames (hnames.congr hfilled.homes) ?_
        rw [isThere_unmasks hset hown hunmasks, hunmasks.missing]
        intro h
        cases h
    made := by
      intro p hnames hmakes
      have hmade := isThere_makes hset hown hmakes
      refine ⟨hmade, ?_⟩
      rw [errors_eq, logFileErrors_named (hnames.congr hfilled.homes), hmade]
      exact congrArg Except.ok (List.append_nil _)
    unmasked := fun p _ hunmasks => isThere_unmasks hset hown hunmasks }

/-! ### A directory that is missing -/

/-- settings in a file, with a log in a directory that is missing -/
def listed : Surroundings :=
  { Surroundings.bare with tree := .oneFile "c" "log_file: d/b\n".toUTF8 }

/-- a check of that file, with this log for the command -/
def checkWith (file : String) : List String := ["--log-file", file, "validate", "-c", "c"]

/-- the settings in the file -/
def listedSettings : Settings :=
  { Settings.standard with
    logFile := ⟨[(0, .mapping [(.scalar (.text "log_file"), .scalar (.text "d/b"))]), (0, .mapping [])],
      .scalar (.text "d/b")⟩
    source := some "c" }

theorem ofText_belowDirectory : Path.ofText "d/b" = ⟨.here, ["d", "b"]⟩ := by cbv

theorem ofWords_listed {file : String} {there : Bool} (hstands : stands listed file = .ok there) :
    Task.ofWords listed (checkWith file) = .ok (.validate ⟨none, some file⟩ (some "c")) := by
  have hglobals : readGlobals listed (checkWith file) = .ok (⟨none, some file⟩, ["validate", "-c", "c"]) := by
    have hwords : Command.main.grammar.readWords (checkWith file) =
        .ok ⟨[(.logFile, file)], ["validate", "-c", "c"]⟩ := rfl
    have hfile : checkGlobal .logFile ⟨[(.logFile, file)], ["validate", "-c", "c"]⟩ listed = .ok () := by
      show (stands listed file).map (fun _ => ()) = _
      rw [hstands]
      rfl
    exact readGlobals_of_checks (List.cons_ne_nil _ _) hwords rfl rfl hfile
  have hconfig : readCheck listed ["-c", "c"] = .ok (some "c") := by
    have hwords : Command.validate.grammar.readWords ["-c", "c"] = .ok ⟨[(.config, "c")], []⟩ := by decide +kernel
    have hthere : stands listed "c" = .ok true := by
      have hname : namesDirectory "c" = false := by cbv
      have hfound : listed.find (.ofText "c") = .ok (["c"], .file 0) := by
        rw [Path.ofText_oneLetter]
        rfl
      exact stands_file (by decide) hname hfound
    have hcheck : checkConfig .validate ⟨[(.config, "c")], []⟩ listed = .ok (some "c") :=
      checkConfig_of_stands rfl hthere
    have hown : readOwn .validate ["-c", "c"] = .ok ⟨[(.config, "c")], []⟩ := by
      simp only [readOwn, hwords]
      rfl
    simp only [readCheck, hown, hcheck, bind, Except.bind]
    rfl
  have hcommand : chooseCommand listed ["validate", "-c", "c"] = .ok (.validate, ["-c", "c"]) := rfl
  simp only [Task.ofWords, hglobals, hcommand, hconfig, bind, Except.bind]
  rfl

theorem read_listed : listed.read (.ofText "c") = .ok "log_file: d/b\n".toUTF8 :=
  read_eq_ok_iff.2 ⟨["c"], by rw [Path.ofText_oneLetter]; decide +kernel, rfl⟩

theorem ofBytes_listed : Settings.ofBytes "c" "log_file: d/b\n".toUTF8 = .ok listedSettings := by
  have htext : String.fromUTF8? "log_file: d/b\n".toUTF8 = some "log_file: d/b\n" := dif_pos (String.isValidUTF8 _)
  have hparse : Yaml.Value.parse "log_file: d/b\n".toList =
      .ok ⟨[(0, .mapping [(.scalar (.text "log_file"), .scalar (.text "d/b"))]), (0, .mapping [])], .cell 0⟩ := by
    decide +kernel
  rw [Settings.ofBytes, htext]
  simp only [hparse]
  rfl

/-- the settings are found in the file, whatever log is set up first -/
theorem settingsFor_listed {w : Wanted} (hset : setUp none w listed = (none, log', s')) :
    settingsFor s' (some "c") = .ok listedSettings := by
  have hpreserved := preserved_setUp none w listed
  rw [hset] at hpreserved
  obtain ⟨_, -, hfilled, -⟩ := filledIn_setUp hset
  have hload : Settings.load s' (some "c") = .ok listedSettings := by
    have htext : (Path.ofText "c").text = "c" := by
      rw [Path.ofText_oneLetter]
      rfl
    rw [Settings.load_of_read (by decide) (hpreserved.read read_listed), htext, ofBytes_listed]
  have henvironment : s'.environment = [] := hfilled.environment
  unfold settingsFor
  rw [hload]
  simp only [Except.map, Settings.overridden, given?, value?, henvironment]
  rfl

theorem names_listed : NamesFile listedSettings listed ⟨.here, ["d", "b"]⟩ := by
  have hexpand : listed.expandHome? (.ofText "d/b") = some ⟨.here, ["d", "b"]⟩ := by
    rw [ofText_belowDirectory]
    decide +kernel
  exact .text rfl (by decide) hexpand

theorem namesFile_listed (h : NamesFile listedSettings listed p) : p = ⟨.here, ["d", "b"]⟩ := by
  obtain ⟨root, -, expands⟩ := h
  obtain rfl : "d/b" = _ := by simpa [listedSettings] using root
  rw [ofText_belowDirectory] at expands
  exact (Option.some.inj expands).symm

theorem usable_listed : ¬ (Path.parent ⟨.here, ["d", "b"]⟩).Unusable := by
  have hfound : Surroundings.bare.locate (Path.parent ⟨.here, ["d", "b"]⟩) = .ok ["d"] := by decide +kernel
  exact (locate_eq_ok.1 hfound).1

theorem errors_listed : listedSettings.errors listed = .ok ["Log file parent directory does not exist: d"] := by
  rw [errors_eq, logFileErrors_named names_listed]
  decide +kernel

/-- a log in the working directory does not keep the check from seeing what is missing -/
theorem checked_before_elsewhere :
    ∃ log' s', Task.ofWords listed (checkWith "l") = .ok (.validate ⟨none, some "l"⟩ (some "c")) ∧
      setUp none ⟨none, some "l", true⟩ listed = (none, log', s') ∧ settingsFor s' (some "c") = .ok listedSettings ∧
      (run (checkWith "l") (.gestures []) .untouched listed).ending =
        verdict listedSettings ["Log file parent directory does not exist: d"] := by
  have hpath : Path.ofText "l" = ⟨.here, ["l"]⟩ := by cbv
  have hown : Settings.logPath listed none _ = _ := Settings.logPath_given (by decide) hpath rfl none
  have hmissing : listed.find (.ofText "l") = .error .missing := by
    rw [hpath]
    rfl
  have htask := ofWords_listed (stands_missing (by decide) hmissing)
  have hclean : (setUp none ⟨none, some "l", true⟩ listed).1 = none := by
    simp only [setUp, hown]
    rfl
  have hset : setUp none ⟨none, some "l", true⟩ listed = (none, (setUp none ⟨none, some "l", true⟩ listed).2) :=
    Prod.ext hclean rfl
  have hload := settingsFor_listed hset
  obtain ⟨own, hown', hchecked⟩ := checked_before (.gestures []) .untouched htask hset hload
  obtain rfl : ⟨.here, ["l"]⟩ = own := Except.ok.inj (hown.symm.trans hown')
  have hclear : ¬ Interferes ⟨.here, ["l"]⟩ listedSettings listed := by
    rintro ⟨p, hnames, hmakes | hunmasks⟩
    · obtain rfl := namesFile_listed hnames
      rcases hmakes.ends with hstands | hfile | hway
      · exact hstands rfl
      · exact absurd hfile (by decide)
      · exact absurd hway (by decide)
    · obtain rfl := namesFile_listed hnames
      obtain ⟨front, step, rest, hparts, hlong, -⟩ := hunmasks.covered
      have hstep : step ∈ ["d"] := by
        have hparts : ["d"] = front ++ step :: rest := hparts
        simp [hparts]
      rw [List.mem_singleton.1 hstep] at hlong
      exact absurd hlong (by decide)
  refine ⟨_, _, htask, hset, hload, ?_⟩
  rw [hchecked.kept hclear, errors_listed]
  rfl

/-- a log that wants the same directory does: it is made, and nothing is reported -/
theorem checked_too_late :
    ∃ log' s', Task.ofWords listed (checkWith "d/a") = .ok (.validate ⟨none, some "d/a"⟩ (some "c")) ∧
      setUp none ⟨none, some "d/a", true⟩ listed = (none, log', s') ∧ settingsFor s' (some "c") = .ok listedSettings ∧
      listedSettings.errors listed = .ok ["Log file parent directory does not exist: d"] ∧
      (run (checkWith "d/a") (.gestures []) .untouched listed).ending = verdict listedSettings [] := by
  have hpath : Path.ofText "d/a" = ⟨.here, ["d", "a"]⟩ := by cbv
  have hown : Settings.logPath listed none _ = _ := Settings.logPath_given (by decide) hpath rfl none
  have hmissing : listed.find (.ofText "d/a") = .error .missing := by
    rw [hpath]
    rfl
  have htask := ofWords_listed (stands_missing (by decide) hmissing)
  have hclean : (setUp none ⟨none, some "d/a", true⟩ listed).1 = none := by
    simp only [setUp, hown]
    rfl
  have hset : setUp none ⟨none, some "d/a", true⟩ listed = (none, (setUp none ⟨none, some "d/a", true⟩ listed).2) :=
    Prod.ext hclean rfl
  have hload := settingsFor_listed hset
  refine ⟨_, _, htask, hset, hload, errors_listed, ?_⟩
  have hmakes : Makes ⟨.here, ["d", "a"]⟩ ⟨.here, ["d", "b"]⟩ listed :=
    ⟨by decide +kernel, usable_listed, fun m hm => Or.inr (Location.mem_way_of_passed hm),
      Or.inr (Or.inr (listed.goal_mem_way _))⟩
  have hmade := isThere_makes hset hown hmakes
  have hnothing : listedSettings.errors (setUp none ⟨none, some "d/a", true⟩ listed).2.2 = .ok [] := by
    obtain ⟨_, -, hfilled, -⟩ := filledIn_setUp hset
    rw [errors_eq, logFileErrors_named (names_listed.congr hfilled.homes), hmade]
    decide +kernel
  rw [run_validate _ _ htask hset hload, hnothing]
  rfl

end LinePrompt.CommandLine
