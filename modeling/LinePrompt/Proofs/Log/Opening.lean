/-
When the file of a log can be opened.

A log that is set up makes the directory of its file and opens the file, at its path in full. There are few obstacles to
that (`Obstacle`), and they are all there are: without one the log is open at the place that the path leads to
(`setUp_opens`), and with one it is not set up (`setUp_obstructed`). What has been filled on the way are gaps on the way
of the directory, and the place of the file (`filledIn_setUp`).
-/
import LinePrompt.Proofs.Files.Directories
import LinePrompt.Proofs.Log.Entries

namespace LinePrompt.Settings

open LinePrompt.Files LinePrompt.Log

variable {s : Surroundings}

/-! ## What settings say of a log -/

theorem thresholdOfName?_warning : thresholdOfName? (Text.toCapitals "WARNING") = some 30 := by decide +kernel

/-- without an override the settings' level counts, as far as it is one -/
theorem threshold_unsaid (c : Settings) :
    threshold (some c) none =
      (thresholdOfName? (Text.toCapitals c.logLevel)).getD Severity.warning.rank := by
  have hempty : thresholdOfName? (Text.toCapitals "") = none := by decide +kernel
  have hnone : nonempty? none = none := rfl
  by_cases hlevel : c.logLevel = ""
  · have hgiven : nonempty? (some c.logLevel) = none := by simp [nonempty?, hlevel]
    have hthreshold : threshold (some c) none = Severity.warning.rank := by
      simp only [threshold, Option.map_some, hgiven, hnone, Option.or_none, Option.getD_none,
        thresholdOfName?_warning]
      rfl
    rw [hthreshold, hlevel, hempty]
    rfl
  · have hgiven : nonempty? (some c.logLevel) = some c.logLevel := by simp [nonempty?, hlevel]
    simp only [threshold, Option.map_some, hgiven, hnone, Option.none_or, Option.getD_some]

theorem nonempty?_cases (t : Option String) :
    (∃ file, t = some file ∧ file ≠ "" ∧ nonempty? t = some file) ∨
      ((t = some "" ∨ t = none) ∧ nonempty? t = none) := by
  rcases t with _ | file
  · exact Or.inr ⟨Or.inr rfl, rfl⟩
  · by_cases hfile : file = ""
    · exact Or.inr ⟨Or.inl (by rw [hfile]), by simp [nonempty?, hfile]⟩
    · exact Or.inl ⟨file, rfl, hfile, by simp [nonempty?, hfile]⟩

/-- a value that names a path is a text -/
theorem pathOf_ok {value : Yaml.Value} {path : Path} (h : pathOf value = .ok path) :
    ∃ text, value.root = .scalar (.text text) ∧ path = .ofText text := by
  unfold pathOf at h
  split at h
  · rename_i text hroot
    exact ⟨text, hroot, (Except.ok.inj h).symm⟩
  · cases h
  · cases h

theorem expanded_eq {path full : Path} (h : s.expandHome? path = some full) : expanded s path = .ok full := by
  unfold expanded
  rw [h]

/-- a text that is given for the file counts -/
theorem logPath_given {file : String} {path full : Path} (hfile : file ≠ "") (hpath : Path.ofText file = path)
    (hexpand : s.expandHome? path = some full) (c : Option Settings) : logPath s c (some file) = .ok full := by
  have hgiven : nonempty? (some file) = some file := by simp [nonempty?, hfile]
  simp only [logPath, hgiven, pathOf, Yaml.Value.ofText, Except.bind, hpath, expanded_eq hexpand]

theorem expanded_ok {path full : Path} (h : expanded s path = .ok full) : s.expandHome? path = some full := by
  unfold expanded at h
  split at h
  · rename_i full' hexpand
    exact hexpand.trans (congrArg some (Except.ok.inj h))
  · cases h

end LinePrompt.Settings

namespace LinePrompt.Log

open LinePrompt.Files Surroundings

variable {s s' : Surroundings} {c : Option Settings} {w : Wanted} {p : Path} {log : Logbook} {t : Settings.Trouble}

/-- what is in the way of a log file at a path -/
inductive Obstacle (s : Surroundings) (p : Path) : Prop where
  /-- its directory can not be made -/
  | barred (barred : s.Barred p.parent)
  /-- a directory stands in its place -/
  | directory (stands : s.tree.node? (s.goal p) = some .directory)
  /-- the path comes back to a place on the way of its directory -/
  | circle (back : s.goal p ∈ s.way p.parent)
  /-- there is no path in full -/
  | unusable (unusable : (p.absolute s.cwd).Unusable)

/-- once the directory of a path is made, the path in full leads where the path does -/
theorem made_directory {made : Surroundings} (hcwd : s.tree.Grounded s.cwd)
    (hmake : s.makeDirectories p.parent = (none, made)) :
    made.cwd = s.cwd ∧ s.tree.Keeps made.tree ∧ made.tree.Grounded made.cwd ∧
      ∃ above, made.find p.parent = .ok (above, .directory) := by
  have hfurnished := furnished_makeDirectories s p.parent
  rw [hmake] at hfurnished
  have hgrounded : made.tree.Grounded made.cwd := by
    rw [hfurnished.cwd]
    exact hcwd.of_keeps hfurnished.keeps
  exact ⟨hfurnished.cwd, hfurnished.keeps, hgrounded, find_makeDirectories hmake⟩

/-- Without an obstacle the log is open, and its file is where the path leads. -/
theorem setUp_opens (hcwd : s.tree.Grounded s.cwd) (hpath : Settings.logPath s c w.file = .ok p)
    (hclear : ¬ Obstacle s p) :
    ∃ n s', setUp c w s = (none, ⟨Settings.threshold c w.level,
        .file (p.absolute s.cwd) (some n) :: (if w.terminal then [.terminal true] else [])⟩, s') ∧
      s'.find (p.absolute s.cwd) = .ok (s.goal p, .file n) := by
  rcases hmake : s.makeDirectories p.parent with ⟨_ | f, made⟩
  · obtain ⟨hmade, -, hgrounded, above, habove⟩ := made_directory hcwd hmake
    have hfilled := filledIn_makeDirectories s p.parent
    rw [hmake] at hfilled
    have hfree : made.tree.node? (s.goal p) ≠ some .directory := by
      intro hdirectory
      rcases hfilled.nodes (s.goal p) with hsame | ⟨-, hway⟩
      · exact hclear (.directory (hsame.symm.trans hdirectory))
      · exact hclear (.circle hway)
    have hlocated : made.locate (p.absolute s.cwd) = .ok (s.goal p) := by
      rw [← goal_of_cwd hmade p] at hfree ⊢
      rw [← hmade]
      apply locate_absolute hgrounded habove _ hfree
      rw [hmade]
      exact fun hunusable => hclear (.unusable hunusable)
    obtain ⟨n, opened, hopen⟩ := openToAdd_of_locate hlocated hfree
    have hopened := filledIn_openToAdd hopen
    refine ⟨n, opened, ?_, ?_⟩
    · simp only [setUp, hpath, hmake, hmade, hopen]
    · obtain ⟨l, hfound⟩ := find_openToAdd hopen
      have hstill : opened.locate (p.absolute s.cwd) = .ok (s.goal p) :=
        locate_of_keeps hopened.cwd hopened.keeps hlocated
      obtain rfl : l = s.goal p := Except.ok.inj ((find_eq_ok.1 hfound).1.symm.trans hstill)
      exact hfound
  · have hbarred : s.Barred p.parent := makeDirectories_fault.1 ⟨f, by rw [hmake]⟩
    exact absurd (.barred hbarred) hclear

/-- With an obstacle the log is not set up. -/
theorem setUp_obstructed (hcwd : s.tree.Grounded s.cwd) (hpath : Settings.logPath s c w.file = .ok p)
    (h : Obstacle s p) : ∃ t, (setUp c w s).1 = some t := by
  rcases hset : setUp c w s with ⟨_ | t, log, s'⟩
  · exfalso
    obtain ⟨path, n, made, hpath', hmake, hopen, -⟩ := setUp_ok hset
    obtain rfl : p = path := Except.ok.inj (hpath.symm.trans hpath')
    obtain ⟨hmade, hkeeps, hgrounded, above, habove⟩ := made_directory hcwd hmake
    obtain ⟨l, hl, hstands⟩ := openToAdd_ok hopen
    obtain ⟨husable, -, hgoal⟩ := locate_eq_ok.1 hl
    have hfree : made.tree.node? (s.goal p) ≠ some .directory := by
      have hplace : l = s.goal p := by
        rw [hgoal, ← goal_of_cwd hmade p, ← goal_absolute hgrounded habove, hmade]
      rw [← hplace]
      rcases hstands with ⟨hn, -⟩ | ⟨hn, -⟩ <;> simp [hn]
    cases h with
    | barred hbarred =>
      obtain ⟨f, hf⟩ := makeDirectories_fault.2 hbarred
      rw [hmake] at hf
      cases hf
    | directory stands => exact hfree (hkeeps _ _ stands)
    | circle back =>
      rw [← way_of_cwd hmade] at back
      exact hfree (way_of_find habove _ back)
    | unusable unusable => exact husable unusable
  · exact ⟨t, rfl⟩

/-- What setting up a log fills are gaps on the way of the file's directory, which is all directories then, and the
place of the file. -/
theorem filledIn_setUp (h : setUp c w s = (none, log, s')) :
    ∃ path, Settings.logPath s c w.file = .ok path ∧
      FilledIn (s.goal (path.absolute s.cwd) :: s.way path.parent) s s' ∧
      ∀ m ∈ s.way path.parent, s'.tree.node? m = some .directory := by
  obtain ⟨path, n, made, hpath, hmake, hopen, -⟩ := setUp_ok h
  have hmade := filledIn_makeDirectories s path.parent
  rw [hmake] at hmade
  have hopened := filledIn_openToAdd hopen
  rw [goal_of_cwd hmade.cwd] at hopened
  refine ⟨path, hpath, ?_, ?_⟩
  · apply FilledIn.trans (hmade.mono fun m hm => List.mem_cons_of_mem _ hm)
    apply hopened.mono
    intro m hm
    rw [List.mem_singleton.1 hm]
    exact List.mem_cons_self ..
  · intro m hm
    obtain ⟨above, habove⟩ := find_makeDirectories hmake
    rw [← way_of_cwd hmade.cwd] at hm
    exact hopened.keeps _ _ (way_of_find habove m hm)

/-- once the log is set up, its file stands at its path in full -/
theorem find_setUp (h : setUp c w s = (none, log, s')) {path : Path}
    (hpath : Settings.logPath s c w.file = .ok path) : ∃ l n, s'.find (path.absolute s.cwd) = .ok (l, .file n) := by
  obtain ⟨path', n, made, hpath', -, hopen, -⟩ := setUp_ok h
  obtain rfl : path = path' := Except.ok.inj (hpath.symm.trans hpath')
  obtain ⟨l, hfound⟩ := find_openToAdd hopen
  exact ⟨l, n, hfound⟩

end LinePrompt.Log
