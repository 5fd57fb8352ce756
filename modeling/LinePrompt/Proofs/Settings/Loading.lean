/-
What comes of loading settings from a file that can be read.

The settings are loaded, or the trouble is of their own kinds, or it is one of three that are not (`Unreported`): bytes
that are no text, a word in it that looks like a number, a character's code, a date or a truth value and names none, and
a number with too many digits to be shown. `load_reported` says so, and what the two commands make of it: trouble of
their own kinds they report as an error of their user, and the rest escapes them, though it is the file's fault as well.
Nothing is said here of collections that stand in each other more deeply than a machine's stack reaches.
-/
import LinePrompt.Proofs.Files.Writing

/-! ## The text of a value -/

namespace LinePrompt.Yaml

/-- the first fault among several results is the fault of one of them -/
theorem exists_of_mapM_error {α β : Type} {f : α → Except Fault β} {xs : List α} {fault : Fault}
    (h : xs.mapM f = .error fault) : ∃ x ∈ xs, f x = .error fault := by
  induction xs with
  | nil => cases h
  | cons x rest ih =>
    rw [List.mapM_cons] at h
    rcases hx : f x with e | y
    · simp only [hx, bind, Except.bind, Except.error.injEq] at h
      exact ⟨x, List.mem_cons_self, h ▸ hx⟩
    · rcases hrest : rest.mapM f with e | ys
      · simp only [hx, hrest, bind, Except.bind, Except.error.injEq] at h
        obtain ⟨x', hin, hx'⟩ := ih (h ▸ hrest)
        exact ⟨x', List.mem_cons_of_mem _ hin, hx'⟩
      · simp [hx, hrest, bind, Except.bind, pure, Except.pure] at h

theorem map_eq_error {α β : Type} {r : Except Fault α} {f : α → β} {fault : Fault} (h : r.map f = .error fault) :
    r = .error fault := by
  cases r with
  | ok a => cases h
  | error e => simpa [Except.map] using h

/-- of two results that are put together one fails if the whole does -/
theorem error_of_both {α β γ : Type} {ra : Except Fault α} {rb : Except Fault β} {f : α → β → γ} {fault : Fault}
    (h : (do pure (f (← ra) (← rb))) = (.error fault : Except Fault γ)) : ra = .error fault ∨ rb = .error fault := by
  rcases ra with e | a
  · exact Or.inl (by simpa [bind, Except.bind] using h)
  · rcases rb with e | b
    · exact Or.inr (by simpa [bind, Except.bind] using h)
    · simp [bind, Except.bind, pure, Except.pure] at h

theorem Scalar.quoted_error {s : Scalar} {fault : Fault} (h : s.quoted = .error fault) : fault = .longText := by
  cases s with
  | int n =>
    simp only [Scalar.quoted, intText] at h
    split_ifs at h
    exact (Except.error.inj h).symm
  | bool b => cases b <;> cases h
  | _ => cases h

namespace Value

/-- only a number with too many digits keeps a value from being shown -/
theorem itemQuoted_error (v : Value) (bound : Nat) (around : List Nat) (i : Item) {fault : Fault}
    (h : v.itemQuoted bound around i = .error fault) : fault = .longText := by
  induction bound generalizing around i fault with
  | zero => cases h
  | succ bound ih =>
    cases i with
    | scalar s => exact Scalar.quoted_error h
    | cell n =>
      unfold itemQuoted at h
      dsimp only at h
      -- each of the four kinds of collections shows its items, one after another
      split at h
      · split_ifs at h
        obtain ⟨i, -, hi⟩ := exists_of_mapM_error (map_eq_error h)
        exact ih _ _ hi
      · split_ifs at h
        obtain ⟨⟨a, b⟩, -, hi⟩ := exists_of_mapM_error (map_eq_error h)
        rcases error_of_both hi with hi | hi
        · exact ih _ _ hi
        · exact ih _ _ hi
      · split_ifs at h
        obtain ⟨⟨a, b⟩, -, hi⟩ := exists_of_mapM_error (map_eq_error h)
        rcases error_of_both hi with hi | hi
        · exact ih _ _ hi
        · exact ih _ _ hi
      · split_ifs at h
        obtain ⟨i, -, hi⟩ := exists_of_mapM_error (map_eq_error h)
        exact ih _ _ hi
      · cases h
      · cases h
      · cases h

theorem quoted_error {v : Value} {fault : Fault} (h : v.quoted = .error fault) : fault = .longText :=
  itemQuoted_error v _ _ _ h

/-- a value that cannot be quoted has no text either -/
theorem text_of_quoted_error {v : Value} {fault : Fault} (h : v.quoted = .error fault) : v.text = .error fault := by
  unfold text
  split
  · rename_i s hroot
    simp [quoted, itemQuoted, hroot, Scalar.quoted] at h
  · rename_i n hroot
    split
    · rename_i d hd
      simp [quoted, itemQuoted, hroot, hd] at h
    · rename_i m hm
      simp [quoted, itemQuoted, hroot, hm] at h
    · exact h
  · exact h

theorem text_error {v : Value} {fault : Fault} (h : v.text = .error fault) : fault = .longText := by
  unfold text at h
  split at h
  · cases h
  · split at h
    · cases h
    · cases h
    · exact quoted_error h
  · exact quoted_error h

end Value

end LinePrompt.Yaml

/-! ## Trouble -/

namespace LinePrompt.Settings

open LinePrompt.Files LinePrompt.Yaml Surroundings

variable {s : Surroundings} {p : Path} {raw : String} {bytes : ByteArray} {t : Trouble}

/-- Trouble with a file's bytes that is not of the settings' own kinds. -/
inductive Unreported (bytes : ByteArray) : Trouble → Prop where
  /-- the bytes are no text -/
  | undecodable (h : String.fromUTF8? bytes = none) : Unreported bytes .undecodable
  /-- a word in the text looks like a number, a character's code, a date or a truth value, and names none -/
  | value {text : String} {fault : Yaml.Fault} (htext : String.fromUTF8? bytes = some text)
    (hvalue : Value.parse text.toList = .error fault) (hfault : fault ≠ .unreadable) :
    Unreported bytes (.value fault)
  /-- an entry that is shown has a number with too many digits -/
  | longText {text key : String} {v e : Value} (htext : String.fromUTF8? bytes = some text)
    (hvalue : Value.parse text.toList = .ok v) (hentry : v.get? key = some e)
    (hlong : e.text = .error .longText) : Unreported bytes (.value .longText)

theorem Unreported.not_own (h : Unreported bytes t) : t.isOwn = false := by
  cases h <;> rfl

/-- an entry of the value has too many digits to be shown, and this is the trouble -/
def NotShown (v : Value) (t : Trouble) : Prop :=
  t = .value .longText ∧ ∃ key e, v.get? key = some e ∧ e.text = .error .longText

theorem textEntry_error {v : Value} {key default : String} (h : textEntry v key default = .error t) :
    NotShown v t := by
  unfold textEntry at h
  split at h
  · cases h
  · rename_i e he
    rcases hshown : e.text with fault | shown
    · have hlong := Value.text_error hshown
      subst hlong
      simp only [hshown, ofValue, Except.mapError, Except.error.injEq] at h
      exact ⟨h.symm, key, e, he, hshown⟩
    · simp [hshown, ofValue, Except.mapError] at h

theorem switchEntry_error {v : Value} (h : switchEntry v = .error t) : t.isOwn = true ∨ NotShown v t := by
  unfold switchEntry at h
  split at h
  · cases h
  · rename_i e he
    split at h
    · cases h
    · rcases hshown : e.quoted with fault | shown
      · have hlong := Value.quoted_error hshown
        subst hlong
        simp only [hshown, ofValue, Except.mapError, Except.bind, Except.error.injEq] at h
        exact Or.inr ⟨h.symm, _, e, he, Value.text_of_quoted_error hshown⟩
      · simp only [hshown, ofValue, Except.mapError, Except.bind, Except.error.injEq] at h
        exact Or.inl (h ▸ rfl)

/-- what keeps the settings from being read off a file's value -/
theorem ofDocument_error {path : String} {v : Value} (h : ofDocument path v = .error t) :
    t.isOwn = true ∨ NotShown v t := by
  unfold ofDocument at h
  by_cases hmapping : (!v.isBlank && v.entries?.isNone) = true
  · simp only [hmapping, if_true, bind, Except.bind, throw, throwThe, MonadExceptOf.throw, Except.error.injEq] at h
    exact Or.inl (h ▸ rfl)
  · simp only [hmapping, Bool.false_eq_true, if_false, bind, Except.bind, pure, Except.pure] at h
    rcases hs : switchEntry v with t' | b
    · simp only [hs, Except.error.injEq] at h
      exact h ▸ switchEntry_error hs
    · rcases hl : textEntry v "default_cancel_label" standard.cancelLabel with t' | label
      · simp only [hs, hl, Except.error.injEq] at h
        exact Or.inr (h ▸ textEntry_error hl)
      · rcases hv : textEntry v "log_level" standard.logLevel with t' | level
        · simp only [hs, hl, hv, Except.error.injEq] at h
          exact Or.inr (h ▸ textEntry_error hv)
        · simp [hs, hl, hv] at h

/-- what keeps the settings from being read off bytes -/
theorem ofBytes_error {path : String} (h : ofBytes path bytes = .error t) : t.isOwn = true ∨ Unreported bytes t := by
  unfold ofBytes at h
  rcases htext : String.fromUTF8? bytes with _ | text
  · simp only [htext, Except.error.injEq] at h
    exact Or.inr (h ▸ .undecodable htext)
  · simp only [htext] at h
    rcases hvalue : Value.parse text.toList with fault | v
    · rw [hvalue] at h
      cases fault with
      | unreadable => exact Or.inl (Except.error.inj h ▸ rfl)
      | _ => exact Or.inr (Except.error.inj h ▸ .value htext hvalue (by simp))
    · rw [hvalue] at h
      rcases ofDocument_error h with hown | ⟨rfl, key, e, hentry, hlong⟩
      · exact Or.inl hown
      · exact Or.inr (.longText htext hvalue hentry hlong)

/-- the settings asked for are those that the bytes of their file hold -/
theorem load_of_read (hraw : raw ≠ "") (hread : s.read (.ofText raw) = .ok bytes) :
    load s (some raw) = ofBytes (Path.ofText raw).text bytes := by
  have hgiven : nonempty? (some raw) = some raw := by simp [nonempty?, hraw]
  simp only [load, hgiven, firstThere?, isThere_of_read hread, bind, Except.bind, Settings.read, hread]

/-! ## Commands -/

open LinePrompt.CommandLine LinePrompt.Log

/-- What a command makes of trouble with the settings: of their own kinds it is reported on the terminal, as an error of
the user; else it escapes. -/
inductive EndsBy (bytes : ByteArray) (t : Trouble) : Ending → Prop where
  | reported (own : t.isOwn = true) :
    EndsBy bytes t ⟨1, "", printed ("Error: " ++ t.message ++ "\n"), none, none⟩
  | escaped (unreported : Unreported bytes t) : EndsBy bytes t (.escaped t)

theorem endsBy_troubled (h : t.isOwn = true ∨ Unreported bytes t) : EndsBy bytes t (.troubled t) := by
  unfold Ending.troubled
  rcases h with hown | hun
  · rw [if_pos hown]
    exact .reported hown
  · rw [if_neg (by simp [hun.not_own])]
    exact .escaped hun

theorem settingsFor_error {config : Option String} (h : load s config = .error t) :
    settingsFor s config = .error t := by
  simp [settingsFor, h, Except.map]

/-- `ask` loads its settings before anything else -/
theorem ask_ending {words : List String} {g : Globals} {q : Question} (play : Play) (log : Logbook)
    (htask : Task.ofWords s words = .ok (.ask g q)) (h : load s q.config = .error t) :
    (CommandLine.run words play log s).ending = .troubled t := by
  simp only [CommandLine.run, htask, runAsk, settingsFor_error h]

/-- `validate` loads its settings once the log is set up, which has changed no file -/
theorem validate_ending {words : List String} {g : Globals} {log' : Logbook} {s' : Surroundings} (play : Play)
    (log : Logbook) (hraw : raw ≠ "") (hread : s.read (.ofText raw) = .ok bytes)
    (htask : Task.ofWords s words = .ok (.validate g (some raw)))
    (hset : setUp none ⟨g.level, g.logFile, true⟩ s = (none, log', s')) (h : load s (some raw) = .error t) :
    (CommandLine.run words play log s).ending = .troubled t := by
  have hpreserved : Preserved s s' := by
    have hp := preserved_setUp none ⟨g.level, g.logFile, true⟩ s
    rwa [hset] at hp
  have hload : load s' (some raw) = .error t := by
    rw [load_of_read hraw (hpreserved.read hread), ← load_of_read hraw hread, h]
  simp only [CommandLine.run, htask, runValidate, hset, settingsFor_error hload]

/-- From a file that can be read the settings are loaded, or there is trouble of their own kinds, or trouble that no
command reports; and each command that gets to the settings ends by that trouble. -/
theorem load_reported (hraw : raw ≠ "") (hread : s.read (.ofText raw) = .ok bytes) :
    (∃ c, load s (some raw) = .ok c) ∨
      ∃ t, load s (some raw) = .error t ∧ (t.isOwn = true ∨ Unreported bytes t) ∧
        (∀ words g q play log, Task.ofWords s words = .ok (.ask g q) → q.config = some raw →
          EndsBy bytes t (CommandLine.run words play log s).ending) ∧
        ∀ words g play log log' s', Task.ofWords s words = .ok (.validate g (some raw)) →
          setUp none ⟨g.level, g.logFile, true⟩ s = (none, log', s') →
            EndsBy bytes t (CommandLine.run words play log s).ending := by
  rcases hload : load s (some raw) with t | c
  · refine Or.inr ⟨t, rfl, ?_⟩
    have hkind : t.isOwn = true ∨ Unreported bytes t := ofBytes_error (load_of_read hraw hread ▸ hload)
    refine ⟨hkind, ?_, ?_⟩
    · intro words g q play log htask hconfig
      rw [ask_ending play log htask (hconfig ▸ hload)]
      exact endsBy_troubled hkind
    · intro words g play log log' s' htask hset
      rw [validate_ending play log hraw hread htask hset hload]
      exact endsBy_troubled hkind
  · exact Or.inl ⟨c, rfl⟩

/-! ### A date that is none -/

/-- a file whose label looks like a date of a thirteenth month -/
def misdated : Surroundings :=
  { Surroundings.bare with tree := .oneFile "c" "default_cancel_label: 2024-13-45\n".toUTF8 }

theorem read_misdated : misdated.read (.ofText "c") = .ok "default_cancel_label: 2024-13-45\n".toUTF8 :=
  read_eq_ok_iff.2 ⟨["c"], by rw [Path.ofText_oneLetter]; decide +kernel, rfl⟩

/-- the trouble with the misdated file escapes the commands -/
theorem load_reported_misdated :
    "c" ≠ "" ∧ misdated.read (.ofText "c") = .ok "default_cancel_label: 2024-13-45\n".toUTF8 ∧
      ((∃ c, load misdated (some "c") = .ok c) ∨
        ∃ t, load misdated (some "c") = .error t ∧
          (t.isOwn = true ∨ Unreported "default_cancel_label: 2024-13-45\n".toUTF8 t)) := by
  refine ⟨by decide, read_misdated, ?_⟩
  rcases load_reported (by decide) read_misdated with hloaded | ⟨t, ht, hkind, -, -⟩
  · exact Or.inl hloaded
  · exact Or.inr ⟨t, ht, hkind⟩

/-- Not all trouble with a file that can be read is of the settings' own kinds. -/
theorem load_escapes :
    ¬ ∀ (s : Surroundings) (raw : String) (bytes : ByteArray), raw ≠ "" → s.read (.ofText raw) = .ok bytes →
        (∃ c, load s (some raw) = .ok c) ∨ ∃ t, load s (some raw) = .error t ∧ t.isOwn = true := by
  intro hall
  have hparse : Value.parse "default_cancel_label: 2024-13-45\n".toList = .error (.badDate .month) := by
    decide +kernel
  have htext : String.fromUTF8? "default_cancel_label: 2024-13-45\n".toUTF8 =
      some "default_cancel_label: 2024-13-45\n" := dif_pos (String.isValidUTF8 _)
  have hload : load misdated (some "c") = .error (.value (.badDate .month)) := by
    rw [load_of_read (by decide) read_misdated, ofBytes, htext]
    simp only [hparse]
  rcases hall misdated "c" _ (by decide) read_misdated with ⟨c, hc⟩ | ⟨t, ht, hown⟩
  · rw [hload] at hc
    cases hc
  · rw [hload] at ht
    cases ht
    exact absurd hown (by decide)

end LinePrompt.Settings
