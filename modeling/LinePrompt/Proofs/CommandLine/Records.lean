/-
What becomes of the records of an `ask`.

All that the controllers, the dialogs and the application say is about the one prompt, and each record is entered in the
file for the log as it is meant, with two exceptions: something can be in the way of the file (`Entered`), and a title
with a percent sign can keep the message of a controller from being formatted (`Filled`). Nothing is shown on the
terminal in any case. `records_entered` says all of that, and that nothing is lost if the title has no percent sign, or
the controllers are not heard, and the lines fit in the file; `records_dropped` is a title that loses a record.
-/
import LinePrompt.Proofs.CommandLine.Asking
import LinePrompt.Proofs.Screen.Remarks

namespace LinePrompt.CommandLine

open LinePrompt.Files LinePrompt.Log LinePrompt.Prompt LinePrompt.Screen Surroundings

variable {s s' : Surroundings} {a : Application} {words : List String} {log log' : Logbook} {g : Globals}
  {gestures : List Gesture} {r : Record} {threshold : Nat} {path : Path}

theorem mem_history_of_recordsOf {st : Stage} (h : r ∈ recordsOf (Stage.empty.marksSince st)) :
    .logged r ∈ st.history := by
  simp only [recordsOf, List.mem_filterMap] at h
  obtain ⟨m, hm, hr⟩ := h
  cases m with
  | logged r' =>
    obtain rfl := Option.some.inj hr
    simpa [Stage.marksSince, Stage.empty] using hm
  | _ => cases hr

/-- the application says nothing but remarks on its prompt -/
theorem remark_of_play (h : r ∈ (a.play threshold (.gestures gestures)).records) :
    threshold ≤ r.severity.rank ∧ ∃ text, Remark a.question.title r text := by
  obtain ⟨hpasses, name, text, hremark⟩ :=
    said_playSession (a.scene threshold) [a.question.title] gestures r (mem_history_of_recordsOf h)
  exact ⟨hpasses, text, hremark⟩

/-- what becomes of records on the prompt with this title, in a log with one file that is open at this path -/
structure Chronicle (title : String) (path : Path) (log : Logbook) (s : Surroundings) (records : List Record)
    (f : Finish) : Prop where
  /-- records pass the threshold, and say what is meant, unless a percent sign gets in the way of their arguments -/
  said : ∀ r ∈ records, log.effective ≤ r.severity.rank ∧
    ∃ text, Remark title r text ∧ (r.message = .ok text ∨ '%' ∈ title.toList ∧ Filled title r)
  /-- a record that says something is entered in the file -/
  entered : ∀ before r after text, records = before ++ r :: after → r.message = .ok text →
    ∃ number, Entered path (lineOf (log.addAll before s).2.surroundings.clock r text)
      (log.addAll before s).2.surroundings number
      ((log.addAll before s).1.add r (log.addAll before s).2.surroundings).2
  /-- a record that could not be formatted is lost, and leaves everything as it is -/
  dropped : ∀ before r after flaw, records = before ++ r :: after → r.message = .error flaw →
    ((log.addAll before s).1.add r (log.addAll before s).2.surroundings).2 =
      ⟨(log.addAll before s).2.surroundings, "", 1⟩
  /-- the terminal shows no records, and the command says nothing there -/
  silent : (log.addAll records s).2.shown = "" ∧ f.ending.err = ""
  left : f.surroundings = (log.addAll records s).2.surroundings
  /-- without a percent sign in the title, or above the level of the controllers' records, the file grows by all the
  lines, as long as they fit -/
  whole : '%' ∉ title.toList ∨ Severity.debug.rank < log.effective → ∃ l n, s.find path = .ok (l, .file n) ∧
    ((s.tree.content n).size + (linesOf s.clock records).utf8ByteSize < sizeLimit →
      (log.addAll records s).2.lost = 0 ∧
        f.surroundings.read path = .ok (s.tree.content n ++ (linesOf s.clock records).toUTF8))

theorem err_endingOf (a : Application) (played : Played) : (endingOf a played).err = "" := rfl

/-- remarks on a prompt, one after another, for a file that is open -/
theorem chronicle_of_remarks {title : String} {records : List Record} {f : Finish} {l : Location} {n : Nat}
    (hhandlers : log.handlers = [.file path (some n)]) (hfound : s.find path = .ok (l, .file n))
    (hremarks : ∀ r ∈ records, log.effective ≤ r.severity.rank ∧ ∃ text, Remark title r text)
    (herr : f.ending.err = "") (hleft : f.surroundings = (log.addAll records s).2.surroundings) :
    Chronicle title path log s records f := by
  have hkept : KeptIn path log s := ⟨some n, hhandlers, attached_some hfound⟩
  have hranks : ∀ before r after, records = before ++ r :: after →
      (log.addAll before s).1.effective ≤ r.severity.rank := by
    intro before r after hrecords
    rw [effective_addAll]
    exact (hremarks r (by rw [hrecords]; simp)).1
  have hsaid : ∀ r ∈ records, log.effective ≤ r.severity.rank ∧ ∃ text, Remark title r text ∧
      (r.message = .ok text ∨ '%' ∈ title.toList ∧ Filled title r) := by
    intro r hr
    obtain ⟨hpasses, text, hremark⟩ := hremarks r hr
    exact ⟨hpasses, text, hremark, hremark.message⟩
  refine ⟨hsaid, ?_, ?_, ⟨shown_addAll hkept records, herr⟩, hleft, ?_⟩
  · intro before r after text hrecords hmessage
    exact entered_add (hkept.addAll before) (hranks before r after hrecords) hmessage
  · intro before r after flaw hrecords hmessage
    obtain ⟨number, hhandler, -⟩ := hkept.addAll before
    rw [add_eq hhandler (hranks before r after hrecords)]
    simp only [Handler.handle, hmessage]
  · intro hplain
    refine ⟨l, n, hfound, fun hfits => ?_⟩
    have hmessages : ∀ r ∈ records, ∃ text, r.message = .ok text := by
      intro r hr
      obtain ⟨hpasses, text, -, hmessage | ⟨hpercent, hfilled⟩⟩ := hsaid r hr
      · exact ⟨text, hmessage⟩
      · have hdebug : r.severity = .debug := by
          rcases hfilled with ⟨o, rfl⟩ | ⟨o, phase, rfl⟩ <;> rfl
        rw [hdebug] at hpasses
        rcases hplain with hplain | habove
        · exact absurd hpercent hplain
        · exact absurd hpasses (Nat.not_le.2 habove)
    obtain ⟨hnone, hread⟩ := addAll_fits hhandlers hfound (fun r hr => (hsaid r hr).1) hmessages hfits
    exact ⟨hnone, by rw [hleft]; exact hread⟩

theorem chronicle_shown (h : Shown words (.gestures gestures) log s a g log' s') :
    ∃ path, Settings.logPath s (some a.settings) g.logFile = .ok path ∧
      Chronicle a.question.title (path.absolute s.cwd) log' s'
        (a.play log'.effective (.gestures gestures)).records (run words (.gestures gestures) log s) := by
  obtain ⟨path, n, made, hpath, -, hopen, hlog⟩ := setUp_ok h.opened
  obtain ⟨l, hfound⟩ := find_openToAdd hopen
  have hhandlers : log'.handlers = [.file (path.absolute s.cwd) (some n)] := by rw [hlog]; rfl
  have herr : (run words (.gestures gestures) log s).ending.err = "" := by rw [h.ending, err_endingOf]
  exact ⟨path, hpath, chronicle_of_remarks hhandlers hfound (fun r hr => remark_of_play hr) herr h.left⟩

/-- **The records of an `ask`.** Whatever the title, the labels, the settings and the gestures, a record is lost only
where a percent sign of the title spoils the formatting of a controller's message, or where something is in the way of
the file; nothing is shown on the terminal. -/
theorem records_entered (words : List String) (gestures : List Gesture) (log : Logbook) (s : Surroundings)
    (a : Application) (happ : (run words (.gestures gestures) log s).ending.application = some a) :
    ∃ g path log' s', Task.ofWords s words = .ok (.ask g a.question) ∧
      Settings.logPath s (some a.settings) g.logFile = .ok path ∧
      setUp (some a.settings) ⟨g.level, g.logFile, false⟩ s = (none, log', s') ∧
      log'.effective = (run words (.gestures gestures) log s).log.effective ∧
      Chronicle a.question.title (path.absolute s.cwd) log' s'
        (a.play log'.effective (.gestures gestures)).records (run words (.gestures gestures) log s) := by
  obtain ⟨g, log', s', h⟩ := shown_of_application happ
  obtain ⟨path, hpath, hchronicle⟩ := chronicle_shown h
  refine ⟨g, path, log', s', h.asked, hpath, h.opened, ?_, hchronicle⟩
  rw [h.logged, effective_addAll]

/-! ### A title with a percent sign -/

/-- the question whose title is a percent sign -/
def percent : Application := ⟨⟨"%", none, "OK", none, none, false, none⟩, .standard⟩

/-- its words, which ask for everything to be said -/
def percentWords : List String := ["--log-level", "DEBUG", "ask", "%"]

theorem readGlobals_percent : readGlobals quiet percentWords = .ok (⟨some "DEBUG", some "c"⟩, ["ask", "%"]) := by
  have hwords : Command.main.grammar.readWords percentWords = .ok ⟨[(.logLevel, "DEBUG")], ["ask", "%"]⟩ := by
    decide +kernel
  have hnamed : level? "DEBUG" = some "DEBUG" := by decide +kernel
  have hlevel : checkGlobal .logLevel ⟨[(.logLevel, "DEBUG")], ["ask", "%"]⟩ quiet = .ok () := by
    show (if (level? "DEBUG").isSome then _ else _) = _
    rw [hnamed]
    rfl
  have hfile : checkGlobal .logFile ⟨[(.logLevel, "DEBUG")], ["ask", "%"]⟩ quiet = .ok () := by
    show (stands quiet "c").map (fun _ => ()) = _
    rw [stands_quiet]
    rfl
  have hsaid : percentWords ≠ [] := List.cons_ne_nil _ _
  rw [readGlobals_of_checks hsaid hwords rfl hlevel hfile]
  have hvalue : valueOr ⟨[(.logLevel, "DEBUG")], ["ask", "%"]⟩ .logLevel quiet "TEXTPROMPT_LOG_LEVEL" = some "DEBUG" :=
    rfl
  rw [hvalue, Option.bind_some, hnamed]
  rfl

/-- the prompt is shown, and everything is to be said -/
theorem run_percent (play : Play) :
    (run percentWords play .untouched quiet).log.effective = 10 ∧
      (run percentWords play .untouched quiet).ending = endingOf percent (percent.play 10 play) := by
  have hquestion : readQuestion quiet ["%"] = .ok percent.question := rfl
  have htask : Task.ofWords quiet percentWords = .ok (.ask ⟨some "DEBUG", some "c"⟩ percent.question) := by
    rw [Task.ofWords, readGlobals_percent]
    show (readQuestion quiet ["%"]).bind (fun q => .ok (Task.ask ⟨some "DEBUG", some "c"⟩ q)) = _
    rw [hquestion]
    rfl
  have hset : settingsFor quiet percent.question.config = .ok .standard := by
    rw [settingsFor, show percent.question.config = none from rfl, load_quiet]
    rfl
  have hthreshold : Settings.threshold (some .standard) (some "DEBUG") = 10 := by decide +kernel
  exact run_ask play .untouched htask hset (hthreshold ▸ setUp_quiet (some "DEBUG"))

/-- the text is confirmed, and the message about it has a percent sign in front of an apostrophe -/
theorem messages_percent :
    (percent.play 10 (.gestures [.keys [.enter]])).records.map (·.message.toOption) =
      [some "prompt '%': shown", none, some "prompt '%' finished: primary"] := by
  decide +kernel

/-- a title that is a percent sign loses one of three records -/
theorem records_entered_percent :
    (run percentWords (.gestures [.keys [.enter]]) .untouched quiet).ending.application = some percent ∧
      ∃ (g : Globals) (path : Path) (log' : Logbook) (s' : Surroundings),
        Task.ofWords quiet percentWords = .ok (.ask g percent.question) ∧
        setUp (some percent.settings) ⟨g.level, g.logFile, false⟩ quiet = (none, log', s') ∧
        Chronicle "%" (path.absolute quiet.cwd) log' s'
          (percent.play log'.effective (.gestures [.keys [.enter]])).records
          (run percentWords (.gestures [.keys [.enter]]) .untouched quiet) := by
  have happ : (run percentWords (.gestures [.keys [.enter]]) .untouched quiet).ending.application = some percent := by
    rw [(run_percent _).2]
    exact application_endingOf _ _
  obtain ⟨g, path, log', s', htask, -, hup, -, hchronicle⟩ := records_entered _ _ _ _ _ happ
  exact ⟨happ, g, path, log', s', htask, hup, hchronicle⟩

/-- Not every record can be formatted. -/
theorem records_dropped :
    ¬ ∀ (words : List String) (gestures : List Gesture) (log : Logbook) (s : Surroundings) (a : Application),
      (run words (.gestures gestures) log s).ending.application = some a →
        ∀ r ∈ (a.play (run words (.gestures gestures) log s).log.effective (.gestures gestures)).records,
          ∃ text, r.message = .ok text := by
  intro hall
  have happ : (run percentWords (.gestures [.keys [.enter]]) .untouched quiet).ending.application = some percent := by
    rw [(run_percent _).2]
    exact application_endingOf _ _
  have hrecords := hall _ _ _ _ _ happ
  rw [(run_percent _).1] at hrecords
  have hnone : none ∈ (percent.play 10 (.gestures [.keys [.enter]])).records.map (·.message.toOption) := by
    rw [messages_percent]
    simp
  obtain ⟨r, hr, hmessage⟩ := List.mem_map.1 hnone
  obtain ⟨text, htext⟩ := hrecords r hr
  rw [htext] at hmessage
  cases hmessage

end LinePrompt.CommandLine
