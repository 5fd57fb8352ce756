/-
A threshold takes records away, and nothing else.

The same calls are made twice, on scenes that differ in the threshold alone. Under the higher threshold every call does
what it does under the lower one, to the same controllers and screens, and tells the same history but for the records
that do not reach the higher threshold: `exec_sifted`, at any depth of any scripts. Whether a record could be formatted
makes no difference, since nobody reads a record during a run. `threshold_only_sifts` says so of the reports of a whole
run.

The proof follows the calls from an action up to `exec`, with one equation for each of the computations of a call.
-/
import LinePrompt.CommandLine.Run
import LinePrompt.Proofs.Prompt.Calls

namespace LinePrompt.Prompt

open LinePrompt.Log LinePrompt.Screen LinePrompt.CommandLine

variable {sc : Scene} {st st' : Stage} {t : Nat} {α β : Type}

/-! ## Sifted histories -/

/-- is the mark still told under the threshold? A record is if its severity reaches it, and every other mark is. -/
def Mark.stands (t : Nat) : Mark → Bool
  | .logged r => decide (t ≤ r.severity.rank)
  | _ => true

/-- the marks that are no records -/
def Mark.isEvent : Mark → Bool
  | .logged _ => false
  | _ => true

/-- the same scene with another threshold -/
def Scene.withThreshold (sc : Scene) (t : Nat) : Scene := { sc with threshold := t }

def Stage.sifted (t : Nat) (st : Stage) : Stage := { st with history := st.history.filter (Mark.stands t) }

def Ran.sifted (t : Nat) (r : Ran α) : Ran α := ⟨r.answer, r.stage.sifted t⟩

/-- going on from a sifted result is going on and sifting -/
theorem andThen_sifted {r : Ran α} {next next' : α → Stage → Ran β}
    (hn : ∀ a st, next' a (st.sifted t) = (next a st).sifted t) :
    (r.sifted t).andThen next' = (r.andThen next).sifted t := by
  obtain ⟨answer, st⟩ := r
  cases answer with
  | ok a => exact hn a st
  | error f => rfl

/-! ## Changes of a stage -/

theorem setText_sifted (st : Stage) (id : Nat) (text : String) :
    (st.sifted t).setText id text = (st.setText id text).sifted t := by
  unfold Stage.setText
  rw [show (st.sifted t).phase id = st.phase id from rfl]
  split <;> rfl

theorem ensure_sifted (st : Stage) (name : String) :
    (st.sifted t).ensure (sc.withThreshold t) name = (st.ensure sc name).sifted t := by
  unfold Stage.ensure
  rw [show (st.sifted t).current? name = st.current? name from rfl]
  split_ifs <;> rfl

theorem pop_sifted (st : Stage) (why : Departure) : (st.sifted t).pop why = (st.pop why).sifted t := by
  unfold Stage.pop
  rw [show (st.sifted t).host = st.host from rfl]
  split <;> rfl

section Sifting

variable (h : sc.threshold ≤ t)

include h

/-- a record is made under the higher threshold if it is made under the lower one and stands -/
theorem log_sifted (st : Stage) {severity : Severity} {record : Unit → Record}
    (hr : (record ()).severity = severity) :
    (st.sifted t).log (sc.withThreshold t) severity record = (st.log sc severity record).sifted t := by
  unfold Stage.log
  rw [show (sc.withThreshold t).threshold = t from rfl]
  by_cases ht : t ≤ severity.rank
  · rw [if_pos ht, if_pos (h.trans ht)]
    simp only [Stage.sifted, Stage.note, List.filter_cons, Mark.stands, hr, ht, decide_true, if_true]
  · rw [if_neg ht]
    split_ifs
    · simp only [Stage.sifted, Stage.note, List.filter_cons, Mark.stands, hr, ht, decide_false, Bool.false_eq_true,
        if_false]
    · rfl

theorem debug_sifted (st : Stage) (id : Nat) (message : String) (args : List String) :
    (st.sifted t).debug (sc.withThreshold t) id message args = (st.debug sc id message args).sifted t :=
  log_sifted h st rfl

theorem report_sifted (st : Stage) (id : Nat) (severity : Severity) (logger after : String) :
    (st.sifted t).report (sc.withThreshold t) id severity logger after =
      (st.report sc id severity logger after).sifted t :=
  log_sifted h st rfl

theorem finishWith_sifted (cue : Cue) (st : Stage) :
    finishWith (sc.withThreshold t) cue (st.sifted t) = (finishWith sc cue st).sifted t := by
  have hreport (st : Stage) (after : String) := report_sifted h st cue.controller .info appLogger after
  have hphase : (st.sifted t).phase cue.controller = st.phase cue.controller := rfl
  have htext : (st.sifted t).text cue.controller = st.text cue.controller := rfl
  have hkept (kept : String) : ({ st.sifted t with kept } : Stage) = { st with kept }.sifted t := rfl
  have hold : (st.sifted t).kept = st.kept := rfl
  simp only [finishWith, hphase, htext, hold, hkept, hreport]
  rfl

theorem closeDialog_sifted (id screen : Nat) (st : Stage) :
    closeDialog (sc.withThreshold t) id screen (st.sifted t) = (closeDialog sc id screen st).sifted t := by
  unfold closeDialog
  rw [show (st.sifted t).host = st.host from rfl]
  split_ifs
  · rfl
  · exact pop_sifted st _
  · exact report_sifted h st id _ _ _

/-! ## Scripts -/

/-- a meaning of calls that does to a sifted stage what another does, sifted -/
def Sifts (t : Nat) (again again' : Caller) : Prop := ∀ c st, again' c (st.sifted t) = (again c st).sifted t

variable {again again' : Caller} (ha : Sifts t again again')

include ha

theorem act_sifted (cue : Cue) (action : Action) (st : Stage) :
    act again' (sc.withThreshold t) cue action (st.sifted t) = (act again sc cue action st).sifted t := by
  induction action with
  | call c =>
    unfold act
    rw [ha c st]
    exact andThen_sifted fun _ _ => rfl
  | raise kind message => rfl
  | attempt action ih =>
    unfold act
    rw [ih]
    obtain ⟨answer, st'⟩ := act again sc cue action st
    cases answer with
    | ok a => rfl
    | error f => cases f <;> rfl
  | keep => rfl
  | finish => exact congrArg (Ran.mk _) (finishWith_sifted h cue st)

theorem play_sifted (cue : Cue) (script : Script) (st : Stage) :
    play again' (sc.withThreshold t) cue script (st.sifted t) = (play again sc cue script st).sifted t := by
  induction script generalizing st with
  | nil => rfl
  | cons action rest ih =>
    unfold play
    rw [act_sifted h ha]
    exact andThen_sifted fun _ st' => ih st'

omit h ha in
theorem callback_sifted (id : Nat) (cb : Callback) {body body' : Stage → Ran Unit}
    (hb : ∀ st, body' (st.sifted t) = (body st).sifted t) (st : Stage) :
    callback id cb body' (st.sifted t) = (callback id cb body st).sifted t := by
  have hbegan : (st.sifted t).note (.began id cb) = (st.note (.began id cb)).sifted t := rfl
  unfold callback
  rw [hbegan, hb]
  exact andThen_sifted fun _ _ => rfl

/-! ## Controllers -/

theorem surfaceShow_sifted (id : Nat) (s : Surface) (st : Stage) :
    surfaceShow again' (sc.withThreshold t) id s (st.sifted t) = (surfaceShow again sc id s st).sifted t := by
  cases s with
  | scripted place => exact play_sifted h ha _ _ st
  | dialog k => rfl

theorem surfaceClose_sifted (id : Nat) (s : Surface) (st : Stage) :
    surfaceClose again' (sc.withThreshold t) id s (st.sifted t) = (surfaceClose again sc id s st).sifted t := by
  cases s with
  | scripted place => exact play_sifted h ha _ _ st
  | dialog k => exact congrArg (Ran.mk _) (closeDialog_sifted h id k st)

theorem display_sifted (id : Nat) (s : Surface) (st : Stage) :
    display again' (sc.withThreshold t) id s (st.sifted t) = (display again sc id s st).sifted t := by
  have hshown : (st.sifted t).setPhase id (.shown s) = (st.setPhase id (.shown s)).sifted t := rfl
  unfold display
  rw [show (st.sifted t).phase id = st.phase id from rfl]
  cases st.phase id with
  | created =>
    simp only [hshown, debug_sifted h]
    exact callback_sifted id _ (fun st => surfaceShow_sifted h ha id s st) _
  | shown s => rfl
  | closed o => rfl

theorem runHandler_sifted (id : Nat) (r : Request) (cb : Callback) (st : Stage) :
    runHandler again' (sc.withThreshold t) id r cb (st.sifted t) = (runHandler again sc id r cb st).sifted t := by
  unfold runHandler
  cases handlerScript r cb with
  | none => rfl
  | some script => exact callback_sifted id cb (fun st => play_sifted h ha _ script st) st

theorem close_sifted (id : Nat) (o : Outcome) (st : Stage) :
    close again' (sc.withThreshold t) id o (st.sifted t) = (close again sc id o st).sifted t := by
  have hclosed : (st.sifted t).setPhase id (.closed o) = (st.setPhase id (.closed o)).sifted t := rfl
  have hrequest : (st.sifted t).request (sc.withThreshold t) id = st.request sc id := rfl
  have htext : (st.sifted t).text id = st.text id := rfl
  unfold close
  rw [show (st.sifted t).phase id = st.phase id from rfl]
  cases st.phase id with
  | shown s =>
    simp only [hclosed, hrequest, htext, debug_sifted h]
    rw [callback_sifted id _ (fun st => surfaceClose_sifted h ha id s st)]
    refine andThen_sifted fun _ st₁ => ?_
    rw [runHandler_sifted h ha]
    refine andThen_sifted fun _ st₂ => ?_
    rw [runHandler_sifted h ha]
    exact andThen_sifted fun _ _ => rfl
  | created => exact congrArg (Ran.mk _) (debug_sifted h st id _ _)
  | closed o' => exact congrArg (Ran.mk _) (debug_sifted h st id _ _)

theorem alternate_sifted (id : Nat) (st : Stage) :
    alternate again' (sc.withThreshold t) id (st.sifted t) = (alternate again sc id st).sifted t := by
  unfold alternate
  rw [show (st.sifted t).request (sc.withThreshold t) id = st.request sc id from rfl]
  split_ifs
  · exact close_sifted h ha id .alternate st
  · exact congrArg (Ran.mk _) (debug_sifted h st id _ _)

/-! ## Calls -/

omit h ha in
theorem flag_sifted (r : Ran Bool) : (r.sifted t).flag = r.flag.sifted t := andThen_sifted fun _ _ => rfl

omit h ha in
theorem silent_sifted (r : Ran Unit) : (r.sifted t).silent = r.silent.sifted t := andThen_sifted fun _ _ => rfl

theorem perform_sifted (name : String) (id : Nat) (verb : Verb) (st : Stage) :
    perform again' (sc.withThreshold t) name id verb (st.sifted t) = (perform again sc name id verb st).sifted t := by
  cases verb with
  | renew => rfl
  | display surface => simp only [perform, display_sifted h ha, silent_sifted]
  | setText text => exact congrArg (Ran.mk _) (setText_sifted st id text)
  | alternate => simp only [perform, alternate_sifted h ha, flag_sifted]
  | primary => simp only [perform, close_sifted h ha, flag_sifted]
  | submit => simp only [perform, close_sifted h ha, flag_sifted]
  | cancel => simp only [perform, close_sifted h ha, flag_sifted]
  | dismiss => simp only [perform, close_sifted h ha, flag_sifted]
  | close outcome => simp only [perform, close_sifted h ha, flag_sifted]
  | hasAlternate => rfl
  | cancelLabel default => rfl
  | assign field => rfl

theorem sifts_call : Sifts t (call again sc) (call again' (sc.withThreshold t)) := by
  intro c st
  cases c with
  | prompt name verb =>
    have hid : ((st.ensure sc name).sifted t).currentId name = (st.ensure sc name).currentId name := rfl
    unfold call
    simp only [ensure_sifted, hid]
    exact perform_sifted h ha name _ verb _
  | present name =>
    have hprepared (host : Host) : ({ (st.sifted t).create (sc.withThreshold t) name with host } : Stage) =
        { st.create sc name with host }.sifted t := rfl
    unfold call present
    simp only [hprepared]
    exact (congrArg Ran.silent (display_sifted h ha _ _ _)).trans (silent_sifted _)
  | notice message => rfl

end Sifting

/-- **Under a higher threshold a call does the same**, and its records are those of the lower one that reach it. -/
theorem exec_sifted (h : sc.threshold ≤ t) (depth : Nat) :
    Sifts t (exec sc depth) (exec (sc.withThreshold t) depth) := by
  induction depth with
  | zero => exact fun _ _ => rfl
  | succ depth ih => exact sifts_call h ih

/-! ## Runs -/

theorem marksSince_sifted (hs : st.history <:+ st'.history) :
    (st.sifted t).marksSince (st'.sifted t) = (st.marksSince st').filter (Mark.stands t) := by
  obtain ⟨ms, he⟩ := hs
  have hsifted : (st'.sifted t).history = ms.filter (Mark.stands t) ++ (st.sifted t).history := by
    simp only [Stage.sifted, ← he, List.filter_append]
  unfold Stage.marksSince
  rw [hsifted, ← he]
  simp [List.filter_reverse]

/-- a call's report under a higher threshold: the same answer, the same events and the same stage, and of the records
those that reach the threshold -/
structure Quieter (t : Nat) (r r' : Report) : Prop where
  answer : r'.answer = r.answer
  events : r'.marks.filter Mark.isEvent = r.marks.filter Mark.isEvent
  records : recordsOf r'.marks = (recordsOf r.marks).filter fun record => t ≤ record.severity.rank
  controllers : r'.stage.controllers = r.stage.controllers
  current : r'.stage.current = r.stage.current
  host : r'.stage.host = r.stage.host
  kept : r'.stage.kept = r.stage.kept
  result : r'.stage.result = r.stage.result

theorem events_sifted (marks : List Mark) :
    (marks.filter (Mark.stands t)).filter Mark.isEvent = marks.filter Mark.isEvent := by
  rw [List.filter_filter]
  refine List.filter_congr fun m _ => ?_
  cases m <;> rfl

theorem records_sifted (marks : List Mark) :
    recordsOf (marks.filter (Mark.stands t)) =
      (recordsOf marks).filter fun record => t ≤ record.severity.rank := by
  unfold recordsOf
  rw [List.filterMap_filter, List.filter_filterMap]
  refine List.filterMap_congr fun m _ => ?_
  cases m with
  | logged record => by_cases ht : t ≤ record.severity.rank <;> simp [Mark.stands, ht, Option.filter]
  | _ => rfl

theorem quieter_reports (h : sc.threshold ≤ t) (depth : Nat) (calls : List Call) (hs : Sound sc st) :
    List.Forall₂ (Quieter t) (reportsWithin sc depth calls st)
      (reportsWithin (sc.withThreshold t) depth calls (st.sifted t)) := by
  induction calls generalizing st with
  | nil => exact .nil
  | cons c rest ih =>
    obtain ⟨hsound, hextends⟩ := tame_exec sc depth c st hs
    have hsuffix : st.history <:+ (exec sc depth c st).stage.history := hextends.suffix
    simp only [reportsWithin, exec_sifted h depth c st]
    refine .cons ?_ (ih hsound)
    simp only [Ran.sifted, marksSince_sifted hsuffix]
    exact ⟨rfl, events_sifted _, records_sifted _, rfl, rfl, rfl, rfl, rfl⟩

/-- **A threshold takes records away, and nothing else.** For every scene, every sequence of calls and every bound on
how deeply they nest: under a higher threshold each call gives the same answer and tells the same events, the prompts
stand alike after it, and its records are those under the lower threshold that reach the higher one. -/
theorem threshold_only_sifts (sc : Scene) (depth : Nat) (calls : List Call) {low high : Nat} (h : low ≤ high) :
    List.Forall₂ (Quieter high) (reportsWithin (sc.withThreshold low) depth calls .empty)
      (reportsWithin (sc.withThreshold high) depth calls .empty) := by
  have hlow : (sc.withThreshold low).threshold ≤ high := h
  exact quieter_reports hlow depth calls sound_empty

/-- a prompt whose title no record with arguments can be formatted under -/
def percent : Scene where
  request _ := { Request.titled "100%" with onPrimary := [.attempt (.call (.prompt "a" .cancel)), .raise .value "no"] }
  surface _ := ⟨[], []⟩
  threshold := 10
  cancelLabel := "Cancel"
  escapeDismisses := true

theorem threshold_only_sifts_percent :
    List.Forall₂ (Quieter 30)
        (reportsWithin (percent.withThreshold 10) 9 [.prompt "a" (.display none), .prompt "a" .primary] .empty)
        (reportsWithin (percent.withThreshold 30) 9 [.prompt "a" (.display none), .prompt "a" .primary] .empty) ∧
      ((reportsWithin (percent.withThreshold 10) 9 [.prompt "a" (.display none), .prompt "a" .primary] .empty).map
        fun r => (recordsOf r.marks).map (·.message.toOption.isSome)) = [[true], [false, false]] :=
  ⟨threshold_only_sifts percent 9 [.prompt "a" (.display none), .prompt "a" .primary] (by decide), by decide +kernel⟩

end LinePrompt.Prompt
