/-
The ways to close a prompt.

The prompt of the dialog on top of an idle application can be closed by Enter in its field or by its primary button, and
dismissed by the key for it, by a call from outside, or by the host, which takes the dialog away first. Each way is the
same computation in front of a past of its own: Enter and the button post different messages of the same effect, and the
dialog that the host took away stands in front of handlers that do not see the difference. So the handlers, whatever
they bring up and close, and the rounds after them lead to the same end (`SameEnd`, `ways_to_close`).
-/
import LinePrompt.Proofs.Prompt.Sights
import LinePrompt.Proofs.Screen.Removals
import LinePrompt.Proofs.Screen.Rounds
import LinePrompt.Proofs.Screen.TakenAway

namespace LinePrompt.Screen

open LinePrompt.Log LinePrompt.Prompt

variable {sc : Scene} {can : Input → Prop} {st : Stage} {m : Modal} {x : Message} {id k : Nat}

/-! ## Where two ways end -/

/-- is the mark one of a handler, of a call that a script made, or of a fault that one swallowed? What a dialog does
when its prompt comes up or is closed is none of these. -/
def ofScript : Mark → Bool
  | .began _ cb => !cb.isDialog
  | .ended _ cb => !cb.isDialog
  | .returned _ _ => true
  | .caught _ => true
  | _ => false

def isRecord : Mark → Bool
  | .logged _ => true
  | _ => false

theorem filter_ofScript_noted (sc : Scene) (severity : Severity) (record : Record) :
    (noted sc severity record).filter ofScript = [] := by
  unfold noted
  split_ifs <;> rfl

theorem filter_isRecord_noted (sc : Scene) (severity : Severity) (record : Record) :
    (noted sc severity record).filter isRecord = noted sc severity record := by
  unfold noted
  split_ifs <;> rfl

/-- Two ways on from a stage end the same: by the same fault if by any, with the same screens on the stack, the same
controllers, the same events on the way, and the same records but for these that the second way begins with. What is
left of the dialog `k` may differ. -/
structure SameEnd (k : Nat) (st : Stage) (records : List Mark) (x y : Ran (Except Refusal Answer)) : Prop where
  fault : ∀ f, x.answer = .error f ↔ y.answer = .error f
  idle : (∃ a, x.answer = .ok a) → x.stage.host.queue = [] ∧ y.stage.host.queue = []
  stack : y.stage.host.stack = x.stage.host.stack
  controllers : y.stage.controllers = x.stage.controllers
  current : y.stage.current = x.stage.current
  result : y.stage.result = x.stage.result
  screens : ∀ j, j ≠ k → y.stage.host.screens[j]? = x.stage.host.screens[j]?
  events : (st.marksSince y.stage).filter ofScript = (st.marksSince x.stage).filter ofScript
  records : (st.marksSince y.stage).filter isRecord = records ++ (st.marksSince x.stage).filter isRecord

section Ends

variable {z : Ran Unit} {bx by' : Backdrop} {a a' : Except Refusal Answer} {ms front front' records : List Mark}
  (hdialog : bx.dialog = k) (hdialog' : by'.dialog = k)
  (hfront : z.stage.history ++ bx.history = ms ++ front ++ st.history)
  (hfront' : z.stage.history ++ by'.history = ms ++ front' ++ st.history)
  (hevents : front'.filter ofScript = front.filter ofScript)
  (hrecords : front'.filter isRecord = front.filter isRecord ++ records.reverse)

include hdialog hdialog' hfront hfront' hevents hrecords

/-- two runs of one computation in front of two backdrops, each with an answer of its own -/
theorem sameEnd_of_against (hidle : z.answer = .ok () → z.stage.host.queue = [] ∧ bx.queue = [] ∧ by'.queue = []) :
    SameEnd k st records ((z.against bx).andThen fun _ st => ⟨.ok a, st⟩)
      ((z.against by').andThen fun _ st => ⟨.ok a', st⟩) := by
  have hxm : st.marksSince (z.against bx).stage = (ms ++ front).reverse := marksSince_eq hfront
  have hym : st.marksSince (z.against by').stage = (ms ++ front').reverse := marksSince_eq hfront'
  have hscreens {c : Backdrop} (hc : c.dialog = k) {j : Nat} (hj : j ≠ k) :
      (z.against c).stage.host.screens[j]? = z.stage.host.screens[j]? := by
    show (z.stage.host.screens.modify c.dialog _)[j]? = _
    rw [List.getElem?_modify_ne]
    rw [hc]
    exact hj.symm
  constructor
  case fault =>
    intro f
    cases hz : z.answer <;> simp [Ran.andThen, Ran.against, hz]
  case idle =>
    rintro ⟨r, hr⟩
    obtain ⟨⟨⟩, hz, -⟩ := Ran.andThen_returned hr
    obtain ⟨hqueue, hbx, hby⟩ := hidle hz
    rw [Ran.stage_andThen, Ran.stage_andThen]
    exact ⟨List.append_eq_nil_iff.2 ⟨hbx, hqueue⟩, List.append_eq_nil_iff.2 ⟨hby, hqueue⟩⟩
  case screens =>
    intro j hj
    rw [Ran.stage_andThen, Ran.stage_andThen, hscreens hdialog hj, hscreens hdialog' hj]
  case events =>
    rw [Ran.stage_andThen, Ran.stage_andThen, hxm, hym]
    simp only [List.filter_reverse, List.filter_append, hevents]
  case records =>
    rw [Ran.stage_andThen, Ran.stage_andThen, hxm, hym]
    simp only [List.filter_reverse, List.filter_append, hrecords, List.reverse_append, List.reverse_reverse,
      List.append_assoc]
  all_goals
    rw [Ran.stage_andThen, Ran.stage_andThen]
    rfl

/-- two runs of one computation in front of two backdrops, each with the rounds that come after it -/
theorem sameEnd_of_rounds (n n' : Nat) (hq : ∀ x ∈ z.stage.host.queue, Silent z.stage x)
    (hwaits : ∀ x ∈ bx.queue, ∃ j, x = .unmount j ∧ Silent z.stage x)
    (hwaits' : ∀ x ∈ by'.queue, ∃ j, x = .unmount j ∧ Silent z.stage x) :
    SameEnd k st records (((z.against bx).andThen fun _ st => rounds sc (n + 1) st).andThen fun _ st => ⟨.ok a, st⟩)
      (((z.against by').andThen fun _ st => rounds sc (n' + 1) st).andThen fun _ st => ⟨.ok a', st⟩) := by
  obtain ⟨f | _, last⟩ := z
  · exact sameEnd_of_against hdialog hdialog' hfront hfront' hevents hrecords (by simp)
  -- nothing that waits posts anything, so it does not matter how many rounds there are
  have hround {b : Backdrop} (n : Nat) (hb : ∀ x ∈ b.queue, ∃ j, x = .unmount j ∧ Silent last x) :
      rounds sc (n + 1) (last.against b) = (rounds sc 1 last).against { b with queue := [] } := by
    rw [rounds_against sc n hb hq, rounds_of_silent sc n hq, rounds_of_silent sc 0 hq]
  have hhistory : (rounds sc 1 last).stage.history = last.history := (still_rounds sc 0 hq).1
  have hempty : (rounds sc 1 last).stage.host.queue = [] := by
    rw [rounds_of_silent sc 0 hq]
    exact queue_of_silent sc hq
  simp only [Ran.against, Ran.andThen_ok]
  rw [hround n hwaits, hround n' hwaits']
  rw [← hhistory] at hfront hfront'
  exact sameEnd_of_against hdialog hdialog' hfront hfront' hevents hrecords fun _ => ⟨hempty, rfl, rfl⟩

end Ends

/-! ## Enter and the primary button -/

theorem AtFront.handle_submitted (hf : AtFront sc can st k m) (value : String) :
    handle sc (.submitted k value) st = trigger sc m.controller .primary (st.setText m.controller value) := by
  simp only [handle, hf.modal]

theorem AtFront.handle_pressed (hf : AtFront sc can st k m) (w : Widget) :
    handle sc (.pressed k w) st = pressControl sc m.controller w (st.setText m.controller m.field.text) := by
  simp only [handle, hf.modal, hf.isOpen, if_true]

theorem primary_mem_controls (r : Request) : (controls r).contains .primary := by
  unfold controls
  split_ifs <;> rfl

theorem AtFront.step_enter (hf : AtFront sc can st k m) (hfocus : m.focus = .input) :
    step sc (.one (.key .enter)) st =
      ((handle sc (.submitted k m.field.text) st).andThen fun _ st => rounds sc 2 st).andThen
        fun _ st => ⟨.ok (.ok .nothing), st⟩ := by
  rw [← settle_post sc hf.idle.queue]
  simp only [step, accept, press, hf.topDialog, keyOn, hfocus, if_true, Ran.andThen_ok]
  rfl

theorem AtFront.step_button (hf : AtFront sc can st k m) :
    step sc (.one (.button .primary)) st =
      ((handle sc (.pressed k .primary) st).andThen fun _ st => rounds sc 2 st).andThen
        fun _ st => ⟨.ok (.ok .nothing), st⟩ := by
  rw [← settle_post sc hf.idle.queue]
  simp only [step, accept, hf.topDialog, hasControl, primary_mem_controls, if_true, Ran.andThen_ok]
  rfl

/-- the dialog on top, with the focus elsewhere -/
theorem updateDialog_focusOn (st : Stage) (k : Nat) {w : Widget} (hw : w ≠ .input) :
    updateDialog st k (focusOn w) = st.against (refocused k w) := by
  have hfocus : focusOn w = fun m => { m with focus := w } := by
    funext m
    exact if_neg hw
  unfold updateDialog
  rw [hfocus, Host.updateModal_eq]
  simp [Stage.against, Host.against, refocused]

theorem AtFront.step_click (hf : AtFront sc can st k m) :
    step sc (.one (.click .primary)) st =
      ((handle sc (.pressed k .primary) (st.against (refocused k .primary))).andThen fun _ st => rounds sc 2 st).andThen
        fun _ st => ⟨.ok (.ok (.flag true)), st⟩ := by
  have hq : (st.against (refocused k .primary)).host.queue = [] := hf.idle.queue
  rw [← settle_post sc hq]
  simp only [step, accept, hf.topDialog, hasControl, primary_mem_controls, if_true, Ran.andThen_ok]
  rw [updateDialog_focusOn st k (by simp)]
  rfl

/-- **Enter and the primary button are the same.** -/
theorem AtFront.enter_button (hf : AtFront sc can st k m) (hfocus : m.focus = .input) :
    step sc (.one (.button .primary)) st = step sc (.one (.key .enter)) st := by
  rw [hf.step_button, hf.step_enter hfocus, hf.handle_pressed, hf.handle_submitted]
  rfl

theorem note_against (st : Stage) (b : Backdrop) (mark : Mark) :
    (st.against b).note mark = (st.note mark).against b := rfl

theorem takenOff_against (st : Stage) (b : Backdrop) (id k : Nat) (o : Outcome) :
    takenOff sc id k o (st.against b) = (takenOff sc id k o st).against b := by
  unfold takenOff
  rw [leaving_against, note_against, pop_against, note_against]

/-- a dialog that has another focus is as much there as before -/
theorem isDetached_refocused (st : Stage) (k j : Nat) (w : Widget) :
    (st.against (refocused k w)).host.isDetached j = st.host.isDetached j := by
  show ((st.host.against (refocused k w)).modal? j).any (·.detached) = _
  rw [Host.modal?_against]
  split_ifs
  · rw [Option.any_map]
    rfl
  · rfl

/-- a prompt whose dialog is on top is closed in the same way wherever the focus is -/
theorem trigger_refocused {o : Outcome} {w : Widget} (hp : st.phase id = .shown (.dialog k))
    (htop : st.host.top? = some k) (hdet : st.host.isDetached k = false)
    (halone : ∀ i, st.phase i = .shown (.dialog k) → i = id) (hk : k < st.host.screens.length) :
    trigger sc id o (st.against (refocused k w)) = (trigger sc id o st).against (refocused k w) := by
  have hbefore : trigger sc id o st = inTurn (run sc) sc id (st.request sc id)
      (handlersOf (st.request sc id) o (st.text id)) (takenOff sc id k o st) :=
    trigger_eq (close_atFront hp htop hdet)
  have hrefocused : trigger sc id o (st.against (refocused k w)) = inTurn (run sc) sc id (st.request sc id)
      (handlersOf (st.request sc id) o (st.text id)) (takenOff sc id k o (st.against (refocused k w))) :=
    trigger_eq (close_atFront hp htop ((isDetached_refocused st k k w).trans hdet))
  rw [hbefore, hrefocused, takenOff_against]
  exact handlers_against rfl (spent_takenOff hk halone)

/-- what is posted while a message of the dialog is handled posts nothing itself -/
theorem AtFront.silent_handled (hf : AtFront sc can st k m) (hx : ∀ j, x ≠ .unmount j) :
    ∀ y ∈ (handle sc x st).stage.host.queue, Silent (handle sc x st).stage y := by
  have hlive : Live sc [x] st := by
    refine ⟨hf.idle.reached.live.toRunning, ?_⟩
    intro j hj
    exact absurd (List.mem_singleton.1 hj).symm (hx j)
  exact hlive.silent_handled hf.idle.queue

/-- a press is handled in the same way wherever the focus is -/
theorem AtFront.handle_refocused (hf : AtFront sc can st k m) (w : Widget) :
    handle sc (.pressed k .primary) (st.against (refocused k w)) =
      (handle sc (.pressed k .primary) st).against (refocused k w) := by
  have hmodal : (st.against (refocused k w)).host.modal? k = some { m with focus := w } := by
    show (st.host.against (refocused k w)).modal? k = _
    rw [Host.modal?_against, hf.modal]
    exact if_pos rfl
  have hhost : (st.setText m.controller m.field.text).host = st.host := (setText_frame _ _ _).2.1
  have hpressed : handle sc (.pressed k .primary) (st.against (refocused k w)) =
      trigger sc m.controller .primary ((st.against (refocused k w)).setText m.controller m.field.text) := by
    simp only [handle, hmodal, show (st.against (refocused k w)).phase m.controller = st.phase m.controller from rfl,
      hf.isOpen, if_true]
    rfl
  rw [hpressed, hf.handle_pressed, setText_against]
  refine trigger_refocused ?_ ?_ ?_ ?_ ?_
  · rw [phase_setText, hf.shown]
  · rw [hhost, hf.top]
  · rw [hhost, hf.isDetached]
  · intro i hi
    rw [phase_setText] at hi
    exact hf.alone hi
  · rw [hhost]
    exact hf.lt

/-- **A click on the primary button does the same**, but for the focus of the dialog. -/
theorem AtFront.enter_click (hf : AtFront sc can st k m) (hfocus : m.focus = .input) :
    SameEnd k st [] (step sc (.one (.key .enter)) st) (step sc (.one (.click .primary)) st) := by
  obtain ⟨ms, hms⟩ := suffix_handle sc (.pressed k .primary) st
  have hqueue := hf.silent_handled (x := .pressed k .primary) (by simp)
  have hentered : step sc (.one (.key .enter)) st =
      (((handle sc (.pressed k .primary) st).against (past [] [] k)).andThen fun _ st => rounds sc (1 + 1) st).andThen
        fun _ st => ⟨.ok (.ok .nothing), st⟩ := by
    rw [← hf.enter_button hfocus, hf.step_button, Ran.against, against_nothing]
  rw [hentered, hf.step_click, hf.handle_refocused]
  have hwaits : ∀ x ∈ ([] : List Message),
      ∃ j, x = .unmount j ∧ Silent (handle sc (.pressed k .primary) st).stage x := by simp
  have hnothing : (handle sc (.pressed k .primary) st).stage.history ++ (past [] [] k).history =
      ms ++ [] ++ st.history := by
    rw [← hms, List.append_nil]
    exact List.append_nil _
  have hrefocused : (handle sc (.pressed k .primary) st).stage.history ++ (refocused k .primary).history =
      ms ++ [] ++ st.history := hnothing
  refine sameEnd_of_rounds ?_ ?_ hnothing hrefocused rfl ?_ 1 1 hqueue hwaits hwaits <;> rfl

/-! ## Three ways to dismiss -/

/-- what runs when the prompt of the dialog on top is dismissed, on a stage without a past -/
def dismissal (sc : Scene) (depth id k : Nat) (st : Stage) : Ran Unit :=
  inTurn (exec sc depth) sc id (st.request sc id) (handlersOf (st.request sc id) .dismissed (st.text id))
    (bare (takenOff sc id k .dismissed st))

/-- the past of a dismissal that takes the dialog off -/
def pastOnTop (sc : Scene) (id k : Nat) (st : Stage) : Backdrop :=
  past (closedOnTop sc id k .dismissed (st.request sc id).title ++ st.history) [.unmount k] k

/-- the past of a dismissal of which the dialog was told by the host -/
def pastByHost (sc : Scene) (id k : Nat) (st : Stage) : Backdrop :=
  takenPast (dismissedByHost sc id k (st.request sc id).title ++ st.history) [] k

theorem AtFront.spent (hf : AtFront sc can st k m) (o : Outcome) : Spent k (takenOff sc m.controller k o st) :=
  spent_takenOff hf.lt fun _ hi => hf.alone hi

/-- a dismissal that takes the dialog off, until the application is idle, and an answer -/
def endOnTop (sc : Scene) (id k : Nat) (st : Stage) (a : Except Refusal Answer) : Ran (Except Refusal Answer) :=
  (((dismissal sc depthLimit id k st).against (pastOnTop sc id k st)).andThen fun _ st => rounds sc 3 st).andThen
    fun _ st => ⟨.ok a, st⟩

/-- a dismissal of which the host told the dialog, until the application is idle, and an answer -/
def endByHost (sc : Scene) (id k : Nat) (st : Stage) (a : Except Refusal Answer) : Ran (Except Refusal Answer) :=
  (((dismissal sc depthLimit id k st).against (pastByHost sc id k st)).andThen fun _ st => rounds sc 2 st).andThen
    fun _ st => ⟨.ok a, st⟩

theorem spent_bare (h : Spent k st) : Spent k (bare st) := h.of_phase (Nat.le_refl _) fun _ hi => hi

/-- a direct dismissal, under any bound -/
theorem AtFront.close_dismissed (hf : AtFront sc can st k m) (depth : Nat) :
    close (exec sc depth) sc m.controller .dismissed st =
      ((dismissal sc depth m.controller k st).against (pastOnTop sc m.controller k st)).andThen
        fun _ st => ⟨.ok true, st⟩ := by
  have hhistory : (takenOff sc m.controller k .dismissed st).history =
      closedOnTop sc m.controller k .dismissed (st.request sc m.controller).title ++ st.history := by
    rw [takenOff_eq hf.top]
  have hqueue : (takenOff sc m.controller k .dismissed st).host.queue = [.unmount k] := by
    rw [takenOff_eq hf.top]
    show st.host.pop.queue = _
    rw [Host.queue_pop hf.top, hf.idle.queue]
    rfl
  have htaken : takenOff sc m.controller k .dismissed st =
      (bare (takenOff sc m.controller k .dismissed st)).against (pastOnTop sc m.controller k st) := by
    rw [pastOnTop, ← hhistory, ← hqueue, bare_past]
  rw [close_atFront hf.shown hf.top hf.isDetached, htaken, handlers_against rfl (spent_bare (hf.spent .dismissed))]
  rfl

theorem AtFront.step_escape (hf : AtFront sc can st k m) (hescape : sc.escapeDismisses) :
    step sc (.one (.key .escape)) st = endOnTop sc m.controller k st (.ok .nothing) := by
  have htrigger := trigger_eq (hf.close_dismissed depthLimit)
  simp only [step, accept, press, hf.topDialog, keyOn, hescape, if_true, htrigger, endOnTop, Ran.andThen_assoc,
    Ran.andThen_ok]
  rfl

/-- the host's pop, and what comes of it when the dialog is told -/
theorem AtFront.handle_removed (hf : AtFront sc can st k m) :
    handle sc (.unmount k) (emptied (st.pop .popped)) =
      (dismissal sc depthLimit m.controller k st).against (pastByHost sc m.controller k st) := by
  have hclose : close (exec sc depthLimit) sc m.controller .dismissed (takenAway sc m.controller k st) = _ :=
    close_takenAway (exec sc depthLimit) hf.top hf.shown hf.driver
  rw [handlers_against rfl (spent_bare (hf.spent .dismissed))] at hclose
  rw [Screen.handle_removed hf.top hf.shown hf.driver]
  exact trigger_eq hclose

theorem AtFront.queue_pop (hf : AtFront sc can st k m) : (st.pop .popped).host.queue = [.unmount k] := by
  rw [pop_eq hf.top]
  show st.host.pop.queue = _
  rw [Host.queue_pop hf.top, hf.idle.queue]
  rfl

theorem AtFront.accept_pop (hf : AtFront sc can st k m) : accept sc .pop st = ⟨.ok (.ok .nothing), st.pop .popped⟩ := by
  obtain ⟨rest, hstack⟩ : ∃ rest, st.host.stack = k :: rest := List.head?_eq_some_iff.1 hf.top
  simp only [accept, hstack]

theorem AtFront.step_pop (hf : AtFront sc can st k m) :
    step sc (.one .pop) st = endByHost sc m.controller k st (.ok .nothing) := by
  rw [endByHost, ← hf.handle_removed, ← settle_one sc hf.queue_pop, step, hf.accept_pop]
  rfl

theorem AtFront.live_pop (hf : AtFront sc can st k m) : Live sc [.unmount k] (emptied (st.pop .popped)) := by
  have hlive := (hf.idle.reached.live.after_input .pop).after_round
  rwa [hf.accept_pop, hf.queue_pop] at hlive

theorem AtFront.driver_pop (hf : AtFront sc can st k m) :
    (emptied (st.pop .popped)).host.driver? k = some m.controller := by
  rw [pop_eq hf.top, ← hf.driver]
  exact Host.driver?_pop st.host k

theorem AtFront.pushed_pop (hf : AtFront sc can st k m) : .pushed k ∈ (emptied (st.pop .popped)).history := by
  rw [pop_eq hf.top]
  exact List.mem_cons_of_mem _ hf.pushed

/-- nothing that waits after a dismissal posts anything, and the message that its dialog has gone does not either -/
theorem AtFront.silent_dismissal (hf : AtFront sc can st k m) :
    (∀ x ∈ (dismissal sc depthLimit m.controller k st).stage.host.queue,
      Silent (dismissal sc depthLimit m.controller k st).stage x) ∧
    Silent (dismissal sc depthLimit m.controller k st).stage (.unmount k) := by
  have hclosed := closed_unmount hf.live_pop.toSound hf.pushed_pop hf.driver_pop
  have hposted := hf.live_pop.silent_handled rfl
  have hdriven : (handle sc (.unmount k) (emptied (st.pop .popped))).stage.host.driver? k = _ :=
    driver?_handle (.unmount k) (Host.lt_of_driver? hf.driver_pop)
  rw [hf.handle_removed] at hclosed hposted hdriven
  constructor
  · intro x hx
    exact silent_against.1 (hposted x hx)
  · intro i hi
    have hi' : some m.controller = some i :=
      (hf.driver_pop.symm.trans hdriven.symm).trans ((Host.driver?_against _ _).trans hi)
    exact Option.some.inj hi' ▸ hclosed

/-- nothing waits after a dismissal but what posts nothing -/
theorem AtFront.waits_dismissal (hf : AtFront sc can st k m) : ∀ x ∈ (pastOnTop sc m.controller k st).queue,
    ∃ j, x = .unmount j ∧ Silent (dismissal sc depthLimit m.controller k st).stage x := by
  intro x hx
  obtain rfl : x = .unmount k := List.mem_singleton.1 hx
  exact ⟨k, rfl, hf.silent_dismissal.2⟩

theorem history_pastOnTop (ms : List Mark) : ms ++ (pastOnTop sc id k st).history =
    ms ++ closedOnTop sc id k .dismissed (st.request sc id).title ++ st.history := (List.append_assoc _ _ _).symm

theorem history_pastByHost (ms : List Mark) : ms ++ (pastByHost sc id k st).history =
    ms ++ dismissedByHost sc id k (st.request sc id).title ++ st.history := (List.append_assoc _ _ _).symm

theorem AtFront.same_dismissal (hf : AtFront sc can st k m) (a a' : Except Refusal Answer) :
    SameEnd k st [] (endOnTop sc m.controller k st a) (endOnTop sc m.controller k st a') :=
  sameEnd_of_rounds rfl rfl (history_pastOnTop _) (history_pastOnTop _) rfl (List.append_nil _).symm
    2 2 hf.silent_dismissal.1 hf.waits_dismissal hf.waits_dismissal

/-- a dismissal that takes the dialog off, and one of which the host told the dialog, end the same, but for a record -/
theorem AtFront.dismissals (hf : AtFront sc can st k m) (a a' : Except Refusal Answer) :
    SameEnd k st (noted sc .debug (removedRecord (st.request sc m.controller).title))
      (endOnTop sc m.controller k st a) (endByHost sc m.controller k st a') := by
  unfold endOnTop endByHost
  refine sameEnd_of_rounds ?_ ?_ (history_pastOnTop _) (history_pastByHost _) ?_ ?_
    2 1 hf.silent_dismissal.1 hf.waits_dismissal ?_
  · rfl
  · rfl
  · simp [closedOnTop, dismissedByHost, closedMarks, filter_ofScript_noted, ofScript, Callback.isDialog]
  · simp [closedOnTop, dismissedByHost, closedMarks, filter_isRecord_noted, reverse_noted, isRecord]
  · intro x hx
    cases hx

/-- the program around the application dismisses a prompt itself, its calls nesting at most to the given depth -/
def dismissDirectly (sc : Scene) (depth id : Nat) (st : Stage) : Ran (Except Refusal Answer) :=
  (close (exec sc depth) sc id .dismissed st).flag.andThen fun answer st => settleWith sc (.ok answer) st

theorem AtFront.dismissDirectly_eq (hf : AtFront sc can st k m) {depth : Nat} {closed : Bool} (hd : depth ≤ depthLimit)
    (hok : (close (exec sc depth) sc m.controller .dismissed st).answer = .ok closed) :
    dismissDirectly sc depth m.controller st = endOnTop sc m.controller k st (.ok (.flag true)) := by
  have hclose := hf.close_dismissed depth
  have hdone : (dismissal sc depth m.controller k st).answer = .ok () := by
    rw [hclose] at hok
    obtain ⟨⟨⟩, hanswer, -⟩ := Ran.andThen_returned hok
    exact hanswer
  have hdeeper : dismissal sc depthLimit m.controller k st = dismissal sc depth m.controller k st := by
    have hsame : dismissal sc depth m.controller k st = ⟨.ok (), (dismissal sc depth m.controller k st).stage⟩ := by
      rw [← hdone]
    exact (handlers_deeper hd (spent_bare (hf.spent .dismissed)) hsame).trans hsame.symm
  rw [dismissDirectly, endOnTop, hclose, hdeeper]
  unfold Ran.flag settleWith settle
  simp only [Ran.andThen_assoc, Ran.andThen_ok]

/-- a dismissal by the name of the prompt -/
theorem step_dismiss {name : String} {answer : Answer} (hname : st.current? name = some id)
    (hok : (run sc (.prompt name .dismiss) st).answer = .ok answer) :
    step sc (.one (.call (.prompt name .dismiss))) st = dismissDirectly sc (depthLimit - 1) id st ∧
      ∃ closed, (close (exec sc (depthLimit - 1)) sc id .dismissed st).answer = .ok closed := by
  have hensure : st.ensure sc name = st := by
    unfold Stage.ensure
    rw [hname]
    rfl
  have hid : st.currentId name = id := by
    unfold Stage.currentId
    rw [hname]
    rfl
  have hrun : run sc (.prompt name .dismiss) st =
      (close (exec sc (depthLimit - 1)) sc id .dismissed st).flag := by
    change call (exec sc (depthLimit - 1)) sc (.prompt name .dismiss) st = _
    unfold call
    dsimp only
    rw [hensure, hid]
    rfl
  rw [hrun] at hok
  obtain ⟨closed, hclosed, -⟩ := Ran.andThen_returned hok
  refine ⟨?_, closed, hclosed⟩
  have hstep : step sc (.one (.call (.prompt name .dismiss))) st =
      (run sc (.prompt name .dismiss) st).andThen fun answer st => settleWith sc (.ok answer) st := by
    rw [← hrun] at hok
    simp only [step, accept]
    rcases hran : run sc (.prompt name .dismiss) st with ⟨f | _, after⟩
    · rw [hran] at hok
      cases hok
    · rfl
  rw [hstep, hrun]
  rfl

/-! ## All ways -/

/-- a prompt that ends up dismissed one way is dismissed the other way too -/
theorem SameEnd.dismissed {records : List Mark} {x y : Ran (Except Refusal Answer)} (h : SameEnd k st records x y)
    (hx : Sound sc x.stage) (hcame : .began id (.surfaceShow (.dialog k)) ∈ x.stage.history)
    (hy : y.stage.phase id = .closed .dismissed) : Dismissed sc x.stage id := by
  refine dismissed_of_atRest hx hcame ?_
  rw [← hy]
  unfold Stage.phase Stage.controller
  rw [h.controllers]

theorem AtFront.dismissed_pop (hf : AtFront sc can st k m) :
    Dismissed sc (step sc (.one .pop) st).stage m.controller := by
  have hopen : ((emptied (st.pop .popped)).phase m.controller).isOpen := by
    rw [pop_eq hf.top]
    exact hf.isOpen
  have hdismissed : Dismissed sc (handle sc (.unmount k) (emptied (st.pop .popped))).stage m.controller :=
    dismissed_unmount hf.live_pop.toSound hf.pushed_pop hf.driver_pop hopen
  have hlast : Running sc (step sc (.one .pop) st).stage :=
    (passes_step (.one .pop) st hf.idle.reached.live.toRunning).1
  refine hdismissed.later hf.live_pop.after_handle.toRecorded hlast.toRecorded ?_
  rw [hf.step_pop, endByHost, ← hf.handle_removed, Ran.andThen_assoc]
  exact suffix_andThen fun _ _ => (suffix_rounds 2 _).trans (suffix_andThen fun _ _ => List.suffix_refl _)

/-- what dismisses a prompt at once: the key for it, and a call from outside that returns -/
inductive Dismisses (sc : Scene) (st : Stage) (id : Nat) : Ran (Except Refusal Answer) → Prop
  | escape : sc.escapeDismisses → Dismisses sc st id (step sc (.one (.key .escape)) st)
  | direct {depth : Nat} {closed : Bool} : depth ≤ depthLimit →
      (close (exec sc depth) sc id .dismissed st).answer = .ok closed →
      Dismisses sc st id (dismissDirectly sc depth id st)
  | byName {name : String} {answer : Answer} : st.current? name = some id →
      (run sc (.prompt name .dismiss) st).answer = .ok answer →
      Dismisses sc st id (step sc (.one (.call (.prompt name .dismiss))) st)

theorem Dismisses.eq {x : Ran (Except Refusal Answer)} (h : Dismisses sc st m.controller x)
    (hf : AtFront sc can st k m) : ∃ a, x = endOnTop sc m.controller k st a := by
  cases h with
  | escape hescape => exact ⟨_, hf.step_escape hescape⟩
  | direct hd hok => exact ⟨_, hf.dismissDirectly_eq hd hok⟩
  | byName hname hok =>
    obtain ⟨hstep, closed, hclosed⟩ := step_dismiss hname hok
    exact ⟨_, hstep.trans (hf.dismissDirectly_eq (Nat.sub_le _ _) hclosed)⟩

/-- a dismissal at once keeps the application running -/
theorem AtFront.passes_dismissal (hf : AtFront sc can st k m) (a : Except Refusal Answer) :
    Passes sc 0 st (endOnTop sc m.controller k st a).stage := by
  rw [endOnTop, ← trigger_eq (hf.close_dismissed depthLimit)]
  have htrigger : Passes sc 0 st (trigger sc m.controller .dismissed st).stage :=
    passes_of_follows (follows_trigger m.controller .dismissed)
  have hsettled : Passes sc 0 st ((trigger sc m.controller .dismissed st).andThen fun _ st => rounds sc 3 st).stage :=
    htrigger.andThen fun _ st => passes_rounds 3 st
  exact hsettled.andThen fun _ st => .refl sc 0 st

/-- **The ways to close the prompt of the dialog on top come to the same.** Enter in its field and its primary button
do; and so do all dismissals, also the one of which the host tells the dialog only after it has taken it away, with no
more than a record between them. The prompt is dismissed then, with no handler called, and `onClosed` once. -/
theorem ways_to_close (hf : AtFront sc can st k m) :
    (m.focus = .input →
      step sc (.one (.button .primary)) st = step sc (.one (.key .enter)) st ∧
      SameEnd k st [] (step sc (.one (.key .enter)) st) (step sc (.one (.click .primary)) st)) ∧
    (∀ x, Dismisses sc st m.controller x →
      (∀ y, Dismisses sc st m.controller y → SameEnd k st [] x y) ∧
      SameEnd k st (noted sc .debug (removedRecord (st.request sc m.controller).title)) x (step sc (.one .pop) st) ∧
      Dismissed sc x.stage m.controller) ∧
    Dismissed sc (step sc (.one .pop) st).stage m.controller := by
  refine ⟨?_, ?_, hf.dismissed_pop⟩
  · intro hfocus
    exact ⟨hf.enter_button hfocus, hf.enter_click hfocus⟩
  intro x hx
  obtain ⟨a, rfl⟩ := hx.eq hf
  have hpop := hf.dismissals a (.ok .nothing)
  rw [← hf.step_pop] at hpop
  refine ⟨?_, hpop, ?_⟩
  · intro y hy
    obtain ⟨a', rfl⟩ := hy.eq hf
    exact hf.same_dismissal a a'
  · obtain ⟨hrunning, hsuffix, -⟩ := hf.passes_dismissal a hf.idle.reached.live.toRunning
    exact hpop.dismissed hrunning.toSound (hsuffix.subset hf.came) hf.dismissed_pop.outcome

theorem sequel_closes_alike :
    SameEnd 0 sequelStage [] (step sequelScene (.one (.key .enter)) sequelStage)
      (step sequelScene (.one (.click .primary)) sequelStage) ∧
    SameEnd 0 sequelStage (noted sequelScene .debug (removedRecord "A"))
      (step sequelScene (.one (.key .escape)) sequelStage) (step sequelScene (.one .pop) sequelStage) ∧
    SameEnd 0 sequelStage [] (step sequelScene (.one (.call (.prompt "a" .dismiss))) sequelStage)
      (step sequelScene (.one (.key .escape)) sequelStage) ∧
    Dismissed sequelScene (step sequelScene (.one .pop) sequelStage).stage 0 := by
  have htitle : (sequelStage.request sequelScene 0).title = "A" := by cbv
  have hname : sequelStage.current? "a" = some 0 := by cbv
  have hreturns : (run sequelScene (.prompt "a" .dismiss) sequelStage).answer = .ok (.flag true) := by cbv
  obtain ⟨henter, hdismiss, hpop⟩ := ways_to_close sequel_atFront
  obtain ⟨-, hescape, -⟩ := hdismiss _ (.escape rfl)
  obtain ⟨hcalls, -, -⟩ := hdismiss _ (.byName hname hreturns)
  rw [show sequelDialog.controller = 0 from rfl, htitle] at hescape
  exact ⟨(henter rfl).2, hescape, hcalls _ (.escape rfl), hpop⟩

/-- the prompt that follows is on top whichever way the first was closed -/
example : [step sequelScene (.one (.key .enter)) sequelStage, step sequelScene (.one .pop) sequelStage].map
    (fun r => (r.stage.host.stack, r.stage.phase 0)) = [([1], .closed .primary), ([1], .closed .dismissed)] := by
  cbv

end LinePrompt.Screen
