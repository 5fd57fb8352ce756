/-
How a dialog leaves.

A prompt that is closed takes its dialog off the stack, and its handlers run; when the host has popped the dialog, the
prompt is dismissed and there is nothing to take off any more. What went on before the handlers run is a past in both
cases: the stage without it (`bare`) is the same, so the handlers do the same (`handlers_against`). The marks on the way
are written out (`closedOnTop`, `dismissedByHost`).
-/
import LinePrompt.Proofs.Prompt.Backdrops
import LinePrompt.Proofs.Screen.AtFront

namespace LinePrompt.Screen

open LinePrompt.Log LinePrompt.Prompt

variable {sc : Scene} {st : Stage} {id k : Nat} {b : Backdrop}

/-! ## Stages without a past -/

/-- the stage with nothing that happened and nothing that waits -/
def bare (st : Stage) : Stage := { st with host := { st.host with queue := [] }, history := [] }

/-- a past, with a dialog as it is -/
def past (history : List Mark) (queue : List Message) (k : Nat) : Backdrop :=
  ⟨history, queue, k, fun m => m, fun _ => rfl, fun _ _ => rfl, fun _ _ => rfl⟩

/-- a past, with a dialog that the host took away -/
def takenPast (history : List Mark) (queue : List Message) (k : Nat) : Backdrop :=
  ⟨history, queue, k, ({ · with detached := true }), fun _ => rfl, fun _ _ => rfl, fun _ _ => rfl⟩

/-- no past, with a dialog whose focus is elsewhere -/
def refocused (k : Nat) (w : Widget) : Backdrop :=
  ⟨[], [], k, ({ · with focus := w }), fun _ => rfl, fun _ _ => rfl, fun _ _ => rfl⟩

theorem against_past (st : Stage) (history : List Mark) (queue : List Message) (k : Nat) :
    st.against (past history queue k) =
      { st with host := { st.host with queue := queue ++ st.host.queue }, history := st.history ++ history } := by
  have halter : Layer.alter (fun m => m) = fun layer => layer := by
    funext layer
    cases layer <;> rfl
  have hscreens : st.host.screens.modify k (Layer.alter fun m => m) = st.host.screens := by
    rw [halter]
    exact List.modify_id k _
  unfold Stage.against Host.against past
  simp only [hscreens]

theorem bare_past (st : Stage) (k : Nat) : (bare st).against (past st.history st.host.queue k) = st := by
  simp [against_past, bare]

theorem against_nothing (st : Stage) (k : Nat) : st.against (past [] [] k) = st := by
  simp [against_past]

/-! ## The dialog leaves -/

/-- the mark of a record that a log keeps -/
def noted (sc : Scene) (severity : Severity) (record : Record) : List Mark :=
  if sc.threshold ≤ severity.rank then [.logged record] else []

theorem log_eq_noted (st : Stage) (sc : Scene) (severity : Severity) (record : Unit → Record) :
    st.log sc severity record = { st with history := noted sc severity (record ()) ++ st.history } := by
  unfold Stage.log noted
  split_ifs <;> rfl

theorem reverse_noted (sc : Scene) (severity : Severity) (record : Record) :
    (noted sc severity record).reverse = noted sc severity record := by
  unfold noted
  split_ifs <;> rfl

/-- what is told of a prompt that is closed, newest first -/
def closedMarks (sc : Scene) (id : Nat) (o : Outcome) (title : String) : List Mark :=
  noted sc .debug (.about .debug promptLogger title "closed via %s" [o.name]) ++ [.moved id (.closed o)]

/-- what is told of a prompt that is closed with its dialog on top, newest first: it takes the dialog away -/
def closedOnTop (sc : Scene) (id k : Nat) (o : Outcome) (title : String) : List Mark :=
  [.ended id (.surfaceClose (.dialog k)), .left k (.closed id), .began id (.surfaceClose (.dialog k))] ++
    closedMarks sc id o title

/-- the record that the host took a dialog away -/
def removedRecord (title : String) : Record :=
  ⟨.debug, dialogLogger, .ok ("prompt " ++ Text.quoted title ++ " " ++ "removed by host")⟩

/-- what is told of a prompt that is dismissed after the host has taken its dialog away, newest first -/
def dismissedByHost (sc : Scene) (id k : Nat) (title : String) : List Mark :=
  [.ended id (.surfaceClose (.dialog k)), .began id (.surfaceClose (.dialog k))] ++
    closedMarks sc id .dismissed title ++ noted sc .debug (removedRecord title) ++ [.detached k, .left k .popped]

theorem request_setPhase (st : Stage) (i j : Nat) (phase : Phase) :
    (st.setPhase i phase).request sc j = st.request sc j := by
  show sc.request ((st.update i ({ · with phase })).controller j).name = _
  rw [controller_update]
  split_ifs <;> rfl

theorem leaving_start_eq (st : Stage) (id : Nat) (s : Surface) (o : Outcome) :
    (leaving sc id s o st).start = { st with
      controllers := st.controllers.modify id ({ · with phase := .closed o })
      history := closedMarks sc id o (st.request sc id).title ++ st.history } := by
  rw [leaving, Stage.debug, log_eq_noted, request_setPhase]
  simp only [closedMarks, List.append_assoc, List.singleton_append]
  rfl

theorem takenOff_eq (htop : st.host.top? = some k) (id : Nat) (o : Outcome) :
    takenOff sc id k o st = { st with
      controllers := st.controllers.modify id ({ · with phase := .closed o })
      host := st.host.pop
      history := closedOnTop sc id k o (st.request sc id).title ++ st.history } := by
  have hhost :
      ((leaving sc id (.dialog k) o st).start.note (.began id (.surfaceClose (.dialog k)))).host.top? = some k := by
    rw [← htop]
    exact congrArg Host.top? (host_leaving st id (.dialog k) o)
  rw [takenOff, pop_eq hhost, leaving_start_eq]
  rfl

/-- the stage on which a prompt is dismissed whose dialog the host has taken away -/
def takenAway (sc : Scene) (id k : Nat) (st : Stage) : Stage :=
  ((emptied (st.pop .popped)).detach k).report sc id .debug dialogLogger "removed by host"

theorem takenAway_eq (htop : st.host.top? = some k) (id : Nat) :
    takenAway sc id k st = { st with
      host := { st.host.pop with queue := [] }.updateModal k ({ · with detached := true })
      history := noted sc .debug (removedRecord (st.request sc id).title) ++ [.detached k, .left k .popped] ++
        st.history } := by
  rw [takenAway, Stage.report, log_eq_noted, pop_eq htop, List.append_assoc]
  rfl

/-- the host takes the dialog on top away, and its prompt is dismissed -/
theorem handle_removed (htop : st.host.top? = some k) (hp : st.phase id = .shown (.dialog k))
    (hd : st.host.driver? k = some id) :
    handle sc (.unmount k) (emptied (st.pop .popped)) = trigger sc id .dismissed (takenAway sc id k st) := by
  have hpop : emptied (st.pop .popped) =
      { st with host := { st.host.pop with queue := [] }, history := .left k .popped :: st.history } := by
    rw [pop_eq htop]
    rfl
  have hdriver : (emptied (st.pop .popped)).host.driver? k = some id := by
    rw [hpop, ← hd]
    exact Host.driver?_pop st.host k
  have hphase : (emptied (st.pop .popped)).phase id = .shown (.dialog k) := by
    rw [hpop]
    exact hp
  obtain ⟨modal, hmodal, rfl⟩ := Option.map_eq_some_iff.1 hdriver
  simp only [handle, hmodal, unmountDialog, hphase]
  rfl

/-- the stages on which the handlers run after the host has taken the dialog away, and after the prompt itself has -/
theorem close_takenAway (again : Caller) (htop : st.host.top? = some k) (hp : st.phase id = .shown (.dialog k))
    (hd : st.host.driver? k = some id) :
    close again sc id .dismissed (takenAway sc id k st) =
      (inTurn again sc id (st.request sc id) (handlersOf (st.request sc id) .dismissed (st.text id))
        ((bare (takenOff sc id k .dismissed st)).against
          (takenPast (dismissedByHost sc id k (st.request sc id).title ++ st.history) [] k))).andThen
        fun _ st => ⟨.ok true, st⟩ := by
  have heq : takenAway sc id k st = _ := takenAway_eq htop id
  have hphase : (takenAway sc id k st).phase id = .shown (.dialog k) := by
    rw [heq]
    exact hp
  have hdetached : (takenAway sc id k st).host.isDetached k = true := by
    obtain ⟨modal, hmodal, -⟩ := Option.map_eq_some_iff.1 ((Host.driver?_pop st.host k).trans hd)
    rw [heq, Host.isDetached, Host.modal?_updateModal, if_pos rfl,
      show ({ st.host.pop with queue := [] } : Host).modal? k = some modal from hmodal]
    rfl
  have hrequest : (takenAway sc id k st).request sc id = st.request sc id := by
    rw [heq]
    rfl
  have htext : (takenAway sc id k st).text id = st.text id := by
    rw [heq]
    rfl
  -- a dialog that was taken away does not pop another screen
  have hstays (st' : Stage) (hhost : st'.host = (takenAway sc id k st).host) : closeDialog sc id k st' = st' := by
    unfold closeDialog
    rw [hhost]
    exact if_pos hdetached
  have hstage : ((leaving sc id (.dialog k) .dismissed (takenAway sc id k st)).start.note
      (.began id (.surfaceClose (.dialog k)))).note (.ended id (.surfaceClose (.dialog k))) =
        (bare (takenOff sc id k .dismissed st)).against
          (takenPast (dismissedByHost sc id k (st.request sc id).title ++ st.history) [] k) := by
    rw [leaving_start_eq, hrequest, heq, takenOff_eq htop, Host.updateModal_eq]
    simp only [Stage.note, dismissedByHost, List.append_assoc, List.cons_append, List.nil_append]
    rfl
  have hhost : ((leaving sc id (.dialog k) .dismissed (takenAway sc id k st)).start.note
      (.began id (.surfaceClose (.dialog k)))).host = (takenAway sc id k st).host := host_leaving _ _ _ _
  rw [close_dialog_eq hphase, hrequest, htext, hstays _ hhost, hstage]

/-! ## The handlers run -/

theorem surfaceClose_not_mem_handlersOf {r : Request} {o : Outcome} {text : String} {s : Surface} :
    .surfaceClose s ∉ handlersOf r o text := by
  simp [handlersOf]

/-- no prompt is up on a dialog any more once its prompt is closed -/
theorem spent_takenOff {o : Outcome} (hk : k < st.host.screens.length)
    (halone : ∀ i, st.phase i = .shown (.dialog k) → i = id) : Spent k (takenOff sc id k o st) := by
  have hstart : Spent k (leaving sc id (.dialog k) o st).start := by
    refine ⟨by rwa [host_leaving], fun i hi => ?_⟩
    rw [leaving_start_eq] at hi
    change ((st.update id ({ · with phase := .closed o })).controller i).phase = _ at hi
    rw [controller_update] at hi
    split_ifs at hi with hid
    obtain rfl : i = id := halone i hi
    -- a controller that is up was made
    have hlt : ¬ i < st.controllers.length := fun hlt => hid ⟨rfl, hlt⟩
    rw [Stage.controller, List.getD_eq_default _ _ (Nat.le_of_not_lt hlt)] at hi
    cases hi
  exact ((hstart.note _).pop _).note _

/-- a closing runs the handlers of its outcome, and gives nothing else back than they do -/
theorem trigger_eq {o : Outcome} {ran : Ran Unit}
    (h : close (run sc) sc id o st = ran.andThen fun _ st => ⟨.ok true, st⟩) : trigger sc id o st = ran := by
  unfold trigger
  rw [h, Ran.andThen_assoc]
  exact Ran.andThen_done ran

/-- the handlers of a closing do the same in front of every past -/
theorem handlers_against {o : Outcome} {r : Request} {text : String} {d : Nat} (hb : b.dialog = k) (hs : Spent k st) :
    inTurn (exec sc d) sc id r (handlersOf r o text) (st.against b) =
      (inTurn (exec sc d) sc id r (handlersOf r o text) st).against b :=
  (inTurn_restages (exec_restages sc b (Nat.le_refl d)) r surfaceClose_not_mem_handlersOf (hb ▸ hs)).same
    (Nat.lt_irrefl d)

/-- handlers that return under a bound do the same under a larger one -/
theorem handlers_deeper {o : Outcome} {r : Request} {text : String} {d d' : Nat} {last : Stage} (hd : d ≤ d')
    (hs : Spent k st) (h : inTurn (exec sc d) sc id r (handlersOf r o text) st = ⟨.ok (), last⟩) :
    inTurn (exec sc d') sc id r (handlersOf r o text) st = ⟨.ok (), last⟩ := by
  have hrun : Restages (d < d') (past [] [] k) (inTurn (exec sc d) sc id r (handlersOf r o text) st)
      (inTurn (exec sc d') sc id r (handlersOf r o text) (st.against (past [] [] k))) :=
    inTurn_restages (exec_restages sc _ hd) r surfaceClose_not_mem_handlersOf hs
  rw [h, against_nothing] at hrun
  rcases hrun with ⟨-, hdeep⟩ | ⟨-, he⟩
  · cases hdeep
  · rw [he, Ran.against, against_nothing]

end LinePrompt.Screen
