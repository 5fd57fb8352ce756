/-
The first press of a frame.

All messages of a frame wait when the first of them is handled. Texts that come before the first press are told to the
prompt; the press finds the field as the last edit of the frame left it, and closes the prompt with that text
(`AtPress.closes`). What waits behind it arrives at a prompt that is closed: its presses do nothing, and its texts are
told without effect (`AtPress.rest_unheard`). So the frame does what it does without them (`first_press_closes`).
-/
import LinePrompt.Proofs.Screen.FieldTexts
import LinePrompt.Proofs.Screen.Frames
import LinePrompt.Proofs.Screen.Rounds
import LinePrompt.Proofs.Screen.TakenAway

namespace LinePrompt.Screen

open LinePrompt.Log LinePrompt.Prompt

variable {sc : Scene} {can : Input → Prop} {st : Stage} {m : Modal} {id k : Nat} {w : Widget} {inputs : List Input}
  {before rest ms : List Message}

/-! ## Up to the first press -/

/-- the messages up to the first press -/
def upToPress : List Message → List Message
  | [] => []
  | .pressed k w :: _ => [.pressed k w]
  | x :: rest => x :: upToPress rest

theorem upToPress_eq (hbefore : ∀ x ∈ before, ∃ text, x = .changed k text) :
    upToPress (before ++ .pressed k w :: rest) = before ++ [.pressed k w] := by
  induction before with
  | nil => rfl
  | cons x before ih =>
    obtain ⟨text, rfl⟩ := hbefore x List.mem_cons_self
    exact congrArg (.changed k text :: ·) (ih fun y hy => hbefore y (List.mem_cons_of_mem _ hy))

theorem handleAll_append (sc : Scene) (ms ms' : List Message) (st : Stage) :
    handleAll sc (ms ++ ms') st = (handleAll sc ms st).andThen fun _ st => handleAll sc ms' st := by
  induction ms generalizing st with
  | nil => rfl
  | cons x ms ih =>
    simp only [List.cons_append, handleAll, Ran.andThen_assoc, ih]

/-- the prompt of a dialog is told a text -/
theorem handle_changed (hd : st.host.driver? k = some id) (text : String) :
    handle sc (.changed k text) st = ⟨.ok (), st.setText id text⟩ := by
  obtain ⟨modal, hmodal, rfl⟩ := Option.map_eq_some_iff.1 hd
  simp only [handle, hmodal]

/-- texts that the prompt is told before the first press change nothing else -/
theorem handleAll_changes (hbefore : ∀ x ∈ before, ∃ text, x = .changed k text) (hd : st.host.driver? k = some id)
    (hl : Live sc (before ++ rest) st) :
    ∃ told, handleAll sc before st = ⟨.ok (), told⟩ ∧ Live sc rest told ∧ told.host = st.host ∧
      (∀ j, told.phase j = st.phase j) ∧ ∀ j, told.request sc j = st.request sc j := by
  induction before generalizing st with
  | nil => exact ⟨st, rfl, hl, rfl, fun _ => rfl, fun _ => rfl⟩
  | cons x before ih =>
    obtain ⟨text, rfl⟩ := hbefore x List.mem_cons_self
    have hhost : (st.setText id text).host = st.host := (setText_frame _ _ _).2.1
    have hnext : Live sc (before ++ rest) (st.setText id text) := by
      have h := hl.after_handle
      rwa [handle_changed hd] at h
    obtain ⟨told, hall, hlive, htold, hphase, hrequest⟩ :=
      ih (fun y hy => hbefore y (List.mem_cons_of_mem _ hy)) (hhost ▸ hd) hnext
    refine ⟨told, ?_, hlive, htold.trans hhost, ?_, ?_⟩
    · rw [handleAll, handle_changed hd]
      exact hall
    · intro j
      rw [hphase, phase_setText]
    · intro j
      rw [hrequest, request_setText]

/-! ## The press -/

/-- a trigger that returns leaves a prompt with all callbacks of its life behind it, each of them once -/
theorem deeds_trigger {s : Surface} {o : Outcome} (hs : Sound sc st) (hp : st.phase id = .shown s)
    (hok : (trigger sc id o st).answer = .ok ()) :
    deeds id (trigger sc id o st).stage.history = lifeline (st.request sc id) id s o (st.text id) := by
  have hu : Up sc st id s o := hs.isUp hp o
  have hran : trigger sc id o st = (leaving sc id s o st).run (run sc) sc := by
    unfold trigger
    rw [close_eq hp, Ran.andThen_assoc]
    exact Ran.andThen_done _
  rw [hran] at hok ⊢
  set closed := (leaving sc id s o st).run (run sc) sc with hclosed
  have hdone : inTurn (run sc) sc id (st.request sc id) (closing (st.request sc id) s o (st.text id))
      (leaving sc id s o st).start = ⟨.ok (), closed.stage⟩ := by
    rw [← hok]
    rfl
  calc deeds id closed.stage.history
    _ = deeds id st.history ++ marksOf id (closing (st.request sc id) s o (st.text id)) :=
      hu.had (tame_run sc) (sending_run sc) (List.append_nil _).symm hdone
    _ = [.began id (.surfaceShow s)] ++ marksOf id (closing (st.request sc id) s o (st.text id)) := by
      rw [hu.rising.had]
    _ = lifeline (st.request sc id) id s o (st.text id) := (lifeline_eq _ _ _ _ _).symm

/-- the first press is to be handled: the prompt is still up, and its field is as the frame left it -/
structure AtPress (sc : Scene) (k id : Nat) (w : Widget) (text : String) (rest : List Message) (st : Stage) : Prop where
  live : Live sc (.pressed k w :: rest) st
  queue : st.host.queue = []
  modal : ∃ modal, st.host.modal? k = some modal ∧ modal.controller = id ∧ modal.field.text = text
  shown : st.phase id = .shown (.dialog k)
  control : (controls (st.request sc id)).contains w

namespace AtPress

variable {text : String} (h : AtPress sc k id w text rest st)

include h

theorem driver : st.host.driver? k = some id := by
  obtain ⟨modal, hmodal, rfl, -⟩ := h.modal
  exact Host.driver?_of_modal? hmodal

theorem isOpen : (st.phase id).isOpen := by
  rw [h.shown]
  rfl

theorem handle_eq : ∃ o, w.outcome? = some o ∧
    handle sc (.pressed k w) st = trigger sc id o (st.setText id text) := by
  obtain ⟨modal, hmodal, rfl, rfl⟩ := h.modal
  have hrequest : (st.setText modal.controller modal.field.text).request sc modal.controller =
      st.request sc modal.controller := request_setText _ _ _ _
  have hcontrol := h.control
  rw [← hrequest] at hcontrol
  obtain ⟨o, ho, hpress⟩ := pressControl_eq hcontrol
  refine ⟨o, ho, ?_⟩
  simp only [handle, hmodal, h.isOpen, if_true, hpress]

/-- **The press closes the prompt.** If its handlers return, each has been called once, with the text of the field. -/
theorem closes : ∃ o, w.outcome? = some o ∧ (handle sc (.pressed k w) st).stage.phase id = .closed o ∧
    ((handle sc (.pressed k w) st).answer = .ok () →
      deeds id (handle sc (.pressed k w) st).stage.history = lifeline (st.request sc id) id (.dialog k) o text) := by
  obtain ⟨o, ho, hhandle⟩ := h.handle_eq
  have hafter := h.live.after_handle.toRecorded
  have htold : Sound sc (st.setText id text) := (follows_setText id text h.live.toSound).1
  have hshown : (st.setText id text).phase id = .shown (.dialog k) := by rw [phase_setText, h.shown]
  have htext : (st.setText id text).text id = text := by
    rw [htold.text_eq]
    exact (setText_open h.live.toSound h.isOpen text).2.1
  refine ⟨o, ho, ?_, ?_⟩
  · have hmoved : _ <:+ (trigger sc id o (st.setText id text)).stage.history := moved_trigger hshown o
    rw [← hhandle] at hmoved
    have hlt := (hafter.legal.may hmoved).1
    rw [hafter.phase_eq]
    exact hafter.legal.phaseAt_closed hmoved (by rw [phaseAt_moved, if_pos ⟨rfl, hlt⟩])
  · intro hok
    rw [hhandle] at hok ⊢
    rw [deeds_trigger htold hshown hok, request_setText, htext]

theorem driver_after : (handle sc (.pressed k w) st).stage.host.driver? k = some id := by
  rw [driver?_handle _ (Host.lt_of_driver? h.driver), h.driver]

theorem silent_after : ∀ x ∈ (handle sc (.pressed k w) st).stage.host.queue,
    Silent (handle sc (.pressed k w) st).stage x :=
  h.live.silent_handled h.queue

end AtPress

/-! ## What comes behind -/

/-- the stage on which a closed prompt has been told texts, of which it took no notice -/
def unheard (id : Nat) (texts : List String) (st : Stage) : Stage :=
  { st with history := texts.map (Mark.texted id) ++ st.history }

theorem handle_pressed_closed (hd : st.host.driver? k = some id) (hc : (st.phase id).isClosed) (w : Widget) :
    handle sc (.pressed k w) st = ⟨.ok (), st⟩ := by
  obtain ⟨modal, hmodal, rfl⟩ := Option.map_eq_some_iff.1 hd
  obtain ⟨o, ho⟩ := Phase.isClosed_iff.1 hc
  simp only [handle, hmodal, ho]
  rfl

/-- presses and texts for a closed prompt -/
theorem handleAll_unheard (hms : ∀ x ∈ ms, (∃ text, x = .changed k text) ∨ ∃ w, x = .pressed k w)
    (hd : st.host.driver? k = some id) (hc : (st.phase id).isClosed) :
    ∃ texts, handleAll sc ms st = ⟨.ok (), unheard id texts st⟩ := by
  induction ms generalizing st with
  | nil => exact ⟨[], rfl⟩
  | cons x ms ih =>
    have hrest := fun y hy => hms y (List.mem_cons_of_mem x hy)
    rcases hms x List.mem_cons_self with ⟨text, rfl⟩ | ⟨w, rfl⟩
    · have hset : st.setText id text = st.note (.texted id text) := by
        unfold Stage.setText
        rw [if_pos hc]
      have hnoted : (st.note (.texted id text)).host.driver? k = some id := hd
      obtain ⟨texts, hall⟩ := ih hrest hnoted hc
      refine ⟨texts ++ [text], ?_⟩
      rw [handleAll, handle_changed hd, hset, Ran.andThen_ok, hall]
      simp [unheard, Stage.note]
    · obtain ⟨texts, hall⟩ := ih hrest hd hc
      refine ⟨texts, ?_⟩
      rw [handleAll, handle_pressed_closed hd hc, Ran.andThen_ok, hall]

/-- messages that post nothing are handled no differently -/
theorem rounds_unheard (sc : Scene) (n : Nat) (texts : List String) (hq : ∀ x ∈ st.host.queue, Silent st x) :
    rounds sc (n + 1) (unheard id texts st) =
      ⟨(rounds sc (n + 1) st).answer, unheard id texts (rounds sc (n + 1) st).stage⟩ := by
  set still : Stage := { st with history := [] } with hstill
  have hagainst (h : List Mark) : still.against (past h [] 0) = { st with history := h } := against_past still h [] 0
  have hround (h : List Mark) : rounds sc (n + 1) { st with history := h } =
      (rounds sc (n + 1) still).against (past h [] 0) := by
    rw [← hagainst]
    exact rounds_against sc n (by simp [past]) hq
  have hsilent : ∀ x ∈ still.host.queue, Silent still x := hq
  have hhistory : (rounds sc (n + 1) still).stage.history = [] := (still_rounds sc n hsilent).1
  have hself : rounds sc (n + 1) st = (rounds sc (n + 1) still).against (past st.history [] 0) := hround st.history
  rw [hself, unheard, hround]
  simp [Ran.against, against_past, unheard, hhistory]

theorem deeds_unheard (id : Nat) (texts : List String) (st : Stage) :
    deeds id (unheard id texts st).history = deeds id st.history := by
  induction texts with
  | nil => rfl
  | cons text texts ih => exact (deeds_cons_of_not_isDeedOf rfl).trans ih

/-! ## The frame -/

/-- **What waits behind the first press has no effect**, but that the closed prompt is told texts. -/
theorem AtPress.rest_unheard {text : String} (h : AtPress sc k id w text rest st)
    (hrest : ∀ x ∈ rest, (∃ text, x = .changed k text) ∨ ∃ w', x = .pressed k w') (n : Nat) :
    ∃ texts, (((handle sc (.pressed k w) st).andThen fun _ st => handleAll sc rest st).andThen
        fun _ st => rounds sc (n + 1) st) =
      ⟨((handle sc (.pressed k w) st).andThen fun _ st => rounds sc (n + 1) st).answer,
        unheard id texts ((handle sc (.pressed k w) st).andThen fun _ st => rounds sc (n + 1) st).stage⟩ := by
  obtain ⟨o, -, hclosed, -⟩ := h.closes
  have hdriver := h.driver_after
  have hsilent := h.silent_after
  rcases hran : handle sc (.pressed k w) st with ⟨f | _, after⟩
  · exact ⟨[], rfl⟩
  · rw [hran] at hclosed hdriver hsilent
    have hc : (after.phase id).isClosed := Phase.isClosed_iff.2 ⟨o, hclosed⟩
    obtain ⟨texts, hall⟩ : ∃ texts, handleAll sc rest after = ⟨.ok (), unheard id texts after⟩ :=
      handleAll_unheard hrest hdriver hc
    refine ⟨texts, ?_⟩
    simp only [Ran.andThen_ok, hall]
    exact rounds_unheard sc n texts hsilent

/-- the rounds after the first press change no prompt, and leave no mark -/
theorem AtPress.rounds_still {text : String} (h : AtPress sc k id w text rest st) (n : Nat) :
    ((handle sc (.pressed k w) st).andThen fun _ st => rounds sc (n + 1) st).stage.history =
        (handle sc (.pressed k w) st).stage.history ∧
      ((handle sc (.pressed k w) st).andThen fun _ st => rounds sc (n + 1) st).stage.controllers =
        (handle sc (.pressed k w) st).stage.controllers := by
  have hsilent := h.silent_after
  rcases hran : handle sc (.pressed k w) st with ⟨f | _, after⟩
  · exact ⟨rfl, rfl⟩
  · rw [hran] at hsilent
    exact still_rounds sc n hsilent

/-- the stage without what waits behind the first press -/
def cutShort (st : Stage) : Stage := { st with host := { st.host with queue := upToPress st.host.queue } }

/-- a frame that presses closes the prompt, as it does without what waits behind its first press -/
structure ClosedByFrame (sc : Scene) (st : Stage) (k id : Nat) (inputs : List Input) (o : Outcome) (text : String) :
    Prop where
  outcome : (step sc (.frame inputs) st).stage.phase id = .closed o
  callbacks : (handleAll sc (cutShort (acceptAll sc inputs st).stage).host.queue
      (emptied (acceptAll sc inputs st).stage)).answer = .ok () →
    deeds id (step sc (.frame inputs) st).stage.history = lifeline (st.request sc id) id (.dialog k) o text
  unheard : ∃ texts, step sc (.frame inputs) st =
    ⟨(settleWith sc (.ok .nothing) (cutShort (acceptAll sc inputs st).stage)).answer,
      unheard id texts (settleWith sc (.ok .nothing) (cutShort (acceptAll sc inputs st).stage)).stage⟩

theorem AtFront.accepted (hf : AtFront sc can st k m) (hu : UsesAll (st.request sc m.controller) m inputs) :
    acceptAll sc inputs st = ⟨.ok (.ok .nothing), withDialog st k (m.takingAll inputs) (posted k m inputs)⟩ := by
  have hall := acceptAll_taking (q := st.host.queue) hf.modal hf.top hf.mounted hu
  rwa [withDialog_self hf.modal, hf.idle.queue] at hall

/-- the first round after a frame comes to its first press with the prompt still up -/
theorem AtFront.at_press {more : List Widget} (hf : AtFront sc can st k m)
    (hu : UsesAll (st.request sc m.controller) m inputs) (hpress : pressesOf m inputs = w :: more) :
    ∃ rest told, (∀ x ∈ rest, (∃ text, x = .changed k text) ∨ ∃ w', x = .pressed k w') ∧
      told.request sc m.controller = st.request sc m.controller ∧
      AtPress sc k m.controller w (m.takingAll inputs).field.text rest told ∧
      handleAll sc (upToPress (posted k m inputs)) (withDialog st k (m.takingAll inputs) []) =
        handle sc (.pressed k w) told ∧
      handleAll sc (posted k m inputs) (withDialog st k (m.takingAll inputs) []) =
        (handle sc (.pressed k w) told).andThen fun _ st => handleAll sc rest st := by
  obtain ⟨before, rest, hposted, hbefore, hrest⟩ := posted_of_press k hpress
  have hmodal : (withDialog st k (m.takingAll inputs) []).host.modal? k = some (m.takingAll inputs) :=
    modal?_withDialog hf.modal
  have hdriver : (withDialog st k (m.takingAll inputs) []).host.driver? k = some m.controller := by
    rw [Host.driver?_of_modal? hmodal, controller_takingAll]
  have hlive : Live sc (before ++ .pressed k w :: rest) (withDialog st k (m.takingAll inputs) []) := by
    have hrunning := (passes_acceptAll inputs st hf.idle.reached.live.toRunning).1
    have haccepted : Live sc [] (acceptAll sc inputs st).stage := ⟨hrunning, by simp⟩
    have hround := haccepted.after_round
    rw [hf.accepted hu] at hround
    rwa [← hposted]
  obtain ⟨told, hall, htold, hhost, hphase, hrequest⟩ := handleAll_changes hbefore hdriver hlive
  refine ⟨rest, told, hrest, hrequest _, ?_, ?_, ?_⟩
  · exact {
      live := htold
      queue := by rw [hhost]; rfl
      modal := ⟨m.takingAll inputs, by rw [hhost, hmodal], controller_takingAll m inputs, rfl⟩
      shown := by rw [hphase]; exact hf.shown
      control := by rw [hrequest]; exact contains_of_press hu hpress }
  · rw [hposted, upToPress_eq hbefore, handleAll_append, hall]
    exact Ran.andThen_done _
  · rw [hposted, handleAll_append, hall]
    rfl

/-- **The first press of a frame closes the prompt**, whatever the frame edits and presses besides. The handlers that
there are for it are called once, with the text of the last edit of the frame, even if that comes after the press. -/
theorem first_press_closes {more : List Widget} (hf : AtFront sc can st k m)
    (hu : UsesAll (st.request sc m.controller) m inputs) (hpress : pressesOf m inputs = w :: more) :
    ∃ o text, w.outcome? = some o ∧ LastText m inputs text ∧ ClosedByFrame sc st k m.controller inputs o text := by
  obtain ⟨rest, told, hrest, hrequest, hat, hupto, hround⟩ := hf.at_press hu hpress
  obtain ⟨o, ho, hclosed, hdeeds⟩ := hat.closes
  obtain ⟨texts, hunheard⟩ := hat.rest_unheard hrest 1
  obtain ⟨hhistory, hcontrollers⟩ := hat.rounds_still 1
  set ran := handle sc (.pressed k w) told with hran
  have haccepted := hf.accepted hu
  have hframe : step sc (.frame inputs) st =
      ((ran.andThen fun _ st => handleAll sc rest st).andThen fun _ st => rounds sc 2 st).andThen
        fun _ st => ⟨.ok (.ok .nothing), st⟩ := by
    rw [← hround, step, haccepted]
    rfl
  have hshort : settleWith sc (.ok .nothing) (cutShort (acceptAll sc inputs st).stage) =
      (ran.andThen fun _ st => rounds sc 2 st).andThen fun _ st => ⟨.ok (.ok .nothing), st⟩ := by
    rw [← hupto, haccepted]
    rfl
  have hend : (step sc (.frame inputs) st).stage =
      unheard m.controller texts (ran.andThen fun _ st => rounds sc 2 st).stage := by
    rw [hframe, Ran.stage_andThen, hunheard]
  refine ⟨o, _, ho, lastText m inputs, ?_, ?_, texts, ?_⟩
  · rw [hend, ← hclosed]
    unfold Stage.phase Stage.controller
    exact congrArg (fun cs : List Controller => (cs.getD m.controller .blank).phase) hcontrollers
  · intro hok
    rw [haccepted] at hok
    rw [hend, deeds_unheard, hhistory, ← hrequest]
    exact hdeeds (hupto ▸ hok)
  · rw [hframe, hshort, hunheard]
    rcases ran.andThen fun _ st => rounds sc 2 st with ⟨f | _, last⟩ <;> rfl

/-- a text is set and the primary button clicked, then another text is set and the prompt cancelled -/
def secondThoughts : List Input := [.setField "x", .click .primary, .setField "y", .button .cancel]

theorem secondThoughts_close :
    UsesAll (sequelStage.request sequelScene 0) sequelDialog secondThoughts ∧
      pressesOf sequelDialog secondThoughts = [.primary, .cancel] ∧
      ClosedByFrame sequelScene sequelStage 0 0 secondThoughts .primary "y" := by
  have huses : UsesAll (sequelStage.request sequelScene 0) sequelDialog secondThoughts :=
    ⟨Or.inl rfl, Or.inr ⟨.primary, rfl, by cbv⟩, Or.inl rfl, Or.inr ⟨.cancel, rfl, by cbv⟩, trivial⟩
  have hpresses : pressesOf sequelDialog secondThoughts = [.primary, .cancel] := rfl
  obtain ⟨o, text, ho, htext, hclosed⟩ := first_press_closes sequel_atFront huses hpresses
  obtain rfl : .primary = o := Option.some.inj ho
  obtain rfl : text = "y" := by
    have hlast := htext.edited [.setField "x", .click .primary] (.setField "y") [.button .cancel] rfl rfl
    rw [hlast (by simp [Input.isEdit])]
    exact text_setField _ "y"
  exact ⟨huses, hpresses, hclosed⟩

/-- the second press and the text behind it do not reach the prompt that follows either -/
example : ((step sequelScene (.frame secondThoughts) sequelStage).stage.controllers.map
    fun c => (c.phase, c.text)) = [(.closed .primary, "y"), (.shown (.dialog 1), "")] := by
  cbv

end LinePrompt.Screen
