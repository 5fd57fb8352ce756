/-
A prompt that nothing but its own dialog's controls can close.

Where the escape key dismisses no dialog and scripts trigger nothing, every closing of a session in which only a user
acts goes back to one input of his: Enter in the field, or a press of a button that the dialog has, on the dialog that
was on top (`ClosedByControl`). The dialog was still on top when the message of the control was handled, and the outcome
is the control's. So nothing is dismissed, and no dialog that is covered hears of an input (`closed_by_controls`).

One message closes its own prompt or nothing (`handled`); as long as it closes nothing it moves no screen, so that all
the messages of a burst of inputs find the dialog on top that they came from (`held_roundMoments`). What these leave
waiting closes nothing more (`closing_settle`).
-/
import LinePrompt.Proofs.Prompt.Passive
import LinePrompt.Proofs.Screen.FieldTexts
import LinePrompt.Proofs.Screen.Rounds
import LinePrompt.Proofs.Screen.UserInput

namespace LinePrompt.Screen

open LinePrompt.Prompt

variable {sc : Scene} {can : Input → Prop} {st st' after : Stage} {m : Modal} {i k : Nat} {o : Outcome} {x : Message}
  {ms : List Message} {w : Widget} {h h' : List Mark} {c : Mark} {input : Input} {t : Burst} {S : List Nat}

/-! ## One message -/

/-- what a message of its dialog asks of a prompt -/
inductive Asks (sc : Scene) (st : Stage) (i k : Nat) : Message → Outcome → Prop where
  | submitted (value : String) : Asks sc st i k (.submitted k value) .primary
  | pressed {w : Widget} {o : Outcome} (has : (controls (st.request sc i)).contains w) (outcome : w.outcome? = some o) :
    Asks sc st i k (.pressed k w) o

/-- what comes of a message of a dialog: nothing that closes a prompt or moves a screen, or its prompt is closed -/
inductive Handled (sc : Scene) (x : Message) (i k : Nat) (st after : Stage) : Prop where
  | quiet (stack : after.host.stack = st.host.stack) (spares : Spares st after)
  | closes (o : Outcome) (text : String) (isOpen : (st.phase i).isOpen) (asks : Asks sc st i k x o)
    (spares : Spares ((st.setText i text).setPhase i (.closed o)) after)

theorem trigger_cases (hsc : sc.Passive) (i : Nat) (o : Outcome) (st : Stage) :
    ((st.phase i).isOpen ∧ Spares (st.setPhase i (.closed o)) (trigger sc i o st).stage) ∨
      ((trigger sc i o st).stage.host = st.host ∧ Spares st (trigger sc i o st).stage) := by
  rw [stage_trigger]
  cases hp : st.phase i with
  | shown s => exact Or.inl ⟨rfl, spares_close (sparing_run hsc) hsc hp o⟩
  | created =>
    unfold close
    simp only [hp]
    exact Or.inr ⟨host_log _ _, spares_log _ _⟩
  | closed o' =>
    unfold close
    simp only [hp]
    exact Or.inr ⟨host_log _ _, spares_log _ _⟩

/-- a control that the dialog has not -/
theorem pressControl_refused (hw : ¬ (controls (st.request sc i)).contains w) :
    (pressControl sc i w st).stage.host = st.host ∧ Spares st (pressControl sc i w st).stage := by
  unfold controls at hw
  cases w with
  | input => exact ⟨rfl, .refl st⟩
  | primary => split_ifs at hw <;> simp at hw
  | cancel => split_ifs at hw <;> simp at hw
  | alternate =>
    have hhas : ¬ (st.request sc i).hasAlternate = true := by
      intro hhas
      rw [if_pos hhas] at hw
      simp at hw
    rw [stage_pressControl_alternate, alternate, if_neg hhas]
    exact ⟨host_log _ _, spares_log _ _⟩

/-- a trigger for a prompt whose text has just been set -/
theorem handled_trigger (hsc : sc.Passive) (text : String) (hasks : Asks sc st i k x o)
    (he : after = (trigger sc i o (st.setText i text)).stage) : Handled sc x i k st after := by
  subst he
  obtain ⟨-, hhost, -⟩ := setText_frame st i text
  rcases trigger_cases hsc i o (st.setText i text) with ⟨hopen, hspares⟩ | ⟨hstill, hspares⟩
  · exact .closes o text (phase_setText st i i text ▸ hopen) hasks hspares
  · exact .quiet (by rw [hstill, hhost]) ((spares_setText i text).trans hspares)

/-- **A message of a dialog closes its own prompt, or nothing.** -/
theorem handled (hsc : sc.Passive) (hd : st.host.driver? k = some i) (hx : x.inputOn? = some k) :
    Handled sc x i k st (handle sc x st).stage := by
  obtain ⟨m, hm, rfl⟩ := Option.map_eq_some_iff.1 hd
  have htext (text : String) : (st.setText m.controller text).host.stack = st.host.stack ∧
      Spares st (st.setText m.controller text) :=
    ⟨by rw [(setText_frame st m.controller text).2.1], spares_setText _ text⟩
  cases x with
  | mount j => cases hx
  | unmount j => cases hx
  | changed j value =>
    obtain rfl := Option.some.inj hx
    have he : (handle sc (.changed j value) st).stage = st.setText m.controller value := by simp [handle, hm]
    rw [he]
    exact .quiet (htext value).1 (htext value).2
  | submitted j value =>
    obtain rfl := Option.some.inj hx
    exact handled_trigger hsc value (.submitted value) (by simp [handle, hm])
  | pressed j w =>
    obtain rfl := Option.some.inj hx
    by_cases hopen : (st.phase m.controller).isOpen
    · have he : (handle sc (.pressed j w) st).stage =
          (pressControl sc m.controller w (st.setText m.controller m.field.text)).stage := by simp [handle, hm, hopen]
      have hrequest : (st.setText m.controller m.field.text).request sc m.controller = st.request sc m.controller :=
        request_setText st m.controller m.controller m.field.text
      by_cases hw : (controls (st.request sc m.controller)).contains w
      · obtain ⟨o, ho, hpress⟩ := pressControl_eq (hrequest.symm ▸ hw)
        exact handled_trigger hsc _ (.pressed hw ho) (he.trans (congrArg Ran.stage hpress))
      · obtain ⟨hstill, hspares⟩ := pressControl_refused (hrequest.symm ▸ hw)
        rw [he]
        exact .quiet (by rw [hstill, (htext _).1]) ((htext _).2.trans hspares)
    · have he : (handle sc (.pressed j w) st).stage = st := by simp [handle, hm, hopen]
      rw [he]
      exact .quiet rfl (.refl st)

/-- what is on record in front of a mark does not hold the mark -/
theorem not_since (hs : h' <:+ h) : ¬ c :: h <:+ h' := by
  intro hc
  have hlength := (hc.trans hs).length_le
  rw [List.length_cons] at hlength
  omega

/-- what a message puts on record as closed is its own prompt, with the outcome that the message asks for -/
theorem Handled.closing {j : Nat} (hcase : Handled sc x j k st after) (hsince : st.history <:+ h)
    (hcloses : .moved i (.closed o) :: h <:+ after.history) :
    i = j ∧ (st.phase i).isOpen ∧ Asks sc st i k x o ∧ ∃ text, h = .texted i text :: st.history := by
  cases hcase with
  | quiet stack spares => exact absurd (spares.closing rfl hcloses) (not_since hsince)
  | closes o' text isOpen asks spares =>
    have hmoved : .moved i (.closed o) :: h <:+ .moved j (.closed o') :: .texted j text :: st.history := by
      have hclosing := spares.closing rfl hcloses
      rwa [Stage.setPhase, Stage.note, show (((st.setText j text).update j ({ · with phase := .closed o' })).history) =
        .texted j text :: st.history from (setText_frame st j text).1] at hclosing
    rcases List.suffix_cons_iff.1 hmoved with he | hearlier
    · obtain ⟨hmark, hrest⟩ := List.cons.inj he
      obtain ⟨rfl, hphase⟩ := Mark.moved.inj hmark
      obtain rfl := Phase.closed.inj hphase
      exact ⟨rfl, isOpen, asks, text, hrest⟩
    · rcases List.suffix_cons_iff.1 hearlier with he | hearlier
      · cases he
      · exact absurd hearlier (not_since hsince)

/-! ## A round -/

/-- the prompt of the dialog is closed, or no screen has moved -/
structure Held (i k : Nat) (S : List Nat) (st : Stage) : Prop where
  driver : st.host.driver? k = some i
  stays : (st.phase i).isClosed ∨ st.host.stack = S

theorem held_handle (hsc : sc.Passive) (hl : Live sc (x :: ms) st) (hx : x.inputOn? = some k) (hheld : Held i k S st) :
    Held i k S (handle sc x st).stage := by
  have hlt := Host.lt_of_driver? hheld.driver
  have hafter := hl.after_handle.toRecorded
  refine ⟨(driver?_handle x hlt).trans hheld.driver, ?_⟩
  cases handled hsc hheld.driver hx with
  | quiet stack spares =>
    rcases hheld.stays with hclosed | hstack
    · exact Or.inl (hl.toRecorded.closed_later hafter spares.suffix hclosed)
    · exact Or.inr (stack.trans hstack)
  | closes o text isOpen asks spares =>
    have hmoved : .moved i (.closed o) :: (st.setText i text).history <:+ (handle sc x st).stage.history :=
      spares.suffix
    obtain ⟨hi, -⟩ := hafter.legal.may hmoved
    have hphase : phaseAt sc (.moved i (.closed o) :: (st.setText i text).history) i = .closed o := by
      rw [phaseAt_moved, if_pos ⟨rfl, hi⟩]
    rw [hafter.phase_eq, hafter.legal.phaseAt_closed hmoved hphase]
    exact Or.inl rfl

theorem message_mem_roundMoments {y : Moment} (hy : y ∈ roundMoments sc ms st) : y.message ∈ ms := by
  induction ms generalizing st with
  | nil => exact absurd hy List.not_mem_nil
  | cons x rest ih =>
    rcases List.mem_cons.1 hy with rfl | hy
    · exact List.mem_cons_self
    · obtain ⟨a, -, hy⟩ := Ran.mem_onward.1 hy
      exact List.mem_cons_of_mem _ (ih hy)

theorem held_roundMoments (hsc : sc.Passive) (hr : Reached sc can ms st) (hms : ∀ x ∈ ms, x.inputOn? = some k)
    (hheld : Held i k S st) :
    ∀ y ∈ roundMoments sc ms st, Held i k S y.stage ∧ ∃ rest, Live sc (y.message :: rest) y.stage := by
  induction ms generalizing st with
  | nil => exact fun y hy => absurd hy List.not_mem_nil
  | cons x rest ih =>
    intro y hy
    rcases List.mem_cons.1 hy with rfl | hy
    · exact ⟨hheld, rest, hr.live⟩
    · obtain ⟨a, hok, hy⟩ := Ran.mem_onward.1 hy
      have hnext := held_handle hsc hr.live (hms x List.mem_cons_self) hheld
      exact ih (hr.handle hok) (fun z hz => hms z (List.mem_cons_of_mem _ hz)) hnext y hy

/-- what is on record later was so before, or has come since -/
theorem before_or_since (hs : h <:+ h') {h₀ : List Mark} (hc : c :: h₀ <:+ h') : c :: h₀ <:+ h ∨ h <:+ h₀ := by
  rcases List.suffix_or_suffix_of_suffix hc hs with hbefore | hsince
  · exact Or.inl hbefore
  · rcases List.suffix_cons_iff.1 hsince with he | hsince
    · exact Or.inl (he ▸ List.suffix_refl _)
    · exact Or.inr hsince

/-- what a round puts on record is put there by one of its messages -/
theorem closing_handleAll (hc : c :: h <:+ (handleAll sc ms st).stage.history) : c :: h <:+ st.history ∨
    ∃ y ∈ roundMoments sc ms st, y.stage.history <:+ h ∧ c :: h <:+ (y.after sc).history := by
  induction ms generalizing st with
  | nil => exact Or.inl hc
  | cons x rest ih =>
    have hhere (hafter : c :: h <:+ (handle sc x st).stage.history) : c :: h <:+ st.history ∨
        ∃ y ∈ roundMoments sc (x :: rest) st, y.stage.history <:+ h ∧ c :: h <:+ (y.after sc).history :=
      (before_or_since (suffix_handle sc x st) hafter).imp_right fun hsince =>
        ⟨⟨x, st⟩, List.mem_cons_self, hsince, hafter⟩
    rcases hok : (handle sc x st).answer with f | a
    · have he : (handleAll sc (x :: rest) st).stage = (handle sc x st).stage := by
        rw [handleAll, Ran.andThen, hok]
      exact hhere (he ▸ hc)
    · rw [handleAll, Ran.andThen_of_ok hok] at hc
      rcases ih hc with hafter | ⟨y, hy, hclosing⟩
      · exact hhere hafter
      · exact Or.inr ⟨y, List.mem_cons_of_mem _ (Ran.mem_onward.2 ⟨a, hok, hy⟩), hclosing⟩

/-- **One round puts everything on record**: what it leaves waiting makes no mark. -/
theorem closing_settle (hr : Reached sc can [] st) (hc : c :: h <:+ (settle sc st).stage.history) :
    c :: h <:+ st.history ∨ ∃ y ∈ roundMoments sc st.host.queue (emptied st),
      y.stage.history <:+ h ∧ c :: h <:+ (y.after sc).history := by
  suffices hround : c :: h <:+ (handleAll sc st.host.queue (emptied st)).stage.history by
    exact closing_handleAll hround
  have hrounds : settle sc st =
      (handleAll sc st.host.queue (emptied st)).andThen fun _ st => rounds sc 2 st := rfl
  rcases hok : (handleAll sc st.host.queue (emptied st)).answer with f | a
  · rw [hrounds, Ran.andThen, hok] at hc
    exact hc
  · have hsilent := silent_handleAll hr.round hok fun x hx => absurd hx List.not_mem_nil
    rw [hrounds, Ran.andThen_of_ok hok, (still_rounds sc 1 hsilent).1] at hc
    exact hc

/-! ## A burst -/

/-- a control of a dialog: the input that uses it, its outcome, and the message that is handled for it -/
inductive Control (sc : Scene) (st : Stage) (i k : Nat) (m : Modal) : Input → Outcome → Message → Prop where
  /-- Enter in the field -/
  | enter (focus : m.focus = .input) : Control sc st i k m (.key .enter) .primary (.submitted k m.field.text)
  /-- a press of one of its buttons, be it by Enter -/
  | press {input : Input} {w : Widget} {o : Outcome} (presses : input.pressed? m = some w)
    (has : (controls (st.request sc i)).contains w) (outcome : w.outcome? = some o) :
    Control sc st i k m input o (.pressed k w)

theorem Control.not_dismissed (hcontrol : Control sc st i k m input o x) : o ≠ .dismissed := by
  cases hcontrol with
  | enter focus => decide
  | @press _ w _ presses has outcome =>
    rintro rfl
    cases w <;> cases outcome

theorem control_of_reply (hreply : input.Reply k m x) (hasks : Asks sc st i k x o) :
    Control sc st i k m input o x := by
  cases hreply with
  | changed value => cases hasks
  | submitted enter focus =>
    subst enter
    cases hasks
    exact .enter focus
  | pressed w presses =>
    cases hasks with
    | pressed has outcome => exact .press presses has outcome

/-- In this burst, and at this point of the history, a user closed the prompt by a control of its dialog: the dialog was
on top and took the input, and it was still on top when the message of the control was handled and the prompt closed. -/
inductive ClosedByControl (sc : Scene) (t : Burst) (i : Nat) (o : Outcome) (h : List Mark) : Prop where
  | used {input : Input} {st : Stage} {k : Nat} {m : Modal} {y : Moment} (takes : t.Takes sc input st)
    (top : topDialog? st = some (k, m)) (own : m.controller = i) (control : Control sc y.stage i k m input o y.message)
    (handled : y ∈ t.moments sc) (stays : y.stage.host.top? = some k) (since : y.stage.history <:+ h)
    (closes : .moved i (.closed o) :: h <:+ (y.after sc).history) (shows : (stackAt h).head? = some k)

theorem inputOn?_of_reply (hreply : input.Reply k m x) : x.inputOn? = some k := by
  cases hreply <;> rfl

/-- **Whatever a burst of a user closes, it closes by a control of the dialog on top.** -/
theorem closing_burst (hescape : sc.escapeDismisses = false) (hsc : sc.Passive) (hi : Idle sc (fun _ => True) t.stage)
    (huser : ∀ input ∈ t.inputs, input.byUser)
    (hc : .moved i (.closed o) :: h <:+ (settle sc (t.accepted sc)).stage.history) :
    .moved i (.closed o) :: h <:+ t.stage.history ∨ ClosedByControl sc t i o h := by
  have hheard := heard_burst hescape huser t.stage
  have hreached : Reached sc (fun _ => True) [] (t.accepted sc) :=
    reached_acceptAll (fun _ _ => trivial) hi.reached
  rcases closing_settle hreached hc with hbefore | ⟨y, hy, hsince, hcloses⟩
  · exact Or.inl (hheard.history ▸ hbefore)
  -- all that waits are replies of the one dialog on top
  have hreplies : ∀ x ∈ (t.accepted sc).host.queue, ∃ input st k m, t.Takes sc input st ∧
      topDialog? st = some (k, m) ∧ input.Reply k m x ∧ t.stage.host.top? = some k ∧
      t.stage.host.driver? k = some m.controller := by
    intro x hx
    refine (hheard.queue x hx).resolve_left fun hx => ?_
    rw [hi.queue] at hx
    cases hx
  have hmessage : y.message ∈ (t.accepted sc).host.queue := message_mem_roundMoments hy
  obtain ⟨input, st, k, m, htakes, htop, hreply, hon, hdriver⟩ := hreplies _ hmessage
  have hms : ∀ x ∈ (t.accepted sc).host.queue, x.inputOn? = some k := by
    intro x hx
    obtain ⟨_, _, k', _, -, -, hreply', hon', -⟩ := hreplies x hx
    obtain rfl := Option.some.inj (hon'.symm.trans hon)
    exact inputOn?_of_reply hreply'
  have hheld : Held m.controller k t.stage.host.stack (emptied (t.accepted sc)) :=
    ⟨(hheard.driver k).trans hdriver, Or.inr hheard.stack⟩
  obtain ⟨hstill, rest, hlive⟩ := held_roundMoments hsc hreached.round hms hheld y hy
  have hcase : Handled sc y.message m.controller k y.stage (y.after sc) :=
    handled hsc hstill.driver (inputOn?_of_reply hreply)
  obtain ⟨rfl, hopen, hasks, text, rfl⟩ := hcase.closing hsince hcloses
  have hstack : y.stage.host.stack = t.stage.host.stack := by
    refine hstill.stays.resolve_left fun hclosed => ?_
    obtain ⟨o', ho'⟩ := Phase.isClosed_iff.1 hclosed
    rw [ho'] at hopen
    cases hopen
  have hstays : y.stage.host.top? = some k := (congrArg List.head? hstack).trans hon
  have hshows : (stackAt y.stage.history).head? = some k := (congrArg List.head? hlive.stack).symm.trans hstays
  have hhandled : y ∈ t.moments sc := List.mem_append_left _ hy
  exact Or.inr (.used htakes htop rfl (control_of_reply hreply hasks) hhandled hstays hsince hcloses hshows)

/-! ## The bursts of a session -/

def keysBursts (sc : Scene) : List Key → Stage → List Burst
  | [], _ => []
  | k :: rest, st =>
    if st.result.isSome then []
    else ⟨st, [.key k]⟩ :: (pressAndSettle sc k st).onward fun _ st => keysBursts sc rest st

def stepBursts (sc : Scene) : Gesture → Stage → List Burst
  | .one input, st => [⟨st, [input]⟩]
  | .keys keys, st => keysBursts sc keys st
  | .frame inputs, st => [⟨st, inputs⟩]

def stepsBursts (sc : Scene) : List Gesture → Stage → List Burst
  | [], _ => []
  | g :: rest, st =>
    if st.result.isSome then []
    else stepBursts sc g st ++ (step sc g st).onward fun _ st => if g.quits then [] else stepsBursts sc rest st

/-- the bursts of a session: every key, every other input, and every frame of inputs, until all is handled -/
def bursts (sc : Scene) (names : List String) (gestures : List Gesture) : List Burst :=
  ((presentAll sc names .empty).andThen fun _ st => settle sc st).onward fun _ st => stepsBursts sc gestures st

/-- an input by itself -/
theorem accepted_one (input : Input) (st : Stage) :
    (⟨st, [input]⟩ : Burst).accepted sc = (accept sc input st).stage := by
  unfold Burst.accepted acceptAll Ran.andThen
  dsimp only
  split
  · split <;> rfl
  · rfl

section Sessions

variable (hescape : sc.escapeDismisses = false) (hsc : sc.Passive)

include hescape

theorem stage_pressAndSettle (key : Key) (st : Stage) :
    (pressAndSettle sc key st).stage = (settle sc ((⟨st, [.key key]⟩ : Burst).accepted sc)).stage := by
  rw [accepted_one, stage_accept_key, pressAndSettle, Ran.andThen_of_ok (heeds_press hescape key st).2]

/-- a step other than one of keys is a burst -/
theorem stage_step_one (hinput : input.byUser) (st : Stage) :
    (step sc (.one input) st).stage = (settle sc ((⟨st, [input]⟩ : Burst).accepted sc)).stage := by
  obtain ⟨answer, hok⟩ := (heeds_accept hescape hinput st).2
  rw [accepted_one, step, Ran.andThen_of_ok hok, stage_settleWith]

theorem stage_step_frame {inputs : List Input} (hinputs : ∀ input ∈ inputs, input.byUser) (st : Stage) :
    (step sc (.frame inputs) st).stage = (settle sc ((⟨st, inputs⟩ : Burst).accepted sc)).stage := by
  obtain ⟨answer, hok⟩ := (heard_burst hescape hinputs st).answer
  rw [step, Ran.andThen_of_ok hok, stage_settleWith]
  rfl

include hsc

/-! ## Steps -/

theorem closing_pressAll {keys : List Key} (hi : Idle sc (fun _ => True) st)
    (hc : .moved i (.closed o) :: h <:+ (pressAll sc keys st).stage.history) :
    .moved i (.closed o) :: h <:+ st.history ∨ ∃ t ∈ keysBursts sc keys st, ClosedByControl sc t i o h := by
  induction keys generalizing st with
  | nil => exact Or.inl hc
  | cons key rest ih =>
    by_cases hresult : st.result.isSome = true
    · rw [pressAll, if_pos hresult] at hc
      exact Or.inl hc
    rw [keysBursts, if_neg hresult]
    rw [pressAll_cons hresult] at hc
    -- what the first key closes, it closes in a burst of its own
    have hburst (hc : .moved i (.closed o) :: h <:+ (pressAndSettle sc key st).stage.history) :
        .moved i (.closed o) :: h <:+ st.history ∨ ∃ t ∈ ⟨st, [.key key]⟩ ::
          (pressAndSettle sc key st).onward (fun _ st => keysBursts sc rest st), ClosedByControl sc t i o h := by
      rw [stage_pressAndSettle hescape] at hc
      exact (closing_burst hescape hsc (t := ⟨st, [.key key]⟩) hi (by simp [Input.byUser]) hc).imp_right
        fun hclosed => ⟨_, List.mem_cons_self, hclosed⟩
    rcases hok : (pressAndSettle sc key st).answer with f | a
    · rw [Ran.andThen, hok] at hc
      exact hburst hc
    · rw [Ran.andThen_of_ok hok] at hc
      have hidle : Idle sc (fun _ => True) (pressAndSettle sc key st).stage := by
        obtain ⟨_, -, he⟩ := Ran.andThen_returned hok
        rw [show pressAndSettle sc key st = _ from he] at hok ⊢
        exact idle_settle (reached_press (fun _ => trivial) hi.reached key) hok
      rcases ih hidle hc with hc | ⟨t, ht, hclosed⟩
      · exact hburst hc
      · exact Or.inr ⟨t, List.mem_cons_of_mem _ (Ran.mem_onward.2 ⟨a, hok, ht⟩), hclosed⟩

theorem closing_step {g : Gesture} (huser : ∀ input ∈ g.inputs, input.byUser) (hi : Idle sc (fun _ => True) st)
    (hc : .moved i (.closed o) :: h <:+ (step sc g st).stage.history) :
    .moved i (.closed o) :: h <:+ st.history ∨ ∃ t ∈ stepBursts sc g st, ClosedByControl sc t i o h := by
  cases g with
  | keys keys => exact closing_pressAll hescape hsc hi hc
  | one input =>
    have huser : ∀ j ∈ [input], j.byUser := huser
    rw [stage_step_one hescape (huser input List.mem_cons_self)] at hc
    exact (closing_burst hescape hsc (t := ⟨st, [input]⟩) hi huser hc).imp_right fun hclosed =>
      ⟨_, List.mem_cons_self, hclosed⟩
  | frame inputs =>
    have huser : ∀ j ∈ inputs, j.byUser := huser
    rw [stage_step_frame hescape huser] at hc
    exact (closing_burst hescape hsc (t := ⟨st, inputs⟩) hi huser hc).imp_right fun hclosed =>
      ⟨_, List.mem_cons_self, hclosed⟩

theorem closing_lastFrom {gestures : List Gesture} (huser : ∀ g ∈ gestures, ∀ input ∈ g.inputs, input.byUser)
    (hi : Idle sc (fun _ => True) st) (hc : .moved i (.closed o) :: h <:+ (lastFrom sc gestures st).history) :
    .moved i (.closed o) :: h <:+ st.history ∨ ∃ t ∈ stepsBursts sc gestures st, ClosedByControl sc t i o h := by
  induction gestures generalizing st with
  | nil => exact Or.inl hc
  | cons g rest ih =>
    unfold lastFrom at hc
    unfold stepsBursts
    by_cases hresult : st.result.isSome = true
    · rw [if_pos hresult] at hc
      exact Or.inl hc
    rw [if_neg hresult] at hc ⊢
    have hidle := fun a => idle_step (a := a) (fun _ => trivial) (g := g) (fun _ _ => trivial) hi
    have hstep := closing_step hescape hsc (i := i) (o := o) (h := h) (huser g List.mem_cons_self) hi
    revert hc hidle hstep
    rcases step sc g st with ⟨fault | answer, after⟩
    · intro hc _ hstep
      simpa [Ran.onward] using hstep hc
    · intro hc hidle hstep
      dsimp only [Ran.onward] at hc ⊢
      have hburst (hc : .moved i (.closed o) :: h <:+ after.history) (ts : List Burst) : .moved i (.closed o) :: h <:+
          st.history ∨ ∃ t ∈ stepBursts sc g st ++ ts, ClosedByControl sc t i o h := by
        rcases hstep hc with hc | ⟨t, ht, hclosed⟩
        · exact Or.inl hc
        · exact Or.inr ⟨t, List.mem_append_left _ ht, hclosed⟩
      split_ifs at hc ⊢ with hquits
      · exact hburst hc _
      · rcases ih (fun g hg => huser g (List.mem_cons_of_mem _ hg)) (hidle answer rfl) hc with hc | ⟨t, ht, hclosed⟩
        · exact hburst hc _
        · exact Or.inr ⟨t, List.mem_append_right _ ht, hclosed⟩

end Sessions

/-! ## The start -/

/-- what every single prompt at the start does, all of them do -/
theorem presentAll_of_each {R : Stage → Stage → Prop} (hrefl : ∀ st, R st st)
    (htrans : ∀ {st₁ st₂ st₃}, R st₁ st₂ → R st₂ st₃ → R st₁ st₃)
    (heach : ∀ name st, R st (run sc (.present name) st).stage) (names : List String) (st : Stage) :
    R st (presentAll sc names st).stage := by
  induction names generalizing st with
  | nil => exact hrefl st
  | cons name rest ih =>
    unfold presentAll Ran.andThen
    split
    · exact htrans (heach name st) (ih _)
    · exact heach name st

/-- the start closes nothing, and leaves only screens waiting that are to appear -/
theorem spares_start (hsc : sc.Passive) (names : List String) : Spares .empty (presentAll sc names .empty).stage ∧
    ∀ x ∈ (presentAll sc names .empty).stage.host.queue, Silent (presentAll sc names .empty).stage x := by
  set st := (presentAll sc names .empty).stage with hst
  have hspares : Spares .empty st :=
    presentAll_of_each .refl .trans (fun name st => sparing_run hsc (.present name) st trivial) names .empty
  have hfollows : Follows sc .empty st :=
    presentAll_of_each (.refl sc) .trans (fun name st => tame_run sc (.present name) st) names .empty
  have hsends : Sends True .empty st :=
    presentAll_of_each (.refl True) .trans (fun name st => (sending_run sc (.present name) st).mono fun _ => trivial)
      names .empty
  refine ⟨hspares, fun x hx => ?_⟩
  obtain ⟨hsound, hextends⟩ := hfollows sound_empty
  obtain ⟨ms, hms, hqueue, -⟩ := hsends.posted
  rw [hqueue] at hx
  obtain ⟨k, rfl | rfl⟩ := mem_mail (h := ms) hx
  · trivial
  obtain ⟨why, hleft⟩ := unmount_mem_mail.1 (hx : .unmount k ∈ mail ms)
  have hin : .left k why ∈ st.history := hms ▸ List.mem_append_left _ hleft
  -- calls take a screen away only by closing its prompt, and none was closed
  obtain ⟨ns, hns, hbyCall⟩ := hextends.marks
  have hcall : (Mark.left k why).byCall := hbyCall _ (by simpa [hns, Stage.empty] using hin)
  cases why with
  | popped => cases hcall
  | ended => cases hcall
  | closed i =>
    obtain ⟨h, hs⟩ := exists_moment hin
    obtain ⟨-, hclosed, -⟩ := left_by_close hsound.toRecorded hs
    obtain ⟨o, ho⟩ := Phase.isClosed_iff.1 hclosed
    have hlegal := hsound.legal.of_suffix ((List.suffix_cons _ _).trans hs)
    obtain ⟨h₀, hmoved, -⟩ := hlegal.exists_moved ho
    have hbefore := hspares.closing rfl (hmoved.trans ((List.suffix_cons _ _).trans hs))
    exact absurd hbefore.length_le (by simp [Stage.empty])

/-- nothing is closed before the first input -/
theorem no_closing_start (hsc : sc.Passive) (names : List String)
    (hc : .moved i (.closed o) :: h <:+
      ((presentAll sc names .empty).andThen fun _ st => settle sc st).stage.history) : False := by
  obtain ⟨hspares, hsilent⟩ := spares_start hsc names
  have hstart : ((presentAll sc names .empty).andThen fun _ st => settle sc st).stage.history =
      (presentAll sc names .empty).stage.history := by
    unfold Ran.andThen
    split
    · exact (still_rounds sc 2 hsilent).1
    · rfl
  have hbefore := hspares.closing rfl (hstart ▸ hc)
  exact absurd hbefore.length_le (by simp [Stage.empty])

/-! ## Every session -/

/-- **Where the escape key dismisses nothing, only the controls of a dialog close its prompt.** Whatever a user does, in
whatever order and over however many dialogs: as long as scripts trigger nothing, no prompt is dismissed, and each that
is closed is closed in one of his bursts of input, by Enter in its own field or by one of its own buttons, while its
dialog was on top, with the outcome of this control. This holds until the application is shut down, and all closings
that are seen until then are among these. -/
theorem closed_by_controls (sc : Scene) (hescape : sc.escapeDismisses = false) (hsc : sc.Passive)
    (names : List String) (gestures : List Gesture) (huser : ∀ g ∈ gestures, ∀ input ∈ g.inputs, input.byUser) :
    (∀ i o h, .moved i (.closed o) :: h <:+ (lastStage sc names gestures).history →
      o ≠ .dismissed ∧ ∃ t ∈ bursts sc names gestures, ClosedByControl sc t i o h) ∧
    ∀ shot ∈ (playSession sc names gestures).shots, ∀ i o, shot.stage.phase i = .closed o →
      ∃ h, .moved i (.closed o) :: h <:+ shot.stage.history ∧
        shot.stage.history <:+ (lastStage sc names gestures).history := by
  have hcourse : Course sc (fun _ => True) (moments sc names gestures) (pauses sc names gestures)
      (lastStage sc names gestures) := course sc names ⟨fun _ => trivial, fun _ => trivial, fun _ _ _ _ => trivial⟩
  constructor
  · intro i o h hc
    suffices hburst : ∃ t ∈ bursts sc names gestures, ClosedByControl sc t i o h by
      obtain ⟨t, ht, hclosed⟩ := hburst
      refine ⟨?_, t, ht, hclosed⟩
      cases hclosed with
      | used takes top own control handled stays since closes shows => exact control.not_dismissed
    have hstart := fun hc => no_closing_start (i := i) (o := o) (h := h) hsc names hc
    have hreached : Reached sc (fun _ => True) [] (presentAll sc names .empty).stage :=
      reached_presentAll sc (fun _ => trivial) names .start
    unfold lastStage at hc
    unfold bursts
    rcases hran : (presentAll sc names .empty).andThen fun _ st => settle sc st with ⟨f | u, st⟩
    · rw [hran] at hc hstart
      exact (hstart hc).elim
    · rw [hran] at hc hstart
      obtain ⟨-, -, he⟩ := Ran.andThen_returned (congrArg Ran.answer hran)
      have hidle : Idle sc (fun _ => True) st := by
        have hsettled : settle sc (presentAll sc names .empty).stage = ⟨.ok u, st⟩ := he.symm.trans hran
        have hidle := idle_settle hreached (congrArg Ran.answer hsettled)
        rwa [hsettled] at hidle
      exact (closing_lastFrom hescape hsc huser hidle hc).resolve_left hstart
  · intro shot hshot i o hphase
    obtain ⟨p, hp, hstage⟩ := pause_of_shot hshot
    have hpaused := hcourse.pauses p hp
    have hrecorded := hpaused.idle.reached.live.toRecorded
    rw [← hstage] at hphase ⊢
    rw [hrecorded.phase_eq] at hphase
    obtain ⟨h, hmoved, -⟩ := hrecorded.legal.exists_moved hphase
    exact ⟨h, hmoved, hpaused.goes⟩

/-- two prompts on top of each other, the escape key without effect; the first one's handler brings up a third prompt
and a notice -/
def guardedScene : Scene where
  request name :=
    if name = "a" then { Request.titled "A" with onPrimary := [.call (.present "c"), .call (.notice "done")] }
    else .titled "B"
  surface _ := ⟨[], []⟩
  threshold := 10
  cancelLabel := "Cancel"
  escapeDismisses := false

/-- a user tries to get rid of the dialogs, and then uses their controls -/
def guardedInputs : List Gesture :=
  [.keys [.escape, .tab, .escape, .backTab], .one .clickAside,
    .frame [.setField "no", .key .escape, .click .cancel, .button .primary, .clickAside],
    .keys [.edit (.insert 'x'), .enter, .escape], .one (.button .cancel)]

theorem guardedScene_passive : guardedScene.Passive where
  handler name cb script hscript := by
    have hcases := handlerScript_cases hscript
    dsimp only [guardedScene] at hcases
    split_ifs at hcases <;> rcases hcases with rfl | hnone | hnone | hnone
    · simp [Action.Passive, Call.Passive]
    on_goal 4 => simp [Request.titled]
    all_goals cases hnone
  onShow place := by simp [guardedScene]
  onClose place := by simp [guardedScene]

theorem closed_by_controls_stacked :
    (∀ i o h, .moved i (.closed o) :: h <:+ (lastStage guardedScene ["a", "b"] guardedInputs).history →
      o ≠ .dismissed ∧ ∃ t ∈ bursts guardedScene ["a", "b"] guardedInputs, ClosedByControl guardedScene t i o h) ∧
    (lastStage guardedScene ["a", "b"] guardedInputs).controllers.map (·.phase) =
      [.closed .primary, .closed .cancel, .shown (.dialog 2)] :=
  ⟨(closed_by_controls guardedScene rfl guardedScene_passive ["a", "b"] guardedInputs (by decide)).1, by cbv⟩

end LinePrompt.Screen
