/-
A prompt's text is what stands in its dialog's field.

As long as only dialogs set texts, an open prompt of an idle application has the text in its field, and a dialog that is
closed by one of its controls or keys closes its prompt with the text in the field: the one that stands there when a
pressed control is handled, or the one that was submitted, whatever changes still wait to be heard. The handler of the
outcome gets that text, and the prompt keeps it from then on. All of it in `prompt_texts_follow_fields`, which rests on
`Reached.inTouch`.
-/
import LinePrompt.Proofs.Screen.InTouch
import LinePrompt.Proofs.Screen.Moments

namespace LinePrompt.Screen

open LinePrompt.Log LinePrompt.Prompt

variable {sc : Scene} {can : Input → Prop} {st st' final : Stage} {ms rest : List Message} {m : Modal} {i k : Nat}
  {o : Outcome} {text : String} {h h' before after : List Mark}

/-! ## Closing with a text -/

/-- after the end of a dialog's closing comes the handler, if there is one -/
theorem handler_mem_of_lifeline {r : Request} {had todo : List Mark}
    (he : had ++ todo = lifeline r i (.dialog k) o text)
    (hrest : todo = [] ∨ ∃ cb rest, todo = .ended i cb :: rest ∧ ∀ k, cb ≠ .surfaceClose (.dialog k))
    (hh : (r.handlerFor o).isSome) : .began i (.handler o text) ∈ had := by
  have hscripted : scripted r i (.handler o text) = [.began i (.handler o text), .ended i (.handler o text)] :=
    if_pos hh
  rw [lifeline, hscripted] at he
  rcases hrest with rfl | ⟨cb, rest, rfl, hcb⟩
  · rw [List.append_nil] at he
    simp [he]
  · rcases had with _ | ⟨_, _ | ⟨_, _ | ⟨_, _ | ⟨_, had⟩⟩⟩⟩
    · simp at he
    · simp at he
    · obtain ⟨-, -, hended, -⟩ : _ ∧ _ ∧ cb = .surfaceClose (.dialog k) ∧ _ := by simpa using he
      exact absurd hended (hcb k)
    · simp at he
    · obtain ⟨-, -, -, rfl, -⟩ : _ ∧ _ ∧ _ ∧ _ = Mark.began i (.handler o text) ∧ _ := by simpa using he
      simp

/-- between two moments of a run the prompt was closed by this outcome, with this text for good -/
structure ClosedWith (sc : Scene) (i : Nat) (o : Outcome) (text : String) (before after : List Mark) (final : Stage) :
    Prop where
  /-- from its closing on it has the text -/
  closing : ∃ h, before <:+ h ∧ .moved i (.closed o) :: h <:+ after ∧
    ∀ h', .moved i (.closed o) :: h <:+ h' → h' <:+ final.history → textAt sc h' i = text
  /-- the handler of the outcome is called with it, if there is one -/
  called : ((final.request sc i).handlerFor o).isSome → .began i (.handler o text) ∈ after
  /-- and no handler is called with another -/
  handed : ∀ o' t, .began i (.handler o' t) ∈ final.history → o' = o ∧ t = text

theorem ClosedWith.later (hc : ClosedWith sc i o text before after final) (hs : after <:+ h) :
    ClosedWith sc i o text before h final := by
  obtain ⟨h₀, hbefore, hmoved, htext⟩ := hc.closing
  exact ⟨⟨h₀, hbefore, hmoved.trans hs, htext⟩, fun hh => hs.subset (hc.called hh), hc.handed⟩

/-- a dialog's prompt that is closed, and whatever has then become of it -/
theorem closedWith_of_moved (hs : Sound sc st) (hfinal : Recorded sc final) (hsuf : st.history <:+ final.history)
    (hb : .began i (.surfaceShow (.dialog k)) ∈ st.history) (hbefore : before <:+ h)
    (hmoved : .moved i (.closed o) :: h <:+ st.history) :
    ClosedWith sc i o (textAt sc h i) before st.history final := by
  have hlt := (hs.legal.may hmoved).1
  have hclosed : phaseAt sc (.moved i (.closed o) :: h) i = .closed o := by rw [phaseAt_moved, if_pos ⟨rfl, hlt⟩]
  have hphase := hs.legal.phaseAt_closed hmoved hclosed
  have hstays : ∀ h', .moved i (.closed o) :: h <:+ h' → h' <:+ final.history → textAt sc h' i = textAt sc h i := by
    intro h' hsince hh
    rw [(hfinal.legal.of_suffix hh).textAt_closed hsince hclosed, textAt_moved]
  refine ⟨⟨h, hbefore, hmoved, hstays⟩, ?_, ?_⟩
  · have ha := hs.rest i
    unfold AtRest at ha
    simp only [hphase] at ha
    obtain ⟨s, todo, he, hrest⟩ := ha
    obtain rfl : .dialog k = s := surfaceShow_of_mem_lifeline (he ▸ List.mem_append_left _ (mem_deeds_of_began hb))
    rw [hfinal.request_eq, requestAt_of_lt hsuf (lt_of_phaseAt_ne_created (by simp [hphase]))]
    rw [hstays _ hmoved hsuf] at he
    exact fun hh => (mem_deeds.1 (handler_mem_of_lifeline he hrest hh)).1
  · intro o' t hin
    obtain ⟨h₁, hbegan⟩ := exists_moment hin
    obtain ⟨hp, ht⟩ := hfinal.legal.handler hbegan
    have hsuf₁ := (List.suffix_cons _ _).trans hbegan
    -- the handler was called once the prompt was closed, and it was closed once
    obtain ⟨h₂, hmoved₂, -⟩ := (hfinal.legal.of_suffix hsuf₁).exists_moved hp
    obtain ⟨rfl, rfl⟩ := hfinal.legal.closed_once (hmoved₂.trans hsuf₁) (hmoved.trans hsuf)
    exact ⟨rfl, ht.trans (hstays h₁ hmoved₂ hsuf₁)⟩

/-! ## Controls -/

/-- the outcome that a control stands for -/
def Widget.outcome? : Widget → Option Outcome
  | .input => none
  | .primary => some .primary
  | .alternate => some .alternate
  | .cancel => some .cancel

theorem moved_trigger {s : Surface} (hp : st.phase i = .shown s) (o : Outcome) :
    .moved i (.closed o) :: st.history <:+ (trigger sc i o st).stage.history := by
  rw [stage_trigger]
  exact moved_close sc (sending_run sc) hp o

theorem stage_pressControl_alternate (i : Nat) (st : Stage) :
    (pressControl sc i .alternate st).stage = (alternate (run sc) sc i st).stage := by
  show ((alternate (run sc) sc i st).andThen fun _ st => (⟨.ok (), st⟩ : Ran Unit)).stage = _
  unfold Ran.andThen
  split <;> rfl

/-- a control that the dialog has triggers the outcome that it stands for -/
theorem pressControl_eq {w : Widget} (hw : (controls (st.request sc i)).contains w) :
    ∃ o, w.outcome? = some o ∧ pressControl sc i w st = trigger sc i o st := by
  cases w with
  | input =>
    unfold controls at hw
    split_ifs at hw <;> simp at hw
  | primary => exact ⟨.primary, rfl, rfl⟩
  | cancel => exact ⟨.cancel, rfl, rfl⟩
  | alternate =>
    refine ⟨.alternate, rfl, ?_⟩
    have hhas : (st.request sc i).hasAlternate = true := by
      by_contra hno
      rw [controls, if_neg hno] at hw
      simp at hw
    have halternate : alternate (run sc) sc i st = close (run sc) sc i .alternate st := if_pos hhas
    show (alternate (run sc) sc i st).andThen _ = _
    rw [halternate]
    rfl

/-- a control that the dialog has closes its prompt -/
theorem moved_pressControl {w : Widget} {s : Surface} (hp : st.phase i = .shown s)
    (hw : (controls (st.request sc i)).contains w) :
    ∃ o, w.outcome? = some o ∧ .moved i (.closed o) :: st.history <:+ (pressControl sc i w st).stage.history := by
  obtain ⟨o, ho, hpress⟩ := pressControl_eq hw
  rw [hpress]
  exact ⟨o, ho, moved_trigger hp o⟩

/-- what the dialog has no control for leaves its prompt as it is -/
theorem phase_pressControl {w : Widget} (hw : ¬ (controls (st.request sc i)).contains w) :
    (pressControl sc i w st).stage.phase i = st.phase i := by
  unfold controls at hw
  cases w with
  | input => rfl
  | primary => split_ifs at hw <;> simp at hw
  | cancel => split_ifs at hw <;> simp at hw
  | alternate =>
    have hhas : ¬ (st.request sc i).hasAlternate = true := by
      intro hhas
      rw [if_pos hhas] at hw
      simp at hw
    rw [stage_pressControl_alternate, alternate, if_neg hhas]
    show (st.debug sc i _ []).phase i = _
    rcases log_eq st sc .debug _ with he | ⟨r, he⟩
    · rw [Stage.debug, he]
    · rw [Stage.debug, he]
      rfl

/-- a text that is set on an open prompt -/
theorem setText_open (hs : Sound sc st) (hopen : (st.phase i).isOpen) (text : String) :
    st.history <:+ (st.setText i text).history ∧ textAt sc (st.setText i text).history i = text ∧
      ∃ s, (st.setText i text).phase i = .shown s := by
  obtain ⟨s, hp⟩ := Phase.isOpen_iff.1 hopen
  obtain ⟨hh, -⟩ := setText_frame st i text
  have hphase := hs.phase_eq i ▸ hp
  rw [(hs.toRecorded.setText i text).phase_eq, hh, textAt_texted, phaseAt_texted]
  have htakes : Takes sc st.history i i := by
    refine ⟨⟨rfl, lt_of_phaseAt_ne_created ?_⟩, ?_⟩
    · simp [hphase]
    · simp [hphase, Phase.isClosed]
  exact ⟨List.suffix_cons _ _, if_pos htakes, s, hphase⟩

/-- setting a text does not change what a prompt asks for -/
theorem request_setText (st : Stage) (i j : Nat) (text : String) :
    (st.setText i text).request sc j = st.request sc j := by
  unfold Stage.request Stage.setText Stage.controller
  split_ifs
  · rfl
  · simp only [Stage.note, Stage.update, getD_modify]
    split_ifs <;> rfl

/-! ## Messages and keys -/

theorem InTouch.shown (ht : InTouch sc ms st) (hs : Sound sc st) (hm : st.host.modal? k = some m) :
    .began m.controller (.surfaceShow (.dialog k)) ∈ st.history :=
  hs.shown m.controller k (Host.driver?_of_modal? hm) (ht.up k m hm)

/-- a dialog that appears shows the text its prompt starts with, the caret at its end -/
theorem InTouch.starts (ht : InTouch sc (.mount k :: rest) st) (hr : Recorded sc st)
    (hm : st.host.modal? k = some m) (hopen : (st.phase m.controller).isOpen)
    (hok : (handle sc (.mount k) st).answer = .ok ()) :
    ∃ m', (handle sc (.mount k) st).stage.host.modal? k = some m' ∧ m'.controller = m.controller ∧ m'.mounted ∧
      m'.field.text = (st.request sc m.controller).startText ∧ m'.field.caret = m'.field.chars.length ∧
      (handle sc (.mount k) st).stage.text m.controller = (st.request sc m.controller).startText := by
  have hmounted : m.mounted = false := by
    by_contra hmounted
    exact ht.mounted k m hm (by simpa using hmounted) List.mem_cons_self
  have htext := text_of_not_texted hr hopen (ht.unmounted k m hm hmounted).2
  rw [(mount_returned hm hok).2]
  refine ⟨appear sc m st m, ?_, rfl, rfl, ?_, ?_, htext⟩
  · show (st.host.updateModal k _).modal? k = _
    rw [Host.modal?_updateModal, if_pos rfl, hm]
    rfl
  · rw [appear, htext]
    exact String.ofList_toList
  · rw [appear, htext]
    simp [Field.ofText, Request.caretStart, String.length_toList]

/-- a pressed control closes its prompt with the text that is then in the field -/
theorem InTouch.presses {w : Widget} (ht : InTouch sc (.pressed k w :: rest) st)
    (hl : Live sc (.pressed k w :: rest) st) (hfinal : Recorded sc final)
    (hsuf : (handle sc (.pressed k w) st).stage.history <:+ final.history) (hm : st.host.modal? k = some m)
    (hopen : (st.phase m.controller).isOpen) :
    if hasControl sc st m w then ∃ o, w.outcome? = some o ∧
      ClosedWith sc m.controller o m.field.text st.history (handle sc (.pressed k w) st).stage.history final
    else ((handle sc (.pressed k w) st).stage.phase m.controller).isOpen := by
  have he : (handle sc (.pressed k w) st).stage =
      (pressControl sc m.controller w (st.setText m.controller m.field.text)).stage := by
    simp [handle, hm, hopen]
  obtain ⟨hbefore, htext, s, hp⟩ := setText_open hl.toSound hopen m.field.text
  have hshown := (suffix_handle sc (.pressed k w) st).subset (ht.shown hl.toSound hm)
  unfold hasControl
  rw [← request_setText st m.controller m.controller m.field.text]
  split_ifs with hw
  · obtain ⟨o, ho, hmoved⟩ := moved_pressControl hp hw
    rw [← he] at hmoved
    refine ⟨o, ho, ?_⟩
    nth_rewrite 1 [← htext]
    exact closedWith_of_moved hl.after_handle.toSound hfinal hsuf hshown hbefore hmoved
  · rw [he, phase_pressControl hw, hp]
    rfl

/-- a text that is submitted closes its prompt -/
theorem InTouch.submits {value : String} (ht : InTouch sc (.submitted k value :: rest) st)
    (hl : Live sc (.submitted k value :: rest) st) (hfinal : Recorded sc final)
    (hsuf : (handle sc (.submitted k value) st).stage.history <:+ final.history) (hm : st.host.modal? k = some m)
    (hopen : (st.phase m.controller).isOpen) : ClosedWith sc m.controller .primary value st.history
      (handle sc (.submitted k value) st).stage.history final := by
  have he : (handle sc (.submitted k value) st).stage =
      (trigger sc m.controller .primary (st.setText m.controller value)).stage := by simp [handle, hm]
  obtain ⟨hbefore, htext, s, hp⟩ := setText_open hl.toSound hopen value
  have hshown := (suffix_handle sc (.submitted k value) st).subset (ht.shown hl.toSound hm)
  have hmoved : .moved m.controller (.closed .primary) :: _ <:+ (handle sc (.submitted k value) st).stage.history :=
    he ▸ moved_trigger hp .primary
  nth_rewrite 1 [← htext]
  exact closedWith_of_moved hl.after_handle.toSound hfinal hsuf hshown hbefore hmoved

/-- when nothing waits, an open prompt's dialog is mounted, and the prompt has the text in its field -/
theorem InTouch.agrees (ht : InTouch sc [] st) (hq : st.host.queue = []) (hm : st.host.modal? k = some m)
    (hopen : (st.phase m.controller).isOpen) : m.mounted ∧ st.text m.controller = m.field.text := by
  have hnone : waiting [] st = [] := hq
  have hmounted : m.mounted = true := by
    by_contra hmounted
    have hin := (ht.unmounted k m hm (by simpa using hmounted)).1
    rw [hnone] at hin
    cases hin
  have hagree := ht.agree k m hm hmounted hopen
  rw [hnone] at hagree
  exact ⟨hmounted, hagree.symm⟩

/-- the escape key dismisses the prompt with the text in the field -/
theorem InTouch.escapes (ht : InTouch sc [] st) (hq : st.host.queue = []) (hl : Live sc [] st)
    (hfinal : Recorded sc final) (hsuf : (press sc .escape st).stage.history <:+ final.history)
    (htop : topDialog? st = some (k, m)) (hopen : (st.phase m.controller).isOpen) (hescape : sc.escapeDismisses) :
    ClosedWith sc m.controller .dismissed m.field.text st.history (press sc .escape st).stage.history final := by
  obtain ⟨-, hm, -⟩ := mounted_of_topDialog? htop
  obtain ⟨s, hp⟩ := Phase.isOpen_iff.1 hopen
  have hsound := (passes_press .escape st hl.toRunning).1.toSound
  have he : (press sc .escape st).stage = (trigger sc m.controller .dismissed st).stage := by
    simp [press, htop, keyOn, hescape]
  have hmoved : .moved m.controller (.closed .dismissed) :: _ <:+ (press sc .escape st).stage.history :=
    he ▸ moved_trigger hp .dismissed
  rw [← (ht.agrees hq hm hopen).2, hl.toSound.text_eq]
  exact closedWith_of_moved hsound hfinal hsuf (((List.suffix_cons _ _).trans hmoved).subset (ht.shown hl.toSound hm))
    (List.suffix_refl _) hmoved

/-- the first message that waits is handled before all else -/
theorem suffix_settle_of_queue {x : Message} (hq : st.host.queue = x :: rest) :
    (handle sc x (emptied st)).stage.history <:+ (settle sc st).stage.history := by
  unfold settle rounds
  rw [hq]
  exact (suffix_andThen fun _ _ => suffix_handleAll rest _ : _ <:+ (handleAll sc (x :: rest) _).stage.history).trans
    (suffix_andThen fun _ _ => suffix_rounds 2 _)

/-- the enter key in the field closes the prompt with the text that stands there -/
theorem Idle.enters (hi : Idle sc can st) (hkey : ∀ key, can (.key key)) (hcan : ∀ i, can i → i.setsText = false)
    (hscript : ¬ ScriptSets st.history) (hfinal : Recorded sc final)
    (hsuf : (pressAndSettle sc .enter st).stage.history <:+ final.history) (htop : topDialog? st = some (k, m))
    (hopen : (st.phase m.controller).isOpen) (hfocus : m.focus = .input) :
    ClosedWith sc m.controller .primary m.field.text st.history (pressAndSettle sc .enter st).stage.history final := by
  obtain ⟨-, hm, -⟩ := mounted_of_topDialog? htop
  set st₁ := postMessage st (.submitted k m.field.text) with hst₁
  have hpress : press sc .enter st = ⟨.ok (), st₁⟩ := by simp [press, htop, keyOn, hfocus, hst₁]
  have hq : st₁.host.queue = [.submitted k m.field.text] := by
    simp [hst₁, postMessage, Host.post, hi.queue]
  have hr₁ : Reached sc can [] st₁ := by
    have hr := reached_press hkey hi.reached .enter
    rwa [hpress] at hr
  have hround := hr₁.round
  rw [hq] at hround
  have hlater : (handle sc (.submitted k m.field.text) (emptied st₁)).stage.history <:+
      (pressAndSettle sc .enter st).stage.history := by
    unfold pressAndSettle
    rw [hpress]
    exact suffix_settle_of_queue hq
  exact ((hround.inTouch hcan hscript).submits hround.live hfinal (hlater.trans hsuf) hm hopen).later hlater

/-! ## Every session -/

/-- prompts have the texts in their fields over a session with these moments and these pauses, up to its end -/
structure TextsFollowFields (sc : Scene) (xs : List Moment) (ps : List Pause) (showing : Showing) : Prop where
  /-- what is seen is seen in a pause -/
  seen : ∀ shot ∈ showing.shots, ∃ p ∈ ps, p.stage = shot.stage
  /-- when the application is idle, the dialog of an open prompt is mounted, and the prompt has the text in its field -/
  idle : ∀ p ∈ ps, ∀ k m, p.stage.host.modal? k = some m → (p.stage.phase m.controller).isOpen →
    m.mounted ∧ p.stage.text m.controller = m.field.text
  /-- a dialog that appears has the text its prompt starts with, the caret at its end -/
  shown : ∀ x ∈ xs, ∀ k m, x.message = .mount k → x.stage.host.modal? k = some m →
    (x.stage.phase m.controller).isOpen → (handle sc x.message x.stage).answer = .ok () →
    ∃ m', (x.after sc).host.modal? k = some m' ∧ m'.controller = m.controller ∧ m'.mounted ∧
      m'.field.text = (x.stage.request sc m.controller).startText ∧ m'.field.caret = m'.field.chars.length ∧
      (x.after sc).text m.controller = (x.stage.request sc m.controller).startText
  /-- a control that is pressed closes its prompt with the text that is then in the field -/
  pressed : ∀ x ∈ xs, ∀ k w m, x.message = .pressed k w → x.stage.host.modal? k = some m →
    (x.stage.phase m.controller).isOpen →
    if hasControl sc x.stage m w then ∃ o, w.outcome? = some o ∧
      ClosedWith sc m.controller o m.field.text x.stage.history (x.after sc).history showing.stage
    else ((x.after sc).phase m.controller).isOpen
  /-- a text that is submitted closes its prompt -/
  submitted : ∀ x ∈ xs, ∀ k value m, x.message = .submitted k value → x.stage.host.modal? k = some m →
    (x.stage.phase m.controller).isOpen →
    ClosedWith sc m.controller .primary value x.stage.history (x.after sc).history showing.stage
  /-- the enter key in a field submits the text that stands there -/
  entered : ∀ p ∈ ps, ∀ k m, p.key? = some .enter → topDialog? p.stage = some (k, m) →
    (p.stage.phase m.controller).isOpen → m.focus = .input →
    ClosedWith sc m.controller .primary m.field.text p.stage.history (pressAndSettle sc .enter p.stage).stage.history
      showing.stage
  /-- the escape key, where it is set up to, dismisses the prompt -/
  escaped : ∀ p ∈ ps, ∀ k m, p.key? = some .escape → topDialog? p.stage = some (k, m) →
    (p.stage.phase m.controller).isOpen → sc.escapeDismisses →
    ClosedWith sc m.controller .dismissed m.field.text p.stage.history
      (pressAndSettle sc .escape p.stage).stage.history showing.stage

/-- **As long as only dialogs set texts, prompts have the texts in their fields**, whatever other calls come from
outside and from scripts, and in whatever order fields change and controls are pressed before any of it is handled. -/
theorem prompt_texts_follow_fields (sc : Scene) (names : List String) (gestures : List Gesture)
    (hcalls : ∀ g ∈ gestures, ∀ i ∈ g.inputs, i.setsText = false)
    (hscripts : ¬ ScriptSets (playSession sc names gestures).stage.history) :
    TextsFollowFields sc (moments sc names gestures) (pauses sc names gestures) (playSession sc names gestures) := by
  set can : Input → Prop := fun i => i.setsText = false with hcan
  set final := (playSession sc names gestures).stage
  have hcourse : Course sc can (moments sc names gestures) (pauses sc names gestures) (lastStage sc names gestures) :=
    course sc names ⟨fun _ => rfl, fun _ => rfl, hcalls⟩
  have hfinal : Recorded sc final := (session_kept sc names gestures).final
  have hgrown : (lastStage sc names gestures).history <:+ final.history := suffix_playSession hcourse.last
  have hsilent : ∀ h, h <:+ final.history → ¬ ScriptSets h :=
    fun h hsuf hs => hscripts (hs.mono fun _ hin => hsuf.subset hin)
  have hmoment : ∀ x ∈ moments sc names gestures, ∃ rest, Live sc (x.message :: rest) x.stage ∧
      InTouch sc (x.message :: rest) x.stage ∧ (x.after sc).history <:+ final.history := by
    intro x hx
    obtain ⟨⟨rest, hr⟩, hafter⟩ := hcourse.moments x hx
    have hsuf := hafter.trans hgrown
    exact ⟨rest, hr.live, hr.inTouch (fun _ hi => hi) (hsilent _ ((suffix_handle sc _ _).trans hsuf)), hsuf⟩
  have hpause : ∀ p ∈ pauses sc names gestures, Paused sc can p final ∧ InTouch sc [] p.stage := by
    intro p hp
    have hpaused := (hcourse.pauses p hp).later hgrown
    exact ⟨hpaused, hpaused.idle.reached.inTouch (fun _ hi => hi) (hsilent _ hpaused.goes)⟩
  exact {
    seen := fun shot hshot => pause_of_shot hshot
    idle := by
      intro p hp k m hm hopen
      obtain ⟨hpaused, ht⟩ := hpause p hp
      exact ht.agrees hpaused.idle.queue hm hopen
    shown := by
      intro x hx k m hmessage hm hopen hok
      obtain ⟨rest, hl, ht, -⟩ := hmoment x hx
      unfold Moment.after
      rw [hmessage] at hl ht hok ⊢
      exact ht.starts hl.toRecorded hm hopen hok
    pressed := by
      intro x hx k w m hmessage hm hopen
      obtain ⟨rest, hl, ht, hsuf⟩ := hmoment x hx
      unfold Moment.after at hsuf ⊢
      rw [hmessage] at hl ht hsuf ⊢
      exact ht.presses hl hfinal hsuf hm hopen
    submitted := by
      intro x hx k value m hmessage hm hopen
      obtain ⟨rest, hl, ht, hsuf⟩ := hmoment x hx
      unfold Moment.after at hsuf ⊢
      rw [hmessage] at hl ht hsuf ⊢
      exact ht.submits hl hfinal hsuf hm hopen
    entered := by
      intro p hp k m hkey htop hopen hfocus
      obtain ⟨hpaused, -⟩ := hpause p hp
      exact hpaused.idle.enters (fun _ => rfl) (fun _ hi => hi) (hsilent _ hpaused.goes) hfinal (hpaused.key _ hkey)
        htop hopen hfocus
    escaped := by
      intro p hp k m hkey htop hopen hescape
      obtain ⟨hpaused, ht⟩ := hpause p hp
      have hlater : (press sc .escape p.stage).stage.history <:+ (pressAndSettle sc .escape p.stage).stage.history :=
        suffix_andThen fun _ _ => suffix_settle _
      have hsuf := hlater.trans (hpaused.key _ hkey)
      exact (ht.escapes hpaused.idle.queue hpaused.idle.reached.live hfinal hsuf htop hopen hescape).later hlater }

/-- two prompts: in the dialog of the one on top a text is set, the control pressed and another text set before any of
it is handled; in that of the other a text is typed and submitted -/
def pressThenSubmit : List Gesture :=
  [.frame [.setField "x", .button .primary, .setField "y"], .keys [.edit (.insert 'z'), .enter]]

theorem pressThenSubmit_texts :
    (∀ g ∈ pressThenSubmit, ∀ i ∈ g.inputs, i.setsText = false) ∧
      ¬ ScriptSets (playSession plainScene ["a", "b"] pressThenSubmit).stage.history ∧
      TextsFollowFields plainScene (moments plainScene ["a", "b"] pressThenSubmit)
        (pauses plainScene ["a", "b"] pressThenSubmit) (playSession plainScene ["a", "b"] pressThenSubmit) := by
  have hcalls : ∀ g ∈ pressThenSubmit, ∀ i ∈ g.inputs, i.setsText = false := by
    simp [pressThenSubmit, Gesture.inputs, Input.setsText]
  have hscripts : ¬ ScriptSets (playSession plainScene ["a", "b"] pressThenSubmit).stage.history := by
    have hnone : (playSession plainScene ["a", "b"] pressThenSubmit).stage.history.any Mark.setsText = false := by cbv
    simpa [ScriptSets] using hnone
  exact ⟨hcalls, hscripts, prompt_texts_follow_fields plainScene ["a", "b"] pressThenSubmit hcalls hscripts⟩

/-- the pressed control takes the text that stands in the field when the press is handled -/
example : ((playSession plainScene ["a", "b"] pressThenSubmit).stage.text 1,
    (playSession plainScene ["a", "b"] pressThenSubmit).stage.text 0) = ("y", "z") := by
  cbv

end LinePrompt.Screen
