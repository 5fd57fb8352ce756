/-
The application that asks one question, and its result.

It has one prompt, whose handlers keep the text they are given and whose `onClosed` ends the application with the
outcome and a text: the one that was kept, or the prompt's own where no handler was called. `OneShot` says how the two
stand together: either the prompt is up and there is no result, or it is closed and the result is its outcome and its
text. No input and no message breaks that (`upheld_oneShot`) as long as nobody calls from outside, and the end of the
application closes a prompt that is still up (`answered_playSession`).

Only labels that cannot be shown end the application without an answer, before its dialog appears
(`crash_of_unshowable`).
-/
import LinePrompt.CommandLine.Run
import LinePrompt.Proofs.Prompt.Circles
import LinePrompt.Proofs.Screen.Upkeep

namespace LinePrompt.CommandLine

open LinePrompt.Log LinePrompt.Prompt LinePrompt.Screen

variable {a : Application} {threshold k : Nat} {st st₁ st₂ st₃ : Stage} {o : Outcome} {again : Caller}

/-! ## What leaves the prompt alone -/

/-- the prompt and the result are as they were, `onClosed` was not called, dialogs stay with their prompts, and no
screen is to appear that was not to appear before -/
structure Aside (st st' : Stage) : Prop where
  controllers : st'.controllers = st.controllers
  result : st'.result = st.result
  uncalled : st'.history.countP (callsOnClosed 0) = st.history.countP (callsOnClosed 0)
  driver : ∀ k, st'.host.driver? k = st.host.driver? k
  unasked : ∀ k, .mount k ∈ st'.host.queue → .mount k ∈ st.host.queue

theorem Aside.refl (st : Stage) : Aside st st := ⟨rfl, rfl, rfl, fun _ => rfl, fun _ => id⟩

theorem Aside.trans (h12 : Aside st₁ st₂) (h23 : Aside st₂ st₃) : Aside st₁ st₃ :=
  ⟨h23.controllers.trans h12.controllers, h23.result.trans h12.result, h23.uncalled.trans h12.uncalled,
    fun k => (h23.driver k).trans (h12.driver k), fun k hk => h12.unasked k (h23.unasked k hk)⟩

theorem Aside.phase_eq (h : Aside st₁ st₂) (i : Nat) : st₂.phase i = st₁.phase i := by
  rw [Stage.phase, Stage.controller, h.controllers]
  rfl

theorem Aside.text_eq (h : Aside st₁ st₂) (i : Nat) : st₂.text i = st₁.text i := by
  rw [Stage.text, Stage.controller, h.controllers]
  rfl

theorem aside_note {m : Mark} (hm : callsOnClosed 0 m = false) : Aside st (st.note m) :=
  ⟨rfl, rfl, List.countP_cons_of_neg (by simp [hm]), fun _ => rfl, fun _ => id⟩

theorem aside_log (sc : Scene) (severity : Severity) (record : Unit → Record) :
    Aside st (st.log sc severity record) := by
  rcases log_eq st sc severity record with he | ⟨r, he⟩
  · rw [he]
    exact .refl st
  · rw [he]
    exact aside_note rfl

theorem aside_host (host : Host) (hd : ∀ k, host.driver? k = st.host.driver? k)
    (hq : ∀ k, .mount k ∈ host.queue → .mount k ∈ st.host.queue) : Aside st { st with host } :=
  ⟨rfl, rfl, rfl, hd, hq⟩

theorem mount_mem_pop {h : Host} (hin : .mount k ∈ h.pop.queue) : .mount k ∈ h.queue := by
  unfold Host.pop at hin
  split at hin
  · exact hin
  · simpa [Host.post] using hin

theorem aside_pop (why : Departure) : Aside st (st.pop why) := by
  unfold Stage.pop
  split
  · exact .refl st
  · exact (aside_host st.host.pop (fun k => Host.driver?_pop _ k) fun _ => mount_mem_pop).trans (aside_note rfl)

theorem aside_closeDialog (sc : Scene) (k : Nat) : Aside st (closeDialog sc 0 k st) := by
  unfold closeDialog
  split_ifs
  · exact .refl st
  · exact aside_pop _
  · exact aside_log sc _ _

theorem aside_updateDialog (k : Nat) {f : Modal → Modal} (hf : ∀ m, (f m).controller = m.controller) :
    Aside st (updateDialog st k f) :=
  aside_host _ (fun j => Host.driver?_updateModal k j hf) fun _ hin => Host.queue_updateModal st.host k f ▸ hin

theorem aside_post {m : Message} (hm : ∀ k, m ≠ .mount k) : Aside st (postMessage st m) := by
  refine aside_host _ (fun _ => rfl) fun k hin => ?_
  exact (List.mem_append.1 hin).resolve_right fun he => hm k (List.mem_singleton.1 he).symm

theorem aside_focusOn (k : Nat) (w : Widget) : Aside st (updateDialog st k (focusOn w)) := by
  refine aside_updateDialog k fun m => ?_
  unfold focusOn
  split_ifs <;> rfl

theorem aside_changeField (k : Nat) (m : Modal) (field : Field) : Aside st (changeField st k m field) := by
  have hfield : Aside st (updateDialog st k ({ · with field })) := aside_updateDialog k fun _ => rfl
  unfold changeField
  dsimp only
  split_ifs
  · exact hfield
  · exact hfield.trans (aside_post (by simp))

theorem aside_detach (k : Nat) : Aside st (st.detach k) := by
  have hupdated : Aside st (updateDialog st k ({ · with detached := true })) := aside_updateDialog k fun _ => rfl
  exact hupdated.trans (aside_note rfl)

/-! ## The prompt and the result -/

/-- the prompt is up, and there is no result -/
structure Pending (st : Stage) : Prop where
  phase : st.phase 0 = .shown (.dialog 0)
  result : st.result = none
  uncalled : st.history.countP (callsOnClosed 0) = 0

/-- the prompt is closed, and the result, which was made once, is its outcome and its text -/
structure Answered (a : Application) (st : Stage) (o : Outcome) : Prop where
  phase : st.phase 0 = .closed o
  result : st.result = some (o, st.text 0)
  once : st.history.countP (callsOnClosed 0) = 1
  /-- only a label that is not empty offers an alternate button -/
  alternate : o = .alternate → ∃ label, a.question.alternateLabel = some label ∧ label ≠ ""

/-- there is one prompt, dialogs are its dialogs, and none is still to appear -/
structure Single (st : Stage) : Prop where
  sole : st.controllers.length = 1
  driven : ∀ k i, st.host.driver? k = some i → i = 0
  still : ∀ k, .mount k ∉ st.host.queue

/-- the one prompt of the application, and what has become of it -/
structure OneShot (a : Application) (st : Stage) : Prop extends Single st where
  stands : Pending st ∨ ∃ o, Answered a st o

theorem Single.aside (h : Single st₁) (hs : Aside st₁ st₂) : Single st₂ where
  sole := by rw [hs.controllers, h.sole]
  driven k i hk := h.driven k i ((hs.driver k).symm.trans hk)
  still k hin := h.still k (hs.unasked k hin)

theorem Single.controller_eq (h : Single st) {modal : Modal} (hm : st.host.modal? k = some modal) :
    modal.controller = 0 := h.driven k _ (Host.driver?_of_modal? hm)

theorem Pending.aside (h : Pending st₁) (hs : Aside st₁ st₂) : Pending st₂ :=
  ⟨(hs.phase_eq 0).trans h.phase, hs.result.trans h.result, hs.uncalled.trans h.uncalled⟩

theorem Answered.aside (h : Answered a st₁ o) (hs : Aside st₁ st₂) : Answered a st₂ o where
  phase := (hs.phase_eq 0).trans h.phase
  result := by rw [hs.result, hs.text_eq, h.result]
  once := hs.uncalled.trans h.once
  alternate := h.alternate

theorem OneShot.aside (h : OneShot a st₁) (hs : Aside st₁ st₂) : OneShot a st₂ where
  toSingle := h.toSingle.aside hs
  stands := h.stands.imp (·.aside hs) fun ⟨o, ho⟩ => ⟨o, ho.aside hs⟩

/-- an open prompt takes a text, a closed one leaves it -/
theorem OneShot.setText (h : OneShot a st) (text : String) : OneShot a (st.setText 0 text) := by
  rcases h.stands with hp | ⟨o, ho⟩
  · obtain ⟨-, hhost, -, hlen⟩ := setText_frame st 0 text
    have hopen : (st.phase 0).isClosed = false := by rw [hp.phase]; rfl
    have hphase : (st.update 0 ({ · with text })).phase 0 = st.phase 0 := by
      rw [Stage.phase, controller_update]
      split_ifs <;> rfl
    refine ⟨⟨hlen.trans h.sole, fun k i hk => h.driven k i (hhost ▸ hk), fun k => hhost ▸ h.still k⟩, Or.inl ?_⟩
    unfold Stage.setText
    rw [hopen]
    exact ⟨hphase.trans hp.phase, hp.result, (List.countP_cons_of_neg (by simp [callsOnClosed])).trans hp.uncalled⟩
  · have hclosed : (st.phase 0).isClosed = true := by rw [ho.phase]; rfl
    refine h.aside ?_
    unfold Stage.setText
    rw [if_pos hclosed]
    exact aside_note rfl

/-! ## Handlers -/

theorem hasAlternate_iff : a.hasAlternate ↔ ∃ label, a.question.alternateLabel = some label ∧ label ≠ "" := by
  unfold Application.hasAlternate Settings.nonempty?
  cases a.question.alternateLabel <;> simp

theorem handlerFor_alternate (a : Application) :
    a.request.handlerFor .alternate = if a.hasAlternate then some [.keep] else none := rfl

theorem hasAlternate_request (a : Application) : a.request.hasAlternate = a.hasAlternate := by
  show (a.request.handlerFor .alternate).isSome = _
  rw [handlerFor_alternate]
  cases a.hasAlternate <;> rfl

theorem handlerFor_cases (a : Application) (o : Outcome) :
    a.request.handlerFor o = some [.keep] ∨ a.request.handlerFor o = none := by
  cases o with
  | primary => exact Or.inl rfl
  | alternate => exact (ite_eq_or_eq _ _ _).imp (handlerFor_alternate a).trans (handlerFor_alternate a).trans
  | cancel => exact Or.inr rfl
  | dismissed => exact Or.inr rfl

/-- an outcome that a control stands for has a handler -/
theorem isSome_handlerFor (hoffers : o = .alternate → a.hasAlternate) (ho : ¬ (o = .cancel ∨ o = .dismissed)) :
    (a.request.handlerFor o).isSome := by
  cases o with
  | primary => rfl
  | alternate => rw [handlerFor_alternate, if_pos (hoffers rfl), Option.isSome_some]
  | cancel => exact absurd (Or.inl rfl) ho
  | dismissed => exact absurd (Or.inr rfl) ho

/-! ## Closing -/

/-- taking the dialog away -/
theorem safe_surfaceClose (again : Caller) (sc : Scene) (k : Nat) (st : Stage) :
    (callback 0 (.surfaceClose (.dialog k)) (surfaceClose again sc 0 (.dialog k)) st).Safe (Aside st) := by
  have hbody : (surfaceClose again sc 0 (.dialog k) (st.note (.began 0 (.surfaceClose (.dialog k))))).Safe (Aside st) :=
    .of_ok () ((aside_note rfl).trans (aside_closeDialog sc k))
  exact hbody.andThen fun _ _ h => .of_ok () (h.trans (aside_note rfl))

/-- a handler keeps the text it is given -/
theorem safe_handler (again : Caller) (sc : Scene) (text : String) (st : Stage) :
    (runHandler again sc 0 a.request (.handler o text) st).Safe fun st' =>
      Aside st st' ∧ ((a.request.handlerFor o).isSome → st'.kept = text) := by
  rcases handlerFor_cases a o with hkeep | hnone
  · have hrun : runHandler again sc 0 a.request (.handler o text) st =
        ⟨.ok (), { st.note (.began 0 (.handler o text)) with kept := text }.note (.ended 0 (.handler o text))⟩ := by
      simp only [runHandler, handlerScript, hkeep]
      rfl
    have hkept : Aside (st.note (.began 0 (.handler o text)))
        { st.note (.began 0 (.handler o text)) with kept := text } := ⟨rfl, rfl, rfl, fun _ => rfl, fun _ => id⟩
    rw [hrun]
    exact .of_ok () ⟨((aside_note rfl).trans hkept).trans (aside_note rfl), fun _ => rfl⟩
  · have hrun : runHandler again sc 0 a.request (.handler o text) st = ⟨.ok (), st⟩ := by
      simp only [runHandler, handlerScript, hnone]
    rw [hrun]
    exact .of_ok () ⟨.refl st, fun h => by simp [hnone] at h⟩

/-- the prompt is closed with this text, and `onClosed` is still to come -/
structure Closing (st : Stage) (o : Outcome) (text : String) : Prop extends Single st where
  phase : st.phase 0 = .closed o
  text : st.text 0 = text
  uncalled : st.history.countP (callsOnClosed 0) = 0

theorem Closing.aside {text : String} (h : Closing st₁ o text) (hs : Aside st₁ st₂) : Closing st₂ o text where
  toSingle := h.toSingle.aside hs
  phase := (hs.phase_eq 0).trans h.phase
  text := (hs.text_eq 0).trans h.text
  uncalled := hs.uncalled.trans h.uncalled

theorem OneShot.closing (h : OneShot a st) (hp : Pending st) (o : Outcome) :
    Closing (st.setPhase 0 (.closed o)) o (st.text 0) := by
  have hcontroller : (st.setPhase 0 (.closed o)).controller 0 = { st.controller 0 with phase := .closed o } := by
    show (st.update 0 ({ · with phase := .closed o })).controller 0 = _
    rw [controller_update, if_pos ⟨rfl, by rw [h.sole]; exact Nat.one_pos⟩]
  exact {
    sole := (List.length_modify _ _ _).trans h.sole
    driven := h.driven
    still := h.still
    phase := by rw [Stage.phase, hcontroller]
    text := by rw [Stage.text, hcontroller]; rfl
    uncalled := (List.countP_cons_of_neg (by simp [callsOnClosed])).trans hp.uncalled }

/-- the text of the result: the one that was kept, unless no handler was called -/
def answerOf (st : Stage) (o : Outcome) : String := if o = .cancel ∨ o = .dismissed then st.text 0 else st.kept

theorem finishWith_eq (sc : Scene) (hphase : st.phase 0 = .closed o) :
    finishWith sc ⟨0, ""⟩ st =
      { { st with kept := answerOf st o }.report sc 0 .info appLogger ("finished: " ++ o.name) with
        result := some (o, answerOf st o) } := by
  have houtcome : ((st.phase 0).outcome?).getD .dismissed = o := by
    rw [hphase]
    rfl
  unfold finishWith
  simp only [houtcome]
  rfl

/-- `onClosed` ends the application with the outcome and the text of the prompt -/
theorem Closing.finish {text : String} (h : Closing st o text) (again : Caller) (sc : Scene)
    (hoffers : o = .alternate → a.hasAlternate) (hanswer : answerOf st o = text) :
    (runHandler again sc 0 a.request .onClosed st).Safe (OneShot a) := by
  set began := st.note (.began 0 .onClosed)
  have hrun : runHandler again sc 0 a.request .onClosed st =
      ⟨.ok (), (finishWith sc ⟨0, ""⟩ began).note (.ended 0 .onClosed)⟩ := rfl
  have hcalled : began.history.countP (callsOnClosed 0) = 1 :=
    (List.countP_cons_of_pos (by simp [callsOnClosed])).trans (congrArg (· + 1) h.uncalled)
  have htold : Aside { began with kept := answerOf began o }
      ({ began with kept := answerOf began o }.report sc 0 .info appLogger ("finished: " ++ o.name)) :=
    aside_log sc _ _
  have htext : answerOf began o = text := hanswer
  rw [hrun, finishWith_eq sc (show began.phase 0 = .closed o from h.phase)]
  refine .of_ok () ⟨⟨?_, ?_, ?_⟩, Or.inr ⟨o, ?_, ?_, ?_, fun ho => hasAlternate_iff.1 (hoffers ho)⟩⟩
  · exact (congrArg List.length htold.controllers).trans h.sole
  · exact fun k i hk => h.driven k i ((htold.driver k).symm.trans hk)
  · exact fun k hin => h.still k (htold.unasked k hin)
  · exact (htold.phase_eq 0).trans h.phase
  · exact congrArg (fun t => some (o, t)) (htext.trans (((htold.text_eq 0).trans h.text).symm))
  · exact (List.countP_cons_of_neg (by simp [callsOnClosed])).trans (htold.uncalled.trans hcalled)

/-- **Closing the prompt answers**, whichever way it is closed that the application offers; later triggers do
nothing. -/
theorem OneShot.close (h : OneShot a st) (again : Caller) (hoffers : o = .alternate → a.hasAlternate) :
    (Prompt.close again (a.scene threshold) 0 o st).Safe (OneShot a) := by
  unfold Prompt.close
  rcases h.stands with hp | ⟨o', ho'⟩
  · rw [hp.phase]
    have hlogged : Aside (st.setPhase 0 (.closed o))
        ((st.setPhase 0 (.closed o)).debug (a.scene threshold) 0 "closed via %s" [o.name]) := aside_log _ _ _
    refine (safe_surfaceClose again _ 0 _).andThen fun _ st₂ h₂ => ?_
    refine (safe_handler (a := a) again _ (st.text 0) st₂).andThen fun _ st₃ ⟨h₃, hkept⟩ => ?_
    have hlast : Closing st₃ o (st.text 0) := (((h.closing hp o).aside hlogged).aside h₂).aside h₃
    refine (hlast.finish again _ hoffers ?_).andThen fun _ _ h => .of_ok true h
    unfold answerOf
    split_ifs with hunkept
    · exact hlast.text
    · exact hkept (isSome_handlerFor hoffers hunkept)
  · rw [ho'.phase]
    exact .of_ok false (h.aside (aside_log _ _ _))

theorem OneShot.trigger (h : OneShot a st) (hoffers : o = .alternate → a.hasAlternate) :
    (Screen.trigger (a.scene threshold) 0 o st).Safe (OneShot a) :=
  (h.close _ hoffers).andThen fun _ _ h => .of_ok () h

/-! ## Messages and inputs -/

theorem OneShot.pressControl (h : OneShot a st) (w : Widget) :
    (Screen.pressControl (a.scene threshold) 0 w st).Safe (OneShot a) := by
  cases w with
  | input => exact .of_ok () h
  | primary => exact h.trigger (by simp)
  | cancel => exact h.trigger (by simp)
  | alternate =>
    have halternate :
        (Prompt.alternate (Prompt.run (a.scene threshold)) (a.scene threshold) 0 st).Safe (OneShot a) := by
      unfold Prompt.alternate
      split_ifs with hhas
      · exact h.close _ fun _ => (hasAlternate_request a).symm.trans hhas
      · exact .of_ok false (h.aside (aside_log _ _ _))
    exact halternate.andThen fun _ _ h => .of_ok () h

theorem OneShot.unmountDialog (h : OneShot a st) {modal : Modal} (hm : st.host.modal? k = some modal) :
    (Screen.unmountDialog (a.scene threshold) k modal st).Safe (OneShot a) := by
  unfold Screen.unmountDialog
  dsimp only
  rw [h.controller_eq hm]
  split_ifs
  · exact (h.aside ((aside_detach k).trans (aside_log _ _ _))).trigger (by simp)
  · exact .of_ok () h

/-- no message breaks it once the dialog has appeared -/
theorem OneShot.handle (h : OneShot a st) {m : Message} (hmount : ∀ k, m ≠ .mount k) :
    (Screen.handle (a.scene threshold) m st).Safe (OneShot a) := by
  unfold Screen.handle
  cases m with
  | mount k => exact absurd rfl (hmount k)
  | changed k value =>
    dsimp only
    split
    · rename_i modal hm
      rw [h.controller_eq hm]
      exact .of_ok () (h.setText value)
    · exact .of_ok () h
  | submitted k value =>
    dsimp only
    split
    · rename_i modal hm
      rw [h.controller_eq hm]
      exact (h.setText value).trigger (by simp)
    · exact .of_ok () h
  | pressed k w =>
    dsimp only
    split
    · rename_i modal hm
      rw [h.controller_eq hm]
      split_ifs
      · exact (h.setText _).pressControl w
      · exact .of_ok () h
    · exact .of_ok () h
  | unmount k =>
    dsimp only
    split
    · rename_i modal hm
      exact h.unmountDialog hm
    · exact .of_ok () h

theorem OneShot.keyOn (h : OneShot a st) {m : Modal} (hm : st.host.modal? k = some m) (key : Key) :
    (Screen.keyOn (a.scene threshold) k m st key).Safe (OneShot a) := by
  cases key with
  | escape =>
    simp only [Screen.keyOn, h.controller_eq hm]
    split_ifs
    · exact h.trigger (by simp)
    · exact .of_ok () h
  | tab => exact .of_ok () (h.aside (aside_focusOn k _))
  | backTab => exact .of_ok () (h.aside (aside_focusOn k _))
  | enter =>
    simp only [Screen.keyOn]
    split_ifs
    · exact .of_ok () (h.aside (aside_post (by simp)))
    · exact .of_ok () (h.aside (aside_post (by simp)))
  | edit e =>
    simp only [Screen.keyOn]
    split_ifs
    · exact .of_ok () (h.aside (aside_changeField k m _))
    · exact .of_ok () h
  | quit => exact .of_ok () h
  | other => exact .of_ok () h

/-- is this a call from outside? -/
def isCall : Input → Bool
  | .call _ => true
  | _ => false

/-- no input breaks it, but for calls from outside -/
theorem OneShot.accept {i : Input} (hi : isCall i = false) (h : OneShot a st) :
    (Screen.accept (a.scene threshold) i st).Safe (OneShot a) := by
  unfold Screen.accept
  cases i with
  | call c => cases hi
  | key key =>
    have hpress : (press (a.scene threshold) key st).Safe (OneShot a) := by
      unfold press
      split
      · rename_i k m htop
        exact h.keyOn (mounted_of_topDialog? htop).2.1 key
      · exact .of_ok () h
    exact hpress.andThen fun _ _ h => .of_ok _ h
  | setField text =>
    dsimp only
    split
    · exact .of_ok _ (h.aside (aside_changeField _ _ _))
    · exact .of_ok _ h
  | button w =>
    dsimp only
    split
    · split_ifs
      · exact .of_ok _ (h.aside (aside_post (by simp)))
      · exact .of_ok _ h
    · exact .of_ok _ h
  | click w =>
    dsimp only
    split
    · split_ifs
      · exact .of_ok _ (h.aside ((aside_focusOn _ w).trans (aside_post (by simp))))
      · exact .of_ok _ h
    · exact .of_ok _ h
  | clickAside => exact .of_ok _ h
  | pop =>
    dsimp only
    split
    · exact .of_ok _ h
    · exact .of_ok _ (h.aside (aside_pop _))
  | quit => exact .of_ok _ h

/-- **Nothing that a user does breaks it.** -/
theorem upheld_oneShot (a : Application) (threshold : Nat) :
    Upheld (a.scene threshold) (fun i => isCall i = false) (OneShot a) where
  input _ _ hi h := h.accept hi
  round _ h := h.aside (aside_host _ (fun _ => rfl) fun _ hin => absurd hin List.not_mem_nil)
  message _ _ hmount h := h.handle hmount
  still k _ h := h.still k

/-! ## From start to end -/

/-- the prompt is shown as the first dialog, which is not on the stack yet -/
def shownFirst (a : Application) (threshold : Nat) : Stage :=
  let st := Stage.empty.create (a.scene threshold) a.question.title
  let modal : Modal := ⟨0, false, false, .ofText "" 0, .input⟩
  { st with host := Host.empty.prepare (.modal modal) }.setPhase 0 (.shown (.dialog 0))

theorem oneShot_shownFirst (a : Application) (threshold : Nat) : OneShot a (shownFirst a threshold) where
  sole := rfl
  driven k i hk := by
    cases k with
    | zero => exact (Option.some.inj hk).symm
    | succ k => cases hk
  still k := List.not_mem_nil
  stands := Or.inl ⟨rfl, rfl, rfl⟩

/-- the prompt comes up, and its dialog is to appear, which is all that waits -/
theorem presentAll_eq (a : Application) (threshold : Nat) :
    ∃ st, presentAll (a.scene threshold) [a.question.title] .empty = ⟨.ok (), st⟩ ∧ OneShot a (emptied st) ∧
      st.host = (shownFirst a threshold).host.push 0 := by
  set logged := (shownFirst a threshold).debug (a.scene threshold) 0 "shown" []
  set began := logged.note (.began 0 (.surfaceShow (.dialog 0)))
  have hlogged : Aside (shownFirst a threshold) logged := aside_log _ _ _
  have hhost : logged.host = (shownFirst a threshold).host := host_log _ _
  refine ⟨(began.push 0).note (.ended 0 (.surfaceShow (.dialog 0))), rfl, ?_, ?_⟩
  · have hnoted : Aside began (began.note (.pushed 0)) := aside_note rfl
    have hpushed : Aside (began.note (.pushed 0)) (emptied (began.push 0)) :=
      aside_host (emptied (began.push 0)).host (fun _ => rfl) fun _ hin => absurd hin List.not_mem_nil
    exact (oneShot_shownFirst a threshold).aside
      ((((hlogged.trans (aside_note rfl)).trans hnoted).trans hpushed).trans (aside_note rfl))
  · exact congrArg (fun host => Host.push host 0) hhost

/-- what is handled first is that the dialog is to appear -/
theorem settle_start (hhost : st.host = (shownFirst a threshold).host.push 0) :
    settle (a.scene threshold) st =
      (handle (a.scene threshold) (.mount 0) (emptied st)).andThen fun _ st => rounds (a.scene threshold) 2 st := by
  have hqueue : st.host.queue = [.mount 0] := by
    rw [hhost]
    rfl
  rw [settle, rounds, hqueue, Screen.handleAll]
  rcases hmount : handle (a.scene threshold) (.mount 0) (emptied st) with ⟨fault | _, after⟩
  · rw [show ({ st with host := { st.host with queue := [] } } : Stage) = emptied st from rfl, hmount]
    rfl
  · rw [show ({ st with host := { st.host with queue := [] } } : Stage) = emptied st from rfl, hmount]
    rfl

/-- what comes of that is up to the labels -/
theorem mounts_start (hhost : st.host = (shownFirst a threshold).host.push 0) :
    (∃ flaw, labels (a.scene threshold) a.request = .error flaw ∧
      handle (a.scene threshold) (.mount 0) (emptied st) = ⟨.error (.unshowable flaw.message), emptied st⟩) ∨
    ∃ l modal, labels (a.scene threshold) a.request = .ok l ∧ handle (a.scene threshold) (.mount 0) (emptied st) =
      ⟨.ok (), updateDialog (emptied st) 0 (appear (a.scene threshold) modal (emptied st))⟩ := by
  have hstack : (emptied st).host.stack = [0] := by
    show st.host.stack = _
    rw [hhost]
    rfl
  have hmodal : (emptied st).host.modal? 0 = some ⟨0, false, false, .ofText "" 0, .input⟩ := by
    show st.host.modal? 0 = _
    rw [hhost]
    rfl
  have hmounts := mounts_handle (a.scene threshold) 0 (emptied st)
  generalize handle (a.scene threshold) (.mount 0) (emptied st) = r at hmounts ⊢
  cases hmounts with
  | notice hplain => simp [hmodal] at hplain
  | late _ hoff => simp [hstack] at hoff
  | unshowable _ _ hflaw => exact Or.inl ⟨_, hflaw, rfl⟩
  | mounted _ _ hl => exact Or.inr ⟨_, _, hl, rfl⟩

/-- labels that cannot be shown end the application before anything else happens -/
theorem crash_of_unshowable {flaw : Markup.Flaw} (hl : labels (a.scene threshold) a.request = .error flaw)
    (gestures : List Gesture) :
    (playSession (a.scene threshold) [a.question.title] gestures).crash = some (.unshowable flaw.message) := by
  obtain ⟨st, hpresent, -, hhost⟩ := presentAll_eq a threshold
  rcases mounts_start hhost with ⟨flaw', hflaw, hmount⟩ | ⟨l, -, hok, -⟩
  · obtain rfl : flaw' = flaw := Except.error.inj (hflaw.symm.trans hl)
    rw [playSession, hpresent, Ran.andThen_ok, settle_start hhost, hmount]
    rfl
  · rw [hl] at hok
    cases hok

/-- labels that can be shown bring the prompt up -/
theorem safe_start {l : Labels} (hl : labels (a.scene threshold) a.request = .ok l) :
    ((presentAll (a.scene threshold) [a.question.title] .empty).andThen fun _ st =>
      settle (a.scene threshold) st).Safe (OneShot a) := by
  obtain ⟨st, hpresent, hone, hhost⟩ := presentAll_eq a threshold
  rcases mounts_start hhost with ⟨flaw, hflaw, -⟩ | ⟨_, modal, -, hmount⟩
  · rw [hl] at hflaw
    cases hflaw
  · rw [hpresent, Ran.andThen_ok, settle_start hhost, hmount, Ran.andThen_ok]
    exact (upheld_oneShot a threshold).rounds 2 (hone.aside (aside_updateDialog 0 fun _ => rfl))

/-- a prompt that is up when the session is shut down is closed by that -/
theorem closed_of_shown {sc : Scene} {can : Input → Prop} {last : Stage} {i : Nat} (hi : Idle sc can last)
    (hp : last.phase i = .shown (.dialog k)) : ((removeAll sc last.host.stack last).2.phase i).isClosed := by
  have hs := hi.reached.live.toSound
  have hrest := hs.rest i
  unfold AtRest at hrest
  rw [← hs.phase_eq, hp] at hrest
  obtain ⟨hdeeds, -⟩ := hrest
  have hb : .began i (.surfaceShow (.dialog k)) ∈ last.history :=
    (mem_deeds.1 (hdeeds ▸ List.mem_singleton_self _)).1
  by_cases hk : k ∈ last.host.stack
  · exact closed_removeAll hs (fun j hj => pushed_of_mem_stackAt (hs.stack ▸ hj)) k hk i (hs.driver i k hb)
  · have hclosed := hi.closed_of_off hb hk
    rw [hp] at hclosed
    cases hclosed

theorem aside_clear (st : Stage) : Aside st st.clear where
  controllers := rfl
  result := rfl
  uncalled := by
    have hleft : (st.host.stack.map (.left · .ended)).reverse.countP (callsOnClosed 0) = 0 :=
      List.countP_eq_zero.2 (by simp [callsOnClosed])
    rw [Stage.clear, List.countP_append, hleft, Nat.zero_add]
  driver _ := rfl
  unasked _ := id

/-- **The application answers once**, whatever the user does, and whether he closes the prompt, takes its dialog away or
leaves it to the end. -/
theorem answered_playSession {l : Labels} (hl : labels (a.scene threshold) a.request = .ok l) {gestures : List Gesture}
    (hcalls : ∀ g ∈ gestures, ∀ i ∈ g.inputs, isCall i = false) :
    (playSession (a.scene threshold) [a.question.title] gestures).crash = none ∧
      (playSession (a.scene threshold) [a.question.title] gestures).stage.controllers.length = 1 ∧
      ∃ o, Answered a (playSession (a.scene threshold) [a.question.title] gestures).stage o := by
  obtain ⟨hcrash, hidle, hlast, hremoved⟩ :=
    (upheld_oneShot a threshold).session (fun _ => rfl) hcalls (safe_start hl)
  set last := lastStage (a.scene threshold) [a.question.title] gestures
  set removed := (removeAll (a.scene threshold) last.host.stack last).2
  have hstage : (playSession (a.scene threshold) [a.question.title] gestures).stage = removed.clear :=
    stage_playSession _ _ _
  refine ⟨hcrash, ?_, ?_⟩
  · rw [hstage]
    exact hremoved.sole
  have hclosed : (removed.phase 0).isClosed := by
    rcases hlast.stands with hp | ⟨o, ho⟩
    · exact closed_of_shown hidle hp.phase
    · have hs := hidle.reached.live.toSound
      obtain ⟨hs', hsuffix⟩ :=
        sound_removeAll last.host.stack hs fun k hk => pushed_of_mem_stackAt (hs.stack ▸ hk)
      exact hs.toRecorded.closed_later hs'.toRecorded hsuffix (by rw [ho.phase]; rfl)
  rcases hremoved.stands with hp | ⟨o, ho⟩
  · rw [hp.phase] at hclosed
    cases hclosed
  · exact ⟨o, hstage ▸ ho.aside (aside_clear removed)⟩

end LinePrompt.CommandLine
