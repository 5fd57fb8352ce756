/-
Prompts end with their dialogs.

A dialog leaves the stack because its prompt is closed, because the host pops it, or at the end. In the last two cases
the prompt learns of it from a message, and is dismissed if it is still open by then (`dismissed_unmount`): no handler
is called, and `onClosed` once. Until then the message waits (`Reached.awaits`), and when the application is idle
nothing does; at the end the dialogs that are left are told from the top of the stack down. A prompt that something else
closed before keeps its outcome. All of it in `prompts_end_with_dialogs`, with no assumption on what scripts raise.

Only a dialog that is pushed and removed before it comes to appear is not told: it ends the application, and its prompt
can stay open for good (`prompt_outlives_dialog`).
-/
import LinePrompt.Proofs.Prompt.Lifecycle
import LinePrompt.Proofs.Screen.Failures
import LinePrompt.Proofs.Screen.Inputs

namespace LinePrompt.Screen

open LinePrompt.Log LinePrompt.Prompt

variable {sc : Scene} {can : Input → Prop} {st st' last : Stage} {ms rest : List Message} {m : Message} {i k : Nat}

/-! ## Dismissal -/

/-- does the mark say that the controller's `onClosed` is called? -/
def callsOnClosed (i : Nat) : Mark → Bool
  | .began j .onClosed => j == i
  | _ => false

/-- the prompt was dismissed: no handler has been called, and `onClosed` once if there is one -/
structure Dismissed (sc : Scene) (st : Stage) (i : Nat) : Prop where
  outcome : st.phase i = .closed .dismissed
  unhandled : ∀ o t, .began i (.handler o t) ∉ st.history
  onClosed : st.history.countP (callsOnClosed i) = if (st.request sc i).onClosed.isSome then 1 else 0

theorem isDeedOf_of_callsOnClosed {x : Mark} (hx : callsOnClosed i x) : x.isDeedOf i := by
  unfold callsOnClosed at hx
  split at hx
  · exact hx
  · cases hx

/-- calls of `onClosed` are counted among the controller's callbacks -/
theorem countP_callsOnClosed (h : List Mark) : h.countP (callsOnClosed i) = (deeds i h).countP (callsOnClosed i) := by
  rw [deeds, List.countP_reverse, List.countP_filter]
  refine List.countP_congr ?_
  intro x _
  simpa using isDeedOf_of_callsOnClosed

/-- a dismissed prompt has no handler to call -/
theorem unhandled_of_dismissed (hr : Recorded sc st) (hp : st.phase i = .closed .dismissed) (o : Outcome) (t : String) :
    .began i (.handler o t) ∉ st.history := by
  intro hb
  obtain ⟨h, hs⟩ := exists_moment hb
  obtain ⟨-, -, -, hclosed, ho⟩ := close_ended_before_handler hr.legal hs
  rw [hr.phase_eq, hr.legal.phaseAt_closed ((List.suffix_cons _ _).trans hs) hclosed] at hp
  exact ho (Phase.closed.inj hp)

theorem lifeline_dismissed (r : Request) (i : Nat) (s : Surface) (t : String) :
    lifeline r i s .dismissed t =
      [.began i (.surfaceShow s), .began i (.surfaceClose s), .ended i (.surfaceClose s)] ++
        if r.onClosed.isSome then [.began i .onClosed, .ended i .onClosed] else [] := by
  unfold lifeline scripted
  cases hc : r.onClosed.isSome <;> simp [handlerScript, hc]

theorem countP_lifeline (r : Request) (s : Surface) (t : String) :
    (lifeline r i s .dismissed t).countP (callsOnClosed i) = if r.onClosed.isSome then 1 else 0 := by
  rw [lifeline_dismissed]
  cases r.onClosed.isSome <;> simp [callsOnClosed]

/-- a dismissed prompt has at most one call of `onClosed` -/
theorem countP_le_of_dismissed (hr : Recorded sc st) (hp : st.phase i = .closed .dismissed) :
    st.history.countP (callsOnClosed i) ≤ if (st.request sc i).onClosed.isSome then 1 else 0 := by
  obtain ⟨s, o, t, hpre, ho⟩ := hr.legal.deeds_prefix i
  obtain ⟨rfl, -⟩ := ho .dismissed (by rw [← hr.phase_eq, hp])
  calc st.history.countP (callsOnClosed i)
    _ = (deeds i st.history).countP (callsOnClosed i) := countP_callsOnClosed _
    _ ≤ (lifeline (requestAt sc st.history i) i s .dismissed t).countP (callsOnClosed i) :=
      hpre.sublist.countP_le
    _ = if (st.request sc i).onClosed.isSome then 1 else 0 := by rw [countP_lifeline, hr.request_eq]

/-- a dismissed prompt at rest has had all of its callbacks, but perhaps the end of the last -/
theorem dismissed_of_atRest (hs : Sound sc st) (hb : .began i (.surfaceShow (.dialog k)) ∈ st.history)
    (hp : st.phase i = .closed .dismissed) : Dismissed sc st i := by
  refine ⟨hp, unhandled_of_dismissed hs.toRecorded hp, ?_⟩
  have hd : .began i (.surfaceShow (.dialog k)) ∈ deeds i st.history := mem_deeds_of_began hb
  have ha := hs.rest i
  unfold AtRest at ha
  rw [hs.phase_eq] at hp
  simp only [hp] at ha
  obtain ⟨s, todo, he, hrest⟩ := ha
  obtain rfl : .dialog k = s := surfaceShow_of_mem_lifeline (he ▸ List.mem_append_left _ hd)
  suffices htodo : todo.countP (callsOnClosed i) = 0 by
    rw [countP_callsOnClosed, hs.request_eq, ← countP_lifeline (i := i) _ (.dialog k) (textAt sc st.history i),
      ← he, List.countP_append, htodo, Nat.add_zero]
  rcases hrest with rfl | ⟨cb, rest, rfl, hcb⟩
  · rfl
  -- a dialog's closing is never under way, so it is `onClosed`, after which nothing comes
  rw [lifeline_dismissed] at he
  generalize deeds i st.history = had at he
  rcases had with _ | ⟨_, _ | ⟨_, _ | ⟨_, had⟩⟩⟩
  · simp at he
  · simp at he
  · obtain ⟨-, -, hended, -⟩ : _ ∧ _ ∧ cb = .surfaceClose (.dialog k) ∧ _ := by simpa using he
    exact absurd hended (hcb k)
  · have htail : had ++ .ended i cb :: rest =
        if (requestAt sc st.history i).onClosed.isSome then [.began i .onClosed, .ended i .onClosed] else [] := by
      simpa using (List.cons.inj (List.cons.inj (List.cons.inj he).2).2).2
    split_ifs at htail
    · rcases had with _ | ⟨_, _ | ⟨_, had⟩⟩
      · simp at htail
      · obtain ⟨-, -, rfl⟩ : _ ∧ _ ∧ rest = [] := by simpa using htail
        rfl
      · simp at htail
    · simp at htail

/-- a dismissed prompt stays so, and has no more callbacks -/
theorem Dismissed.later (hd : Dismissed sc st i) (hr : Recorded sc st) (hr' : Recorded sc st')
    (hs : st.history <:+ st'.history) : Dismissed sc st' i := by
  have hp : phaseAt sc st.history i = .closed .dismissed := by rw [← hr.phase_eq, hd.outcome]
  have hphase : st'.phase i = .closed .dismissed := by rw [hr'.phase_eq, hr'.legal.phaseAt_closed hs hp]
  have hrequest : st'.request sc i = st.request sc i := by
    rw [hr.request_eq, hr'.request_eq]
    exact requestAt_of_lt hs (lt_of_phaseAt_ne_created (by simp [hp]))
  refine ⟨hphase, unhandled_of_dismissed hr' hphase, Nat.le_antisymm (countP_le_of_dismissed hr' hphase) ?_⟩
  rw [hrequest, ← hd.onClosed]
  exact hs.sublist.countP_le

/-- **A prompt that is still open when it is told that its dialog has gone is dismissed.** -/
theorem dismissed_unmount (hs : Sound sc st) (hp : .pushed k ∈ st.history) (hd : st.host.driver? k = some i)
    (hopen : (st.phase i).isOpen) : Dismissed sc (handle sc (.unmount k) st).stage i := by
  have hafter : Sound sc (handle sc (.unmount k) st).stage :=
    (adds_handle (.unmount k) (by rintro j he; cases he; exact hp) hs).1
  refine dismissed_of_atRest hafter ((suffix_handle sc _ st).subset (hs.shown i k hd hp)) ?_
  obtain ⟨modal, hmodal, rfl⟩ := Option.map_eq_some_iff.1 hd
  obtain ⟨s, hshown⟩ := Phase.isOpen_iff.1 hopen
  set st₁ := (st.detach k).report sc modal.controller .debug dialogLogger "removed by host" with hst₁
  have hclose : (handle sc (.unmount k) st).stage = (close (run sc) sc modal.controller .dismissed st₁).stage := by
    unfold handle unmountDialog
    simp only [hmodal, hopen, if_true]
    exact stage_trigger _ _ _
  have hshown₁ : st₁.phase modal.controller = .shown s := by
    rcases log_eq (st.detach k) sc .debug _ with he | ⟨r, he⟩ <;>
      rw [hst₁, Stage.report, he] <;> exact hshown
  have hmoved := moved_close sc (sending_run sc) hshown₁ .dismissed
  rw [← hclose] at hmoved
  have hlt := (hafter.legal.may hmoved).1
  rw [hafter.phase_eq]
  exact hafter.legal.phaseAt_closed hmoved (by rw [phaseAt_moved, if_pos ⟨rfl, hlt⟩])

/-- a prompt is closed once it has been told that its dialog has gone -/
theorem closed_unmount (hs : Sound sc st) (hp : .pushed k ∈ st.history) (hd : st.host.driver? k = some i) :
    ((handle sc (.unmount k) st).stage.phase i).isClosed := by
  have hafter : Sound sc (handle sc (.unmount k) st).stage :=
    (adds_handle (.unmount k) (by rintro j he; cases he; exact hp) hs).1
  rcases open_or_closed hs hp hd with hopen | hclosed
  · rw [(dismissed_unmount hs hp hd hopen).outcome]
    rfl
  · exact hs.toRecorded.closed_later hafter.toRecorded (suffix_handle sc _ st) hclosed

/-- a closed prompt does nothing about it -/
theorem unmount_of_closed (hd : st.host.driver? k = some i) (hc : (st.phase i).isClosed) :
    (handle sc (.unmount k) st).stage = st := by
  obtain ⟨modal, hmodal, rfl⟩ := Option.map_eq_some_iff.1 hd
  obtain ⟨o, ho⟩ := Phase.isClosed_iff.1 hc
  simp [handle, hmodal, unmountDialog, ho, Phase.isOpen]

/-! ## Until the message is handled -/

/-- an open prompt whose dialog has left is still to be told -/
def Awaits (ms : List Message) (st : Stage) : Prop :=
  ∀ k why i, .left k why ∈ st.history → st.host.driver? k = some i → (st.phase i).isOpen →
    .unmount k ∈ ms ∨ .unmount k ∈ st.host.queue

theorem Awaits.tells (ha : Awaits ms st) (ht : Tells st st') (hs : Sound sc st) (hr : Recorded sc st') :
    Awaits ms st' := by
  intro k why i hleft hdriver hopen
  obtain ⟨new, hh, hmail⟩ := ht.marks
  rw [hh] at hleft
  rcases List.mem_append.1 hleft with hleft | hleft
  · exact Or.inr (hmail _ (unmount_mem_mail.2 ⟨why, hleft⟩))
  · have hp := (hs.legal.not_mem_stackAt hleft).1
    rw [ht.driver k (hs.pushed_lt k hp)] at hdriver
    have hbefore := open_before hs hr ⟨new, hh.symm⟩ hp hdriver hopen
    exact (ha k why i hleft hdriver hbefore).imp_right (ht.waits _)

theorem Reached.awaits (hr : Reached sc can ms st) : Awaits ms st := by
  induction hr with
  | start =>
    intro k why i hleft
    cases hleft
  | @input j st hr hj ih => exact ih.tells (tells_accept sc j st) hr.live.toSound (hr.input hj).live.toRecorded
  | round _ ih =>
    intro k why i hleft hdriver hopen
    exact Or.inl ((ih k why i hleft hdriver hopen).resolve_left List.not_mem_nil)
  | @handle m rest st hr hok ih =>
    have hlive := (hr.handle hok).live
    have htells := tells_handle sc m st
    intro k why i hleft hdriver hopen
    rcases ih.tells htells hr.live.toSound hlive.toRecorded k why i hleft hdriver hopen with hin | hin
    · rcases List.mem_cons.1 hin with rfl | hin
      -- the message is the one that has just been handled
      · obtain ⟨why, hwhy⟩ := hr.live.told k List.mem_cons_self
        have hp := (hr.live.legal.not_mem_stackAt hwhy).1
        rw [htells.driver k (hr.live.pushed_lt k hp)] at hdriver
        obtain ⟨o, ho⟩ := Phase.isClosed_iff.1 (closed_unmount hr.live.toSound hp hdriver)
        rw [ho] at hopen
        cases hopen
      · exact Or.inl hin
    · exact Or.inr hin

/-- when nothing waits, the prompts of dialogs that have left are closed -/
theorem Idle.closed_of_left {why : Departure} (hi : Idle sc can st) (hleft : .left k why ∈ st.history)
    (hd : st.host.driver? k = some i) : (st.phase i).isClosed := by
  have hs := hi.reached.live.toSound
  rcases open_or_closed hs (hs.legal.not_mem_stackAt hleft).1 hd with hopen | hclosed
  · rcases hi.reached.awaits k why i hleft hd hopen with hin | hin
    · cases hin
    · rw [hi.queue] at hin
      cases hin
  · exact hclosed

/-- when nothing waits, a prompt that has come up as a dialog which is off the stack is closed -/
theorem Idle.closed_of_off (hi : Idle sc can st) (hb : .began i (.surfaceShow (.dialog k)) ∈ st.history)
    (hk : k ∉ st.host.stack) : (st.phase i).isClosed := by
  have hs := hi.reached.live.toSound
  cases hphase : st.phase i with
  | closed o => rfl
  | created => exact absurd hphase (phase_ne_created hs hb)
  | shown s =>
    have hd : .began i (.surfaceShow (.dialog k)) ∈ deeds i st.history := mem_deeds_of_began hb
    have ha := hs.rest i
    unfold AtRest at ha
    rw [← hs.phase_eq, hphase] at ha
    obtain ⟨hone, hdialog⟩ := ha
    rw [hone] at hd
    cases List.mem_singleton.1 hd
    obtain ⟨why, hleft⟩ := left_of_pushed (hdialog k rfl).1 (hs.stack ▸ hk)
    rw [← hphase]
    exact hi.closed_of_left hleft (hs.driver i k hb)

/-! ## Shutdown -/

variable {ks above below : List Nat}

theorem removeAll_cons (k : Nat) (ks : List Nat) (st : Stage) :
    (removeAll sc (k :: ks) st).2 = (removeAll sc ks (handle sc (.unmount k) st).stage).2 := by
  simp only [removeAll]
  split <;> rfl

theorem removeAll_append (above below : List Nat) (st : Stage) :
    (removeAll sc (above ++ below) st).2 = (removeAll sc below (removeAll sc above st).2).2 := by
  induction above generalizing st with
  | nil => rfl
  | cons k above ih => rw [List.cons_append, removeAll_cons, removeAll_cons, ih]

/-- a dialog that was on the stack stays with its prompt -/
theorem driver_later (hr : Recorded sc st) (hr' : Recorded sc st') (hsuf : st.history <:+ st'.history)
    (hp : .pushed k ∈ st.history) (hd : st.host.driver? k = some i) : st'.host.driver? k = some i :=
  hr'.driver i k (hsuf.subset (hr.shown i k hd hp))

/-- the prompts of dialogs that are removed are closed -/
theorem closed_removeAll (hs : Sound sc st) (hp : ∀ k ∈ ks, .pushed k ∈ st.history) :
    ∀ k ∈ ks, ∀ i, st.host.driver? k = some i → ((removeAll sc ks st).2.phase i).isClosed := by
  intro k hk i hd
  obtain ⟨above, below, rfl⟩ := List.append_of_mem hk
  have habove : ∀ j ∈ above, .pushed j ∈ st.history := fun j hj => hp j (List.mem_append_left _ hj)
  obtain ⟨hs₁, hsuf₁⟩ := sound_removeAll above hs habove
  have hd₁ := driver_later hs.toRecorded hs₁.toRecorded hsuf₁ (hp k hk) hd
  have hclosed := closed_unmount hs₁ (hsuf₁.subset (hp k hk)) hd₁
  have hs₂ : Sound sc (handle sc (.unmount k) (removeAll sc above st).2).stage :=
    (adds_handle (.unmount k) (by rintro j he; cases he; exact hsuf₁.subset (hp k hk)) hs₁).1
  have hsuf₂ := hsuf₁.trans (suffix_handle sc (.unmount k) (removeAll sc above st).2)
  obtain ⟨hs₃, hsuf₃⟩ := sound_removeAll below hs₂ fun j hj =>
    hsuf₂.subset (hp j (List.mem_append_right _ (List.mem_cons_of_mem _ hj)))
  rw [removeAll_append, removeAll_cons]
  exact hs₂.toRecorded.closed_later hs₃.toRecorded hsuf₃ hclosed

/-- what becomes of one dialog of those on the stack when the shutdown begins: those above have been told, and it is its
turn -/
structure Turn (sc : Scene) (last : Stage) (above : List Nat) (k i : Nat) (final : Stage) : Prop where
  told : ∀ j ∈ above, ∀ i', last.host.driver? j = some i' → ((removeAll sc above last).2.phase i').isClosed
  dismissed : ((removeAll sc above last).2.phase i).isOpen →
    Dismissed sc (removeAll sc (above ++ [k]) last).2 i ∧ Dismissed sc final i
  spared : ((removeAll sc above last).2.phase i).isClosed →
    (removeAll sc (above ++ [k]) last).2 = (removeAll sc above last).2

/-- how prompts end over a session with these moments and these pauses that is shut down from its last stage -/
structure EndWithDialogs (sc : Scene) (xs : List Moment) (ps : List Pause) (last : Stage) (showing : Showing) :
    Prop where
  /-- what is seen is seen in a pause -/
  seen : ∀ shot ∈ showing.shots, ∃ p ∈ ps, p.stage = shot.stage
  /-- when the application is idle, a prompt that has come up as a dialog which is off the stack is closed -/
  idle : ∀ p ∈ ps, ∀ i k, .began i (.surfaceShow (.dialog k)) ∈ p.stage.history → k ∉ p.stage.host.stack →
    (p.stage.phase i).isClosed
  /-- a prompt that is open when its dialog's removal is handled is dismissed, then and for good -/
  removed : ∀ x ∈ xs, ∀ k i, x.message = .unmount k → x.stage.host.driver? k = some i → (x.stage.phase i).isOpen →
    Dismissed sc (x.after sc) i ∧ Dismissed sc showing.stage i
  /-- one that is closed is left alone -/
  spared : ∀ x ∈ xs, ∀ k i, x.message = .unmount k → x.stage.host.driver? k = some i → (x.stage.phase i).isClosed →
    x.after sc = x.stage
  shutdown : showing.stage = (shutDown sc last).2
  /-- after the shutdown the prompts of the dialogs that were on the stack are closed -/
  ended : ∀ k ∈ last.host.stack, ∀ i, last.host.driver? k = some i → (showing.stage.phase i).isClosed
  /-- they are told from the top of the stack down -/
  downward : ∀ above k below i, last.host.stack = above ++ k :: below → last.host.driver? k = some i →
    Turn sc last above k i showing.stage
  /-- whatever closes a prompt first closes it once and for all -/
  once : ∀ i o h, .moved i (.closed o) :: h <:+ showing.stage.history →
    showing.stage.phase i = .closed o ∧
      ∀ o' h', .moved i (.closed o') :: h' <:+ showing.stage.history → o' = o ∧ h' = h
  /-- without a fault every prompt that came up as a dialog before the shutdown is closed in the end -/
  lasting : showing.crash = none → ∀ i k, .began i (.surfaceShow (.dialog k)) ∈ last.history →
    (showing.stage.phase i).isClosed
  /-- the application ends for want of a field just if a dialog comes to appear that has left the stack -/
  late : showing.crash = some .noField ↔ ∃ x ∈ xs, x.Late
  /-- it is shut down then and there -/
  cut : ∀ x ∈ xs, x.Late → last = x.stage

theorem turn_shutDown (hr : Running sc last) (hstack : last.host.stack = above ++ k :: below)
    (hd : last.host.driver? k = some i) : Turn sc last above k i (shutDown sc last).2 := by
  have hpushed : ∀ j ∈ above ++ k :: below, .pushed j ∈ last.history := by
    intro j hj
    exact pushed_of_mem_stackAt (hr.stack ▸ hstack ▸ hj)
  have hk := hpushed k (by simp)
  have habove : ∀ j ∈ above, .pushed j ∈ last.history := fun j hj => hpushed j (List.mem_append_left _ hj)
  obtain ⟨hs₁, hsuf₁⟩ := sound_removeAll above hr.toSound habove
  have hd₁ := driver_later hr.toRecorded hs₁.toRecorded hsuf₁ hk hd
  have hturn : (removeAll sc (above ++ [k]) last).2 = (handle sc (.unmount k) (removeAll sc above last).2).stage := by
    rw [removeAll_append, removeAll_cons]
    rfl
  refine ⟨closed_removeAll hr.toSound habove, ?_, ?_⟩
  · intro hopen
    have hdismissed := dismissed_unmount hs₁ (hsuf₁.subset hk) hd₁ hopen
    rw [← hturn] at hdismissed
    refine ⟨hdismissed, ?_⟩
    have hsub : ∀ j ∈ above ++ [k], .pushed j ∈ last.history := by
      intro j hj
      rcases List.mem_append.1 hj with hj | hj
      · exact habove j hj
      · exact List.mem_singleton.1 hj ▸ hk
    obtain ⟨hs₂, hsuf₂⟩ := sound_removeAll (above ++ [k]) hr.toSound hsub
    obtain ⟨hs₃, hsuf₃⟩ := sound_removeAll below hs₂ fun j hj => hsuf₂.subset (hpushed j (by simp [hj]))
    have hall : (removeAll sc last.host.stack last).2 =
        (removeAll sc below (removeAll sc (above ++ [k]) last).2).2 := by
      rw [hstack, ← removeAll_append, List.append_assoc]
      rfl
    rw [← hall] at hs₃ hsuf₃
    exact hdismissed.later hs₂.toRecorded (recorded_clear hs₃.toRecorded) (hsuf₃.trans (List.suffix_append _ _))
  · intro hclosed
    rw [hturn]
    exact unmount_of_closed hd₁ hclosed

/-- **Prompts end with their dialogs**, unless a dialog comes to appear too late, which is the end of the application.
For every session, whatever comes up at the start, whatever inputs, pops and calls follow, whatever the prompts' scripts
do and raise. -/
theorem prompts_end_with_dialogs (sc : Scene) (names : List String) (gestures : List Gesture) :
    EndWithDialogs sc (moments sc names gestures) (pauses sc names gestures) (lastStage sc names gestures)
      (playSession sc names gestures) := by
  set last := lastStage sc names gestures
  have hcourse : Course sc (fun _ => True) (moments sc names gestures) (pauses sc names gestures) last :=
    course sc names ⟨fun _ => trivial, fun _ => trivial, fun _ _ _ _ => trivial⟩
  have hstage : (playSession sc names gestures).stage = (shutDown sc last).2 := stage_playSession sc names gestures
  have hfinal := (session_kept sc names gestures).final
  have hlast := hcourse.last
  have hpushed : ∀ k ∈ last.host.stack, .pushed k ∈ last.history :=
    fun k hk => pushed_of_mem_stackAt (hlast.stack ▸ hk)
  have hgrown : last.history <:+ (playSession sc names gestures).stage.history := suffix_playSession hlast
  exact {
    seen := fun shot hshot => pause_of_shot hshot
    idle := by
      intro p hp i k hb hk
      exact (hcourse.pauses p hp).idle.closed_of_off hb hk
    removed := by
      intro x hx k i hm hd hopen
      obtain ⟨⟨rest, hreached⟩, hafter⟩ := hcourse.moments x hx
      rw [hm] at hreached
      obtain ⟨why, hleft⟩ := hreached.live.told k List.mem_cons_self
      have hp := (hreached.live.legal.not_mem_stackAt hleft).1
      have hdismissed : Dismissed sc (x.after sc) i := by
        unfold Moment.after
        rw [hm]
        exact dismissed_unmount hreached.live.toSound hp hd hopen
      have hsound : Recorded sc (x.after sc) := by
        unfold Moment.after
        rw [hm]
        exact hreached.live.after_handle.toRecorded
      exact ⟨hdismissed, hdismissed.later hsound hfinal (hafter.trans hgrown)⟩
    spared := by
      intro x _ k i hm hd hclosed
      unfold Moment.after
      rw [hm]
      exact unmount_of_closed hd hclosed
    shutdown := hstage
    ended := by
      intro k hk i hd
      rw [hstage]
      exact closed_removeAll hlast.toSound hpushed k hk i hd
    downward := by
      intro above k below i hstack hd
      rw [hstage]
      exact turn_shutDown hlast hstack hd
    once := by
      intro i o h hm
      have hlt := (hfinal.legal.may hm).1
      refine ⟨?_, fun o' h' hm' => ?_⟩
      · rw [hfinal.phase_eq]
        exact hfinal.legal.phaseAt_closed hm (by rw [phaseAt_moved, if_pos ⟨rfl, hlt⟩])
      · obtain ⟨ho, hh⟩ := hfinal.legal.closed_once hm' hm
        exact ⟨ho, hh⟩
    lasting := by
      intro hcrash i k hb
      by_cases hk : k ∈ last.host.stack
      · rw [hstage]
        exact closed_removeAll hlast.toSound hpushed k hk i (hlast.driver i k hb)
      · obtain ⟨p, hp, hpause⟩ := pause_of_uncrashed hcrash
        have hidle : Idle sc (fun _ => True) p.stage := (hcourse.pauses p hp).idle
        rw [hpause] at hidle
        exact hlast.toRecorded.closed_later hfinal hgrown (hidle.closed_of_off hb hk)
    late := crash_noField_iff
    cut := fun x hx hlate => last_of_late hx hlate }

/-- a prompt comes up, and the host pops its dialog before that has appeared -/
def popUnseen : List Gesture := [.one (.call (.prompt "a" .primary)), .frame [.call (.present "b"), .pop]]

theorem popUnseen_ending :
    ((playSession plainScene ["a"] popUnseen).crash, (playSession plainScene ["a"] popUnseen).stage.phase 1,
      (playSession plainScene ["a"] popUnseen).stage.history.take 4) =
      (some .noField, .shown (.dialog 1), [.left 1 .popped, .ended 1 (.surfaceShow (.dialog 1)), .pushed 1,
        .began 1 (.surfaceShow (.dialog 1))]) := by
  cbv

/-- A prompt can outlive its dialog: if the host pops the dialog before it has appeared, the application ends when it
comes to that, and the prompt is never told. -/
theorem prompt_outlives_dialog :
    ¬ ∀ i k, .began i (.surfaceShow (.dialog k)) ∈ (playSession plainScene ["a"] popUnseen).stage.history →
      .left k .popped ∈ (playSession plainScene ["a"] popUnseen).stage.history →
      ((playSession plainScene ["a"] popUnseen).stage.phase i).isClosed := by
  intro hall
  obtain ⟨-, hphase, hhistory⟩ : _ ∧ _ ∧ _ := by simpa only [Prod.mk.injEq] using popUnseen_ending
  have hmarks := List.take_subset 4 (playSession plainScene ["a"] popUnseen).stage.history
  rw [hhistory] at hmarks
  have hclosed := hall 1 1 (hmarks (by simp)) (hmarks (by simp))
  rw [hphase] at hclosed
  cases hclosed

end LinePrompt.Screen
