/-
What a user can do to an application whose dialogs the escape key does not dismiss.

Everything that a user does goes to the dialog on top. It may move the focus and change the field, and post messages of
this dialog: a changed text, a submitted one, a pressed control (`Input.Reply`). It closes nothing, and takes no screen
away (`heeds_accept`). So the inputs of a burst all go to one dialog, and every message that waits after them is the
reply to one of them (`heard_burst`).
-/
import LinePrompt.Proofs.Screen.Frames

namespace LinePrompt.Screen

open LinePrompt.Prompt

variable {sc : Scene} {st st' st₁ : Stage} {m : Modal} {k : Nat} {i : Input} {inputs : List Input} {x : Message}
  {w : Widget} {f : Modal → Modal}

/-! ## One input -/

/-- Is this something that a user does? The rest is done by the program around the application. -/
def Input.byUser : Input → Bool
  | .pop | .call _ | .quit => false
  | _ => true

/-- what a dialog posts when it gets an input -/
inductive Input.Reply (k : Nat) (m : Modal) (i : Input) : Message → Prop where
  | changed (value : String) : Reply k m i (.changed k value)
  | submitted (enter : i = .key .enter) (focus : m.focus = .input) : Reply k m i (.submitted k m.field.text)
  | pressed (w : Widget) (presses : i.pressed? m = some w) : Reply k m i (.pressed k w)

/-- the dialog on top has got the input, and that is all -/
structure Heeds (i : Input) (st st' : Stage) : Prop where
  history : st'.history = st.history
  stack : st'.host.stack = st.host.stack
  driver : ∀ j, st'.host.driver? j = st.host.driver? j
  posts : ∃ xs, st'.host.queue = st.host.queue ++ xs ∧
    ∀ x ∈ xs, ∃ k m, topDialog? st = some (k, m) ∧ i.Reply k m x

theorem top?_of_topDialog? (htop : topDialog? st = some (k, m)) : st.host.top? = some k := by
  unfold topDialog? at htop
  split at htop
  · cases htop
  · rename_i j hj
    split at htop
    · split_ifs at htop
      cases htop
      exact hj
    · cases htop

theorem Heeds.refl (i : Input) (st : Stage) : Heeds i st st :=
  ⟨rfl, rfl, fun _ => rfl, [], (List.append_nil _).symm, fun _ h => absurd h List.not_mem_nil⟩

theorem heeds_updateDialog (i : Input) (hf : ∀ m, (f m).controller = m.controller) :
    Heeds i st (updateDialog st k f) where
  history := rfl
  stack := Host.stack_updateModal _ _ _
  driver j := Host.driver?_updateModal k j hf
  posts := ⟨[], by rw [List.append_nil]; exact Host.queue_updateModal _ _ _, fun _ h => absurd h List.not_mem_nil⟩

/-- the dialog changes, and replies -/
theorem heeds_postMessage (htop : topDialog? st = some (k, m)) (hx : i.Reply k m x)
    (hq : st₁.host.queue = st.host.queue) (h : Heeds i st st₁) : Heeds i st (postMessage st₁ x) where
  history := h.history
  stack := h.stack
  driver := h.driver
  posts := by
    refine ⟨[x], congrArg (· ++ [x]) hq, fun y hy => ⟨k, m, htop, ?_⟩⟩
    rw [List.mem_singleton.1 hy]
    exact hx

theorem heeds_changeField (i : Input) (htop : topDialog? st = some (k, m)) (field : Field) :
    Heeds i st (changeField st k m field) := by
  have hupdated : Heeds i st (updateDialog st k ({ · with field })) := heeds_updateDialog i fun _ => rfl
  unfold changeField
  dsimp only
  split_ifs
  · exact hupdated
  · exact heeds_postMessage htop (.changed field.text) (Host.queue_updateModal _ _ _) hupdated

theorem controller_focusOn (w : Widget) (m : Modal) : (focusOn w m).controller = m.controller := by
  unfold focusOn
  split_ifs <;> rfl

/-- a key closes nothing as long as the escape key does not -/
theorem heeds_press (hescape : sc.escapeDismisses = false) (key : Key) (st : Stage) :
    Heeds (.key key) st (press sc key st).stage ∧ (press sc key st).answer = .ok () := by
  unfold press
  split
  swap
  · exact ⟨.refl _ st, rfl⟩
  rename_i k m htop
  cases key with
  | escape =>
    simp only [keyOn, hescape]
    exact ⟨.refl _ st, rfl⟩
  | tab => exact ⟨heeds_updateDialog _ (controller_focusOn _), rfl⟩
  | backTab => exact ⟨heeds_updateDialog _ (controller_focusOn _), rfl⟩
  | enter =>
    simp only [keyOn]
    split_ifs with hfocus
    · exact ⟨heeds_postMessage htop (.submitted rfl hfocus) rfl (.refl _ st), rfl⟩
    · exact ⟨heeds_postMessage htop (.pressed _ (if_neg hfocus)) rfl (.refl _ st), rfl⟩
  | edit e =>
    simp only [keyOn]
    split_ifs
    · exact ⟨heeds_changeField _ htop _, rfl⟩
    · exact ⟨.refl _ st, rfl⟩
  | quit => exact ⟨.refl _ st, rfl⟩
  | other => exact ⟨.refl _ st, rfl⟩

/-- **What a user does goes to the dialog on top**, and closes nothing by itself. -/
theorem heeds_accept (hescape : sc.escapeDismisses = false) (hi : i.byUser) (st : Stage) :
    Heeds i st (accept sc i st).stage ∧ ∃ answer, (accept sc i st).answer = .ok answer := by
  cases i with
  | key key =>
    obtain ⟨hheeds, hok⟩ := heeds_press hescape key st
    have hstage : (accept sc (.key key) st).stage = (press sc key st).stage := stage_accept_key key st
    refine ⟨hstage ▸ hheeds, .ok .nothing, ?_⟩
    unfold accept
    exact congrArg Ran.answer (Ran.andThen_of_ok hok)
  | setField text =>
    unfold accept
    dsimp only
    split
    · rename_i k m htop
      exact ⟨heeds_changeField _ htop _, _, rfl⟩
    · exact ⟨.refl _ st, _, rfl⟩
  | button w =>
    unfold accept
    dsimp only
    split
    · rename_i k m htop
      split_ifs
      · exact ⟨heeds_postMessage htop (.pressed w rfl) rfl (.refl _ st), _, rfl⟩
      · exact ⟨.refl _ st, _, rfl⟩
    · exact ⟨.refl _ st, _, rfl⟩
  | click w =>
    unfold accept
    dsimp only
    split
    · rename_i k m htop
      split_ifs
      · refine ⟨heeds_postMessage htop (.pressed w rfl) (Host.queue_updateModal _ _ _) ?_, _, rfl⟩
        exact heeds_updateDialog _ (controller_focusOn w)
      · exact ⟨.refl _ st, _, rfl⟩
    · exact ⟨.refl _ st, _, rfl⟩
  | clickAside => exact ⟨.refl _ st, _, rfl⟩
  | pop => cases hi
  | call c => cases hi
  | quit => cases hi

/-! ## Bursts -/

/-- inputs that are taken one after another, from this stage on, before anything that they cause is handled -/
structure Burst where
  stage : Stage
  inputs : List Input

namespace Burst

/-- in this burst the input is taken on this stage -/
def Takes (sc : Scene) (t : Burst) (i : Input) (st : Stage) : Prop :=
  ∃ before after, t.inputs = before ++ i :: after ∧ acceptAll sc before t.stage = ⟨.ok (.ok .nothing), st⟩

/-- the stage on which the inputs have been taken -/
def accepted (sc : Scene) (t : Burst) : Stage := (acceptAll sc t.inputs t.stage).stage

/-- what is handled in this burst -/
def moments (sc : Scene) (t : Burst) : List Moment := settleMoments sc (t.accepted sc)

theorem takes_head (sc : Scene) (i : Input) (rest : List Input) (st : Stage) :
    (⟨st, i :: rest⟩ : Burst).Takes sc i st := ⟨[], rest, rfl, rfl⟩

/-- an input of the rest of a burst is one of the burst -/
theorem takes_tail {rest : List Input} {j : Input} {a : Answer} (hok : (accept sc i st).answer = .ok (.ok a))
    (h : (⟨(accept sc i st).stage, rest⟩ : Burst).Takes sc j st') : (⟨st, i :: rest⟩ : Burst).Takes sc j st' := by
  obtain ⟨before, after, hsplit, hbefore⟩ := h
  refine ⟨i :: before, after, congrArg (i :: ·) hsplit, ?_⟩
  rw [acceptAll, Ran.andThen_of_ok hok]
  exact hbefore

end Burst

theorem acceptAll_refused {rest : List Input} {refusal : Refusal} (h : (accept sc i st).answer = .ok (.error refusal)) :
    acceptAll sc (i :: rest) st = ⟨.ok (.error refusal), (accept sc i st).stage⟩ := by
  rw [acceptAll, Ran.andThen_of_ok h]

theorem acceptAll_accepted {rest : List Input} {a : Answer} (h : (accept sc i st).answer = .ok (.ok a)) :
    acceptAll sc (i :: rest) st = acceptAll sc rest (accept sc i st).stage := by
  rw [acceptAll, Ran.andThen_of_ok h]

/-- a burst moves no screen, and what it posts are replies -/
structure Heard (sc : Scene) (t : Burst) : Prop where
  history : (t.accepted sc).history = t.stage.history
  stack : (t.accepted sc).host.stack = t.stage.host.stack
  driver : ∀ j, (t.accepted sc).host.driver? j = t.stage.host.driver? j
  answer : ∃ answer, (acceptAll sc t.inputs t.stage).answer = .ok answer
  /-- a message that waits did so before, or is the reply of the dialog that is still on top -/
  queue : ∀ x ∈ (t.accepted sc).host.queue, x ∈ t.stage.host.queue ∨
    ∃ i st k m, t.Takes sc i st ∧ topDialog? st = some (k, m) ∧ i.Reply k m x ∧
      t.stage.host.top? = some k ∧ t.stage.host.driver? k = some m.controller

theorem heard_burst (hescape : sc.escapeDismisses = false) (hinputs : ∀ i ∈ inputs, i.byUser) (st : Stage) :
    Heard sc ⟨st, inputs⟩ := by
  induction inputs generalizing st with
  | nil => exact ⟨rfl, rfl, fun _ => rfl, ⟨_, rfl⟩, fun x hx => Or.inl hx⟩
  | cons i rest ih =>
    obtain ⟨hheeds, answer, hok⟩ := heeds_accept hescape (hinputs i List.mem_cons_self) st
    obtain ⟨xs, hqueue, hxs⟩ := hheeds.posts
    -- a reply comes from the dialog that is on top now
    have hreply : ∀ x ∈ (accept sc i st).stage.host.queue, x ∈ st.host.queue ∨
        ∃ j st' k m, (⟨st, i :: rest⟩ : Burst).Takes sc j st' ∧ topDialog? st' = some (k, m) ∧ j.Reply k m x ∧
          st.host.top? = some k ∧ st.host.driver? k = some m.controller := by
      intro x hx
      rw [hqueue] at hx
      refine (List.mem_append.1 hx).imp_right fun hx => ?_
      obtain ⟨k, m, htop, hx⟩ := hxs x hx
      obtain ⟨-, hm, -⟩ := mounted_of_topDialog? htop
      exact ⟨i, st, k, m, Burst.takes_head sc i rest st, htop, hx, top?_of_topDialog? htop, Host.driver?_of_modal? hm⟩
    rcases answer with refusal | a
    · have hrefused : (⟨st, i :: rest⟩ : Burst).accepted sc = (accept sc i st).stage := by
        rw [Burst.accepted, acceptAll_refused hok]
      refine ⟨?_, ?_, ?_, ⟨_, congrArg Ran.answer (acceptAll_refused hok)⟩, ?_⟩
      · rw [hrefused, hheeds.history]
      · rw [hrefused, hheeds.stack]
      · intro j
        rw [hrefused, hheeds.driver]
      · rw [hrefused]
        exact hreply
    · have hrest := ih (fun j hj => hinputs j (List.mem_cons_of_mem _ hj)) (accept sc i st).stage
      have haccepted : (⟨st, i :: rest⟩ : Burst).accepted sc =
          (⟨(accept sc i st).stage, rest⟩ : Burst).accepted sc := by
        rw [Burst.accepted, acceptAll_accepted hok]
        rfl
      refine ⟨?_, ?_, ?_, ?_, ?_⟩
      · rw [haccepted, hrest.history, hheeds.history]
      · rw [haccepted, hrest.stack, hheeds.stack]
      · intro j
        rw [haccepted, hrest.driver, hheeds.driver]
      · obtain ⟨answer, hanswer⟩ := hrest.answer
        exact ⟨answer, (congrArg Ran.answer (acceptAll_accepted hok)).trans hanswer⟩
      · intro x hx
        rw [haccepted] at hx
        rcases hrest.queue x hx with hx | ⟨j, st', k, m, htakes, htop, hreplies, hon, hdriver⟩
        · exact hreply x hx
        · refine Or.inr ⟨j, st', k, m, Burst.takes_tail hok htakes, htop, hreplies, ?_, ?_⟩
          · exact (congrArg List.head? hheeds.stack).symm.trans hon
          · exact (hheeds.driver k).symm.trans hdriver

end LinePrompt.Screen
