/-
The invariant of a live application.

A dialog that was detached has left the stack, and no screen has left because of the end: `Running`. Every step keeps to
that, and pops no more screens for the host than it asks for (`passes_step`).
-/
import LinePrompt.Proofs.Screen.Messages

namespace LinePrompt.Screen

open LinePrompt.Log LinePrompt.Prompt

variable {sc : Scene} {st st' st₁ st₂ st₃ : Stage} {id : Nat} {ok : Mark → Prop}

/-! ## A running application -/

/-- the application is live: a dialog that was detached has left, and nothing has left because of the end -/
structure Running (sc : Scene) (st : Stage) : Prop extends Sound sc st where
  gone : ∀ k, .detached k ∈ st.history → ∃ why, .left k why ∈ st.history
  alive : ∀ k, .left k .ended ∉ st.history

/-- did the host pop a screen? -/
def isPop : Mark → Bool
  | .left _ .popped => true
  | _ => false

/-- how often the host popped a screen -/
def popCount (h : List Mark) : Nat := h.countP isPop

theorem popCount_append (ms h : List Mark) : popCount (ms ++ h) = popCount ms + popCount h := List.countP_append

theorem popCount_eq_zero {ms : List Mark} (hm : ∀ k, .left k .popped ∉ ms) : popCount ms = 0 := by
  refine List.countP_eq_zero.2 ?_
  intro m hin
  cases m with
  | left k why =>
    cases why with
    | popped => exact absurd hin (hm k)
    | _ => simp [isPop]
  | _ => simp [isPop]

/-- the later stage is one of a running application if the earlier one is, and the host popped at most `n` screens -/
def Passes (sc : Scene) (n : Nat) (st st' : Stage) : Prop :=
  Running sc st → Running sc st' ∧ st.history <:+ st'.history ∧ popCount st'.history ≤ popCount st.history + n

theorem Passes.refl (sc : Scene) (n : Nat) (st : Stage) : Passes sc n st st := fun hr =>
  ⟨hr, List.suffix_refl _, Nat.le_add_right _ _⟩

theorem Passes.trans {n m : Nat} (h12 : Passes sc n st₁ st₂) (h23 : Passes sc m st₂ st₃) :
    Passes sc (n + m) st₁ st₃ := by
  intro hr
  obtain ⟨hr₂, hs₂, hn₂⟩ := h12 hr
  obtain ⟨hr₃, hs₃, hn₃⟩ := h23 hr₂
  exact ⟨hr₃, hs₂.trans hs₃, by omega⟩

theorem Passes.andThen_add {α β : Type} {n m : Nat} {r : Ran α} {next : α → Stage → Ran β}
    (hr : Passes sc n st r.stage) (hn : ∀ a st, Passes sc m st (next a st).stage) :
    Passes sc (n + m) st (r.andThen next).stage := by
  unfold Ran.andThen
  split
  · exact hr.trans (hn _ _)
  · exact hr.trans (.refl sc m _)

theorem Passes.andThen {α β : Type} {n : Nat} {r : Ran α} {next : α → Stage → Ran β} (hr : Passes sc n st r.stage)
    (hn : ∀ a st, Passes sc 0 st (next a st).stage) : Passes sc n st (r.andThen next).stage :=
  hr.andThen_add hn

theorem running_empty : Running sc .empty where
  toSound := sound_empty
  gone := by simp [Stage.empty]
  alive := by simp [Stage.empty]

/-- marks that detach nothing but what has left, and take no screen away for the host or the end -/
theorem Running.adds (hr : Running sc st) (ha : Adds sc ok st st')
    (hd : ∀ k, ok (.detached k) → ∃ why, .left k why ∈ st.history) (he : ∀ k, ¬ ok (.left k .ended))
    (hp : ∀ k, ¬ ok (.left k .popped)) :
    Running sc st' ∧ st.history <:+ st'.history ∧ popCount st'.history ≤ popCount st.history + 0 := by
  obtain ⟨hs, ms, hh, hm⟩ := ha hr.toSound
  refine ⟨⟨hs, ?_, ?_⟩, ⟨ms, hh.symm⟩, ?_⟩
  · intro k hk
    rw [hh] at hk ⊢
    have hleft : ∃ why, .left k why ∈ st.history := by
      rcases List.mem_append.1 hk with hk | hk
      · exact hd k (hm _ hk)
      · exact hr.gone k hk
    exact hleft.imp fun _ hw => List.mem_append_right _ hw
  · intro k hk
    rw [hh] at hk
    rcases List.mem_append.1 hk with hk | hk
    · exact he k (hm _ hk)
    · exact hr.alive k hk
  · have hz : popCount ms = 0 := popCount_eq_zero fun k hin => hp k (hm _ hin)
    rw [hh, popCount_append]
    omega

theorem passes_of_follows (hf : Follows sc st st') : Passes sc 0 st st' := fun hr =>
  hr.adds (adds_of_follows hf fun _ hm => hm) (fun k hk => by simp [Mark.byCall] at hk)
    (fun k hk => by simp [Mark.byCall] at hk) fun k hk => by simp [Mark.byCall] at hk

theorem passes_of_adds_nothing (ha : Adds sc (fun _ => False) st st') : Passes sc 0 st st' := fun hr =>
  hr.adds ha (fun _ hk => hk.elim) (fun _ hk => hk) fun _ hk => hk

/-- the messages that wait take away only dialogs that have left -/
theorem passes_rounds (n : Nat) (st : Stage) : Passes sc 0 st (rounds sc n st).stage := by
  induction n generalizing st with
  | zero => exact .refl sc 0 st
  | succ n ih =>
    refine Passes.andThen ?_ fun _ st => ih st
    intro hr
    have hgone : ∀ k, .unmount k ∈ st.host.queue → ∃ why, .left k why ∈ st.history := hr.removed
    have hemptied : Passes sc 0 st { st with host := { st.host with queue := [] } } :=
      passes_of_adds_nothing (adds_host _ rfl rfl (fun _ => rfl) (fun _ => rfl) (by simp))
    obtain ⟨hr₁, -⟩ := hemptied hr
    refine hr₁.adds (adds_handleAll st.host.queue ?_) ?_
      (fun k => not_byRemoval_left rfl) fun k => not_byRemoval_left rfl
    · intro k hk
      obtain ⟨why, hw⟩ := hgone k hk
      exact (hr.legal.not_mem_stackAt hw).1
    · intro k hk
      rcases hk with hk | ⟨j, hj, he⟩
      · simp [Mark.byCall] at hk
      · cases he
        exact hgone k hj

theorem passes_settle (st : Stage) : Passes sc 0 st (settle sc st).stage := passes_rounds 3 st

/-! ## Input -/

theorem passes_updateDialog {screen : Nat} {f : Modal → Modal} (hc : ∀ m, (f m).controller = m.controller)
    (hd : ∀ m, (f m).detached = m.detached) : Passes sc 0 st (updateDialog st screen f) :=
  passes_of_adds_nothing (adds_updateDialog hc hd)

theorem passes_postMessage {m : Message} (hm : ∀ k, m ≠ .unmount k) : Passes sc 0 st (postMessage st m) :=
  passes_of_adds_nothing (adds_postMessage hm)

theorem passes_changeField (screen : Nat) (modal : Modal) (field : Field) :
    Passes sc 0 st (changeField st screen modal field) := by
  have h1 : Passes sc 0 st (updateDialog st screen ({ · with field })) :=
    passes_updateDialog (fun _ => rfl) fun _ => rfl
  unfold changeField
  dsimp only
  split_ifs
  · exact h1
  · exact h1.trans (passes_postMessage (by simp))

theorem passes_focusOn (screen : Nat) (w : Widget) : Passes sc 0 st (updateDialog st screen (focusOn w)) :=
  passes_updateDialog (fun m => by unfold focusOn; split_ifs <;> rfl) fun m => by unfold focusOn; split_ifs <;> rfl

theorem passes_press (key : Key) (st : Stage) : Passes sc 0 st (press sc key st).stage := by
  unfold press
  split
  swap
  · exact .refl sc 0 st
  rename_i screen modal _
  cases key with
  | escape =>
    simp only [keyOn]
    split_ifs
    · exact passes_of_follows (follows_trigger _ .dismissed)
    · exact .refl sc 0 st
  | tab => exact passes_focusOn screen _
  | backTab => exact passes_focusOn screen _
  | enter =>
    simp only [keyOn]
    split_ifs
    · exact passes_postMessage (by simp)
    · exact passes_postMessage (by simp)
  | edit e =>
    simp only [keyOn]
    split_ifs
    · exact passes_changeField screen modal _
    · exact .refl sc 0 st
  | quit => exact .refl sc 0 st
  | other => exact .refl sc 0 st

/-- the host pops the top screen -/
theorem passes_pop (st : Stage) : Passes sc 1 st (st.pop .popped) := by
  intro hr
  cases htop : st.host.top? with
  | none =>
    unfold Stage.pop
    rw [htop]
    exact Passes.refl sc 1 st hr
  | some k =>
    have hp : Recorded sc (st.pop .popped) := hr.toRecorded.pop .popped htop fun i hi => by cases hi
    rw [pop_eq htop] at hp ⊢
    refine ⟨⟨⟨hp, ?_⟩, ?_, ?_⟩, List.suffix_cons _ _, ?_⟩
    · intro i
      exact (hr.rest i).untouched (hp.legal.untouched rfl) fun _ _ => by simp
    · intro j hj
      have hold : .detached j ∈ st.history := by simpa [Stage.note] using hj
      exact (hr.gone j hold).imp fun _ hw => List.mem_cons_of_mem _ hw
    · intro j hj
      exact hr.alive j (by simpa [Stage.note] using hj)
    · exact Nat.le_of_eq (List.countP_cons_of_pos rfl)

/-- does an input have the host pop a screen? -/
def asksPop : Input → Bool
  | .pop => true
  | _ => false

/-- the inputs of a step that can be something else than a key -/
def Gesture.inputs : Gesture → List Input
  | .one input => [input]
  | .keys _ => []
  | .frame inputs => inputs

/-- how often inputs have the host pop a screen -/
def popsAsked (inputs : List Input) : Nat := inputs.countP asksPop

theorem popsAsked_cons (i : Input) (rest : List Input) : popsAsked (i :: rest) = popsAsked [i] + popsAsked rest := by
  show List.countP asksPop ([i] ++ rest) = _
  exact List.countP_append

theorem passes_accept (input : Input) (st : Stage) : Passes sc (popsAsked [input]) st (accept sc input st).stage := by
  cases input with
  | key key => exact (passes_press key st).andThen fun _ st => .refl sc 0 st
  | setField text =>
    unfold accept
    dsimp only
    split
    · exact passes_changeField _ _ _
    · exact .refl sc 0 st
  | button w =>
    unfold accept
    dsimp only
    split
    · split_ifs
      · exact passes_postMessage (by simp)
      · exact .refl sc 0 st
    · exact .refl sc 0 st
  | click w =>
    unfold accept
    dsimp only
    split
    · split_ifs
      · exact (passes_focusOn _ w).trans (passes_postMessage (by simp))
      · exact .refl sc 0 st
    · exact .refl sc 0 st
  | clickAside => exact .refl sc 0 st
  | pop =>
    unfold accept
    dsimp only
    split
    · exact .refl sc 1 st
    · exact passes_pop st
  | call c =>
    have hf : Passes sc 0 st (run sc c st).stage := passes_of_follows (tame_run sc c st)
    unfold accept
    dsimp only
    split
    · rename_i he
      rwa [he] at hf
    · rename_i he
      rwa [he] at hf
  | quit => exact .refl sc 0 st

theorem passes_acceptAll (inputs : List Input) (st : Stage) :
    Passes sc (popsAsked inputs) st (acceptAll sc inputs st).stage := by
  induction inputs generalizing st with
  | nil => exact .refl sc 0 st
  | cons i rest ih =>
    rw [popsAsked_cons]
    refine (passes_accept i st).andThen_add ?_
    intro answer st
    cases answer with
    | ok a => exact ih st
    | error refusal => exact .refl sc _ st

theorem passes_settleWith (answer : Except Refusal Answer) (st : Stage) :
    Passes sc 0 st (settleWith sc answer st).stage :=
  (passes_settle st).andThen fun _ st => .refl sc 0 st

theorem passes_pressAll (keys : List Key) (st : Stage) : Passes sc 0 st (pressAll sc keys st).stage := by
  induction keys generalizing st with
  | nil => exact .refl sc 0 st
  | cons k rest ih =>
    unfold pressAll
    split_ifs
    · exact .refl sc 0 st
    · exact (passes_press k st).andThen fun _ st => (passes_settle st).andThen fun _ st => ih st

/-- **Every step keeps the application running**, until it is idle again. -/
theorem passes_step (gesture : Gesture) (st : Stage) :
    Passes sc (popsAsked gesture.inputs) st (step sc gesture st).stage := by
  cases gesture with
  | one input => exact (passes_accept input st).andThen fun a st => passes_settleWith a st
  | keys keys => exact passes_pressAll keys st
  | frame inputs => exact (passes_acceptAll inputs st).andThen fun a st => passes_settleWith a st

theorem passes_presentAll (names : List String) (st : Stage) : Passes sc 0 st (presentAll sc names st).stage := by
  induction names generalizing st with
  | nil => exact .refl sc 0 st
  | cons name rest ih => exact (passes_of_follows (tame_run sc (.present name) st)).andThen fun _ st => ih st

end LinePrompt.Screen
