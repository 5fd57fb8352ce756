/-
Rounds in front of a backdrop.

Once a message of a dialog has been handled, what waits posts nothing: screens appear, and some have gone whose prompts
are closed. One round is enough for such messages (`rounds_of_silent`), and it is the same in front of every backdrop
(`rounds_against`).
-/
import LinePrompt.Proofs.Prompt.Backdrops
import LinePrompt.Proofs.Screen.Reached

namespace LinePrompt.Screen

open LinePrompt.Prompt

variable {sc : Scene} {st : Stage} {ms : List Message} {x y : Message} {k : Nat} {b : Backdrop}

/-! ## Rounds of messages that post nothing -/

theorem silent_against : Silent (st.against b) x ↔ Silent st x := by
  cases x with
  | unmount j =>
    show (∀ i, (st.host.against b).driver? j = some i → _) ↔ _
    rw [Host.driver?_against]
    rfl
  | _ => exact Iff.rfl

/-- nothing comes of it that a dialog has gone whose prompt is closed -/
theorem handle_gone (sc : Scene) (hx : Silent st (.unmount k)) : handle sc (.unmount k) st = ⟨.ok (), st⟩ := by
  cases hm : st.host.modal? k with
  | none => simp [handle, hm]
  | some m =>
    obtain ⟨o, ho⟩ := Phase.isClosed_iff.1 (hx _ (Host.driver?_of_modal? hm))
    simp only [handle, hm, unmountDialog, ho]
    rfl

/-- a message that posts nothing changes no more than a dialog, which stays with its prompt -/
theorem handle_silent_stage (sc : Scene) (hx : Silent st x) : (handle sc x st).stage = st ∨
    ∃ k f, (∀ m, (f m).controller = m.controller) ∧ (handle sc x st).stage = updateDialog st k f := by
  cases x with
  | mount k =>
    rcases handle_mount sc k st with he | ⟨modal, -, he⟩
    · exact Or.inl he
    · refine Or.inr ⟨k, _, ?_, he⟩
      exact fun _ => rfl
  | unmount k =>
    rw [handle_gone sc hx]
    exact Or.inl rfl
  | _ => exact hx.elim

theorem silent_after (sc : Scene) (hx : Silent st x) (hy : Silent st y) : Silent (handle sc x st).stage y := by
  rcases handle_silent_stage sc hx with he | ⟨k, f, hf, he⟩
  · rwa [he]
  · rw [he]
    cases y with
    | unmount j =>
      intro i hi
      rw [show (updateDialog st k f).host.driver? j = st.host.driver? j from Host.driver?_updateModal _ _ hf] at hi
      exact hy i hi
    | _ => exact hy

/-- the dialogs in front of a backdrop are those that there are, with the same prompts -/
theorem modal_against (b : Backdrop) (h : Host) (j : Nat) : (h.modal? j = none ∧ (h.against b).modal? j = none) ∨
    ∃ m m', h.modal? j = some m ∧ (h.against b).modal? j = some m' ∧ m'.controller = m.controller := by
  rw [Host.modal?_against]
  cases h.modal? j with
  | none => exact Or.inl ⟨rfl, by split_ifs <;> rfl⟩
  | some m =>
    right
    split_ifs
    · exact ⟨m, b.change m, rfl, rfl, b.controller m⟩
    · exact ⟨m, m, rfl, rfl, rfl⟩

theorem mountDialog_against {modal modal' : Modal} (j : Nat) (hc : modal'.controller = modal.controller) :
    mountDialog sc j modal' (st.against b) = (mountDialog sc j modal st).against b := by
  unfold mountDialog
  rw [hc, show (st.against b).request sc modal.controller = st.request sc modal.controller from rfl,
    show (st.against b).host.stack = st.host.stack from rfl]
  dsimp only
  split_ifs
  swap
  · rfl
  split
  · rfl
  · have hchange (field : Field) (m : Modal) :
        { b.change m with mounted := true, field } = b.change { m with mounted := true, field } :=
      ((b.field { m with mounted := true } field).trans (by rw [b.mounted])).symm
    exact congrArg (fun host => (⟨.ok (), { st.against b with host }⟩ : Ran Unit))
      (Host.updateModal_against st.host j ({ · with mounted := true, field := _ }) (hchange _))

theorem handle_against (hx : Silent st x) : handle sc x (st.against b) = (handle sc x st).against b := by
  cases x with
  | mount j =>
    unfold handle
    rcases modal_against b st.host j with ⟨hm, hm'⟩ | ⟨m, m', hm, hm', hc⟩
    · simp only [show (st.against b).host.modal? j = none from hm', hm]
      rfl
    · simp only [show (st.against b).host.modal? j = some m' from hm', hm]
      exact mountDialog_against j hc
  | unmount j =>
    rw [handle_gone sc hx, handle_gone sc (silent_against.2 hx)]
    rfl
  | _ => exact hx.elim

theorem handleAll_against (hms : ∀ x ∈ ms, Silent st x) :
    handleAll sc ms (st.against b) = (handleAll sc ms st).against b := by
  induction ms generalizing st with
  | nil => rfl
  | cons x ms ih =>
    have hx := hms x List.mem_cons_self
    have hrest : ∀ y ∈ ms, Silent (handle sc x st).stage y :=
      fun y hy => silent_after sc hx (hms y (List.mem_cons_of_mem _ hy))
    unfold handleAll
    rw [handle_against hx]
    rcases hran : handle sc x st with ⟨f | _, st'⟩
    · rfl
    · rw [hran] at hrest
      exact ih hrest

theorem emptied_of_queue (hq : st.host.queue = []) : emptied st = st := by
  unfold emptied
  rw [← hq]

theorem rounds_of_idle (sc : Scene) (n : Nat) (hq : st.host.queue = []) : rounds sc n st = ⟨.ok (), st⟩ := by
  induction n with
  | zero => rfl
  | succ n ih =>
    have hround : handleAll sc st.host.queue (emptied st) = ⟨.ok (), st⟩ := by
      rw [emptied_of_queue hq, hq]
      rfl
    unfold rounds
    change (handleAll sc st.host.queue (emptied st)).andThen _ = _
    rw [hround]
    exact ih

theorem queue_of_silent (sc : Scene) (hms : ∀ x ∈ ms, Silent st x) :
    (handleAll sc ms st).stage.host.queue = st.host.queue := by
  induction ms generalizing st with
  | nil => rfl
  | cons x ms ih =>
    have hx := hms x List.mem_cons_self
    have hrest : ∀ y ∈ ms, Silent (handle sc x st).stage y :=
      fun y hy => silent_after sc hx (hms y (List.mem_cons_of_mem _ hy))
    have hfirst : (handle sc x st).stage.host.queue = st.host.queue := handle_silent hx
    unfold handleAll
    rcases hran : handle sc x st with ⟨f | _, st'⟩
    · rw [hran] at hfirst
      exact hfirst
    · rw [hran] at hrest hfirst
      exact (ih hrest).trans hfirst

/-- messages that post nothing change no prompt, and leave no mark -/
theorem still_of_silent (sc : Scene) (hms : ∀ x ∈ ms, Silent st x) :
    (handleAll sc ms st).stage.history = st.history ∧ (handleAll sc ms st).stage.controllers = st.controllers := by
  induction ms generalizing st with
  | nil => exact ⟨rfl, rfl⟩
  | cons x ms ih =>
    have hx := hms x List.mem_cons_self
    have hrest : ∀ y ∈ ms, Silent (handle sc x st).stage y :=
      fun y hy => silent_after sc hx (hms y (List.mem_cons_of_mem _ hy))
    have hfirst : (handle sc x st).stage.history = st.history ∧
        (handle sc x st).stage.controllers = st.controllers := by
      rcases handle_silent_stage sc hx with he | ⟨k, f, -, he⟩
      · rw [he]
        exact ⟨rfl, rfl⟩
      · rw [he]
        exact ⟨rfl, rfl⟩
    unfold handleAll
    rcases hran : handle sc x st with ⟨f | _, st'⟩
    · rw [hran] at hfirst
      exact hfirst
    · rw [hran] at hrest hfirst
      obtain ⟨hhistory, hcontrollers⟩ := ih hrest
      exact ⟨hhistory.trans hfirst.1, hcontrollers.trans hfirst.2⟩

/-- one round is enough for messages that post nothing -/
theorem rounds_of_silent (sc : Scene) (n : Nat) (hq : ∀ x ∈ st.host.queue, Silent st x) :
    rounds sc (n + 1) st = handleAll sc st.host.queue (emptied st) := by
  have hempty : (handleAll sc st.host.queue (emptied st)).stage.host.queue = [] := queue_of_silent sc hq
  unfold rounds
  change (handleAll sc st.host.queue (emptied st)).andThen _ = _
  rcases hran : handleAll sc st.host.queue (emptied st) with ⟨f | _, st'⟩
  · rfl
  · rw [hran] at hempty
    exact rounds_of_idle sc n hempty

theorem still_rounds (sc : Scene) (n : Nat) (hq : ∀ x ∈ st.host.queue, Silent st x) :
    (rounds sc (n + 1) st).stage.history = st.history ∧ (rounds sc (n + 1) st).stage.controllers = st.controllers := by
  rw [rounds_of_silent sc n hq]
  exact still_of_silent sc hq

theorem handleAll_gone (sc : Scene) {rest : List Message} (hms : ∀ x ∈ ms, ∃ k, x = .unmount k ∧ Silent st x) :
    handleAll sc (ms ++ rest) st = handleAll sc rest st := by
  induction ms with
  | nil => rfl
  | cons x ms ih =>
    obtain ⟨k, rfl, hx⟩ := hms x List.mem_cons_self
    rw [List.cons_append, handleAll, handle_gone sc hx]
    exact ih fun y hy => hms y (List.mem_cons_of_mem _ hy)

/-- rounds of messages that post nothing, in front of a backdrop where nothing waits but what is gone -/
theorem rounds_against (sc : Scene) (n : Nat) (hwaits : ∀ x ∈ b.queue, ∃ k, x = .unmount k ∧ Silent st x)
    (hq : ∀ x ∈ st.host.queue, Silent st x) :
    rounds sc (n + 1) (st.against b) = (rounds sc (n + 1) st).against { b with queue := [] } := by
  have hsilent : ∀ x ∈ (st.against b).host.queue, Silent (st.against b) x := by
    intro x hx
    refine silent_against.2 ?_
    rcases List.mem_append.1 hx with hx | hx
    · exact (hwaits x hx).elim fun _ h => h.2
    · exact hq x hx
  have hgone : ∀ x ∈ b.queue, ∃ k, x = .unmount k ∧ Silent ((emptied st).against { b with queue := [] }) x := by
    intro x hx
    obtain ⟨k, rfl, hs⟩ := hwaits x hx
    exact ⟨k, rfl, silent_against.2 hs⟩
  calc rounds sc (n + 1) (st.against b)
    _ = handleAll sc (b.queue ++ st.host.queue) ((emptied st).against { b with queue := [] }) :=
      rounds_of_silent sc n hsilent
    _ = handleAll sc st.host.queue ((emptied st).against { b with queue := [] }) := handleAll_gone sc hgone
    _ = (handleAll sc st.host.queue (emptied st)).against { b with queue := [] } := handleAll_against hq
    _ = (rounds sc (n + 1) st).against { b with queue := [] } := by rw [rounds_of_silent sc n hq]

/-- one message that waits is handled, and then what comes of it -/
theorem settle_one (sc : Scene) (hq : st.host.queue = [x]) :
    settle sc st = (handle sc x (emptied st)).andThen fun _ st => rounds sc 2 st := by
  have hround : handleAll sc st.host.queue (emptied st) = handle sc x (emptied st) := by
    rw [hq]
    exact Ran.andThen_done _
  rw [← hround]
  rfl

/-- a message that is posted while nothing waits -/
theorem settle_post (sc : Scene) (hq : st.host.queue = []) (x : Message) :
    settle sc (postMessage st x) = (handle sc x st).andThen fun _ st => rounds sc 2 st := by
  have hone : (postMessage st x).host.queue = [x] := by
    show st.host.queue ++ [x] = _
    rw [hq]
    rfl
  rw [settle_one sc hone, show emptied (postMessage st x) = emptied st from rfl, emptied_of_queue hq]

end LinePrompt.Screen
