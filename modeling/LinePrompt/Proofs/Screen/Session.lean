/-
What a whole session keeps.

A session goes from one stage of a running application to the next, and then ends: the screens that are left are told so
one by one, which dismisses their prompts, and are cleared away. `session_kept` carries the invariants through: every
stage that is seen is a running one, and the history of the last stage tells all of them.
-/
import LinePrompt.Proofs.Screen.Running

namespace LinePrompt.Screen

open LinePrompt.Log LinePrompt.Prompt

variable {sc : Scene} {st : Stage}

/-! ## The end -/

/-- removing screens that are still on the stack detaches dialogs, and moves no screen -/
theorem adds_removeAll (ks : List Nat) (hp : ∀ k ∈ ks, .pushed k ∈ st.history) :
    Adds sc (byRemoval fun _ => True) st (removeAll sc ks st).2 := by
  induction ks generalizing st with
  | nil => exact .refl _ _ _
  | cons k rest ih =>
    intro hs
    have h1 : Adds sc (byRemoval fun _ => True) st (handle sc (.unmount k) st).stage :=
      (adds_handle (.unmount k) fun j hj => by cases hj; exact hp k List.mem_cons_self).mono fun _ hok =>
        byRemoval_mono hok fun _ _ => trivial
    obtain ⟨-, ns, he, -⟩ := h1 hs
    have hp₁ : ∀ j ∈ rest, .pushed j ∈ (handle sc (.unmount k) st).stage.history := by
      intro j hj
      rw [he]
      exact List.mem_append_right _ (hp j (List.mem_cons_of_mem _ hj))
    have hstage : (removeAll sc (k :: rest) st).2 = (removeAll sc rest (handle sc (.unmount k) st).stage).2 := by
      simp only [removeAll]
      split <;> rfl
    rw [hstage]
    exact (h1.trans (ih hp₁)) hs

theorem legal_clear {ks : List Nat} {h : List Mark} (hl : Legal sc h) (hk : stackAt h = ks) :
    Legal sc ((ks.map (.left · .ended)).reverse ++ h) ∧ stackAt ((ks.map (.left · .ended)).reverse ++ h) = [] := by
  induction ks generalizing h with
  | nil => exact ⟨hl, hk⟩
  | cons k rest ih =>
    have htop : May sc h (.left k .ended) := ⟨by rw [hk]; rfl, fun i hi => by cases hi⟩
    have hrest : stackAt (.left k .ended :: h) = rest := by simp [stackAt, hk]
    simpa using ih (h := .left k .ended :: h) ⟨htop, hl⟩ hrest

theorem controllersAt_clear (ks : List Nat) (h : List Mark) :
    controllersAt sc ((ks.map (.left · .ended)).reverse ++ h) = controllersAt sc h := by
  induction ks generalizing h with
  | nil => rfl
  | cons k rest ih => simpa [controllersAt] using ih (.left k .ended :: h)

theorem recorded_clear (hr : Recorded sc st) : Recorded sc st.clear := by
  have hl := legal_clear hr.legal hr.stack.symm
  have hmem : ∀ m, m ∈ st.history → m ∈ st.clear.history := fun m hm => List.mem_append_right _ hm
  have hold : ∀ m, (∀ k, m ≠ .left k .ended) → m ∈ st.clear.history → m ∈ st.history := by
    intro m hne hm
    simp only [Stage.clear, List.mem_append, List.mem_reverse, List.mem_map] at hm
    rcases hm with ⟨k, -, he⟩ | hm
    · exact absurd he.symm (hne k)
    · exact hm
  exact {
    legal := hl.1
    controllers := hr.controllers.trans (controllersAt_clear _ _).symm
    stack := hl.2.symm
    current_lt := hr.current_lt
    pushed_lt := fun k hk => hr.pushed_lt k (hold _ (by simp) hk)
    driver := fun i k hb => hr.driver i k (hold _ (by simp) hb)
    shown := fun i k hk hp => hmem _ (hr.shown i k hk (hold _ (by simp) hp))
    detached := fun k hk => hmem _ (hr.detached k hk)
    removed := fun k hk => (hr.removed k hk).imp fun _ hw => hmem _ hw }

/-- what a session keeps: the stages that are seen are those of a running application, the history only grows, and the
host popped at most `n` screens -/
structure Kept (sc : Scene) (n : Nat) (showing : Showing) : Prop where
  seen : ∀ shot ∈ showing.shots, Running sc shot.stage ∧ shot.stage.history <:+ showing.stage.history
  final : Recorded sc showing.stage
  pops : popCount showing.stage.history ≤ n

theorem Kept.mono {n m : Nat} {showing : Showing} (hk : Kept sc n showing) (hn : n ≤ m) : Kept sc m showing :=
  ⟨hk.seen, hk.final, Nat.le_trans hk.pops hn⟩

theorem kept_conclude (crash : Option Fault) (seen : Stage) (hr : Running sc st) :
    Kept sc (popCount st.history) (conclude sc crash seen st) ∧
      st.history <:+ (conclude sc crash seen st).stage.history := by
  have hstage : (conclude sc crash seen st).stage = (removeAll sc st.host.stack st).2.clear := by
    unfold conclude shutDown
    rfl
  have ha : Adds sc (byRemoval fun _ => True) st (removeAll sc st.host.stack st).2 :=
    adds_removeAll st.host.stack fun k hk => pushed_of_mem_stackAt (hr.stack ▸ hk)
  obtain ⟨hs, ms, he, hm⟩ := ha hr.toSound
  refine ⟨⟨by simp [conclude], ?_, ?_⟩, ?_⟩ <;> rw [hstage]
  · exact recorded_clear hs.toRecorded
  · have hms : popCount ms = 0 := popCount_eq_zero fun k hin => not_byRemoval_left rfl (hm _ hin)
    have hleft : popCount ((removeAll sc st.host.stack st).2.host.stack.map (.left · .ended)).reverse = 0 :=
      popCount_eq_zero (by simp)
    rw [Stage.clear, popCount_append, hleft, he, popCount_append, hms]
    omega
  · exact List.IsSuffix.trans ⟨ms, he.symm⟩ (List.suffix_append _ _)

/-- a stage that is seen before the rest of a session -/
theorem Kept.cons {n : Nat} {showing : Showing} {shot : Shot} (hk : Kept sc n showing) (hr : Running sc shot.stage)
    (hs : shot.stage.history <:+ showing.stage.history) :
    Kept sc n { showing with shots := shot :: showing.shots } where
  seen s hin := by
    rcases List.mem_cons.1 hin with rfl | hin
    · exact ⟨hr, hs⟩
    · exact hk.seen s hin
  final := hk.final
  pops := hk.pops

theorem kept_continueWith (gestures : List Gesture) (hr : Running sc st) :
    Kept sc (popCount st.history + popsAsked (gestures.flatMap Gesture.inputs)) (continueWith sc gestures st) ∧
      st.history <:+ (continueWith sc gestures st).stage.history := by
  induction gestures generalizing st with
  | nil => exact kept_conclude none st hr
  | cons g rest ih =>
    obtain ⟨hr₁, hs₁, hn₁⟩ := passes_step g st hr
    have hsum : popsAsked ((g :: rest).flatMap Gesture.inputs) =
        popsAsked g.inputs + popsAsked (rest.flatMap Gesture.inputs) := List.countP_append
    unfold continueWith
    split
    · obtain ⟨hk, hs⟩ := kept_conclude none st hr
      exact ⟨hk.mono (by omega), hs⟩
    · split
      · rename_i fault after he
        rw [he] at hr₁ hs₁ hn₁
        obtain ⟨hk, hs⟩ := kept_conclude (some fault) st hr₁
        exact ⟨hk.mono (by omega), hs₁.trans hs⟩
      · rename_i answer after he
        rw [he] at hr₁ hs₁ hn₁
        dsimp only
        split_ifs
        · obtain ⟨hk, hs⟩ := kept_conclude none after hr₁
          exact ⟨(hk.cons hr₁ hs).mono (by omega), hs₁.trans hs⟩
        · obtain ⟨hk, hs⟩ := ih hr₁
          exact ⟨(hk.cons hr₁ hs).mono (by omega), hs₁.trans hs⟩

/-- **Every session keeps its stages sound**, whatever comes up at the start and whatever is done to it. -/
theorem session_kept (sc : Scene) (names : List String) (gestures : List Gesture) :
    Kept sc (popsAsked (gestures.flatMap Gesture.inputs)) (playSession sc names gestures) := by
  obtain ⟨hr, -, hn⟩ : Running sc ((presentAll sc names .empty).andThen fun _ st => settle sc st).stage ∧ _ ∧ _ :=
    ((passes_presentAll names .empty).andThen fun _ st => passes_settle st) running_empty
  have hzero : popCount Stage.empty.history = 0 := rfl
  unfold playSession
  split
  · rename_i fault st he
    rw [he] at hr hn
    exact (kept_conclude (some fault) .empty hr).1.mono (by omega)
  · rename_i st he
    rw [he] at hr hn
    obtain ⟨hk, hs⟩ := kept_continueWith gestures hr
    exact (hk.cons hr hs).mono (by omega)

end LinePrompt.Screen
