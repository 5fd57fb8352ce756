/-
The dialogs on the stack of an idle application, and whether their prompts are open.

Closing a prompt takes its dialog away if that is the top screen, and leaves the stack alone otherwise. So a dialog can
outlast its prompt in one way only, by being covered when the prompt is closed: `closed_prompt_covered`. It does happen
(`closed_prompt_stays`).
-/
import Mathlib
import LinePrompt.Proofs.Screen.Session

namespace LinePrompt.Screen

open LinePrompt.Prompt

variable {sc : Scene} {st : Stage} {h : List Mark} {i k : Nat}

/-- a dialog whose closing has ended has left, or it was covered when its prompt was closed -/
theorem Running.close_ended (hr : Running sc st) (he : .ended i (.surfaceClose (.dialog k)) :: h <:+ st.history) :
    (∃ why, .left k why ∈ st.history) ∨
      ∃ o before, .moved i (.closed o) :: before <:+ h ∧ k ∈ (stackAt before).tail := by
  obtain ⟨-, -, hw⟩ := hr.legal.may he
  have hs : h <:+ st.history := (List.suffix_cons _ _).trans he
  rcases hw k rfl with ⟨hd, -⟩ | ⟨why, hl⟩ | ⟨o, before, hm, hk⟩
  · exact Or.inl (hr.gone k (hs.subset hd))
  · exact Or.inl ⟨why, hs.subset hl⟩
  · exact Or.inr ⟨o, before, hm, hk⟩

/-- a closed prompt at rest has had the whole closing of its dialog -/
theorem Running.close_of_closed {o : Outcome} (hr : Running sc st) (hp : st.phase i = .closed o)
    (hb : .began i (.surfaceShow (.dialog k)) ∈ st.history) : .ended i (.surfaceClose (.dialog k)) ∈ st.history := by
  have hd : .began i (.surfaceShow (.dialog k)) ∈ deeds i st.history := mem_deeds_of_began hb
  have ha := hr.rest i
  unfold AtRest at ha
  rw [hr.phase_eq] at hp
  simp only [hp] at ha
  obtain ⟨s, todo, he, hrest⟩ := ha
  obtain rfl : .dialog k = s := surfaceShow_of_mem_lifeline (he ▸ List.mem_append_left _ hd)
  suffices hin : .ended i (.surfaceClose (.dialog k)) ∈ deeds i st.history from (mem_deeds.1 hin).1
  rcases hrest with rfl | ⟨cb, rest, rfl, hcb⟩
  · rw [List.append_nil] at he
    rw [he]
    simp [lifeline]
  · rcases surfaceClose_ended_or he with hin | hm | hm | hm
    · exact hin
    · cases hm
    · cases hm
    · cases hm
      exact absurd rfl (hcb k)

/-- a dialog on the stack has an open prompt, or one that was closed while the dialog was covered -/
theorem Running.dialog (hr : Running sc st) (hk : k ∈ st.host.stack) (hi : st.host.driver? k = some i) :
    (st.phase i).isOpen ∨ ∃ o since before, st.phase i = .closed o ∧
      st.history = since ++ .moved i (.closed o) :: before ∧ k ∈ (stackAt before).tail := by
  have hks : k ∈ stackAt st.history := hr.stack ▸ hk
  have hb : .began i (.surfaceShow (.dialog k)) ∈ st.history := hr.shown i k hi (pushed_of_mem_stackAt hks)
  cases hp : st.phase i with
  | created =>
    have ha := hr.rest i
    unfold AtRest at ha
    rw [hr.phase_eq] at hp
    simp only [hp] at ha
    have hd : .began i (.surfaceShow (.dialog k)) ∈ deeds i st.history := mem_deeds_of_began hb
    simp [ha] at hd
  | shown s => exact Or.inl rfl
  | closed o =>
    right
    obtain ⟨later, h, he⟩ := List.append_of_mem (hr.close_of_closed hp hb)
    rcases hr.close_ended ⟨later, he.symm⟩ with ⟨why, hl⟩ | ⟨o', before, hm, hcov⟩
    · exact absurd hks (hr.legal.not_mem_stackAt hl).2
    · have hs : .moved i (.closed o') :: before <:+ st.history :=
        hm.trans ((List.suffix_cons _ _).trans ⟨later, he.symm⟩)
      have hlt := (hr.legal.may hs).1
      have hc : phaseAt sc (.moved i (.closed o') :: before) i = .closed o' := by
        rw [phaseAt_moved, if_pos ⟨rfl, hlt⟩]
      have ho := hr.legal.phaseAt_closed hs hc
      rw [← hr.phase_eq, hp] at ho
      cases ho
      obtain ⟨since, hsince⟩ := hs
      exact ⟨o, since, before, rfl, hsince.symm, hcov⟩

/-- **A dialog on the stack belongs to an open prompt, or to one that was closed while the dialog was covered.** At
every stage of every session that is seen, which is when the application is idle. -/
theorem closed_prompt_covered (sc : Scene) (names : List String) (gestures : List Gesture) :
    ∀ shot ∈ (playSession sc names gestures).shots, ∀ k ∈ shot.stage.host.stack, ∀ i,
      shot.stage.host.driver? k = some i →
      (shot.stage.phase i).isOpen ∨ ∃ o since before, shot.stage.phase i = .closed o ∧
        shot.stage.history = since ++ .moved i (.closed o) :: before ∧ k ∈ (stackAt before).tail := by
  intro shot hshot k hk i hi
  exact ((session_kept sc names gestures).seen shot hshot).1.dialog hk hi

/-- prompts with a title and nothing else, and no records -/
def plainScene : Scene where
  request _ := .titled "A"
  surface _ := ⟨[], []⟩
  threshold := 100
  cancelLabel := "Cancel"
  escapeDismisses := true

/-- a notice comes up over a prompt, which is then cancelled -/
def coverThenCancel : List Gesture := [.one (.call (.notice "n")), .one (.call (.prompt "a" .cancel))]

/-- the stack, the first screen's prompt and its phase, after the start and after each step -/
theorem coverThenCancel_shots :
    (playSession plainScene ["a"] coverThenCancel).shots.map
        (fun shot => (shot.stage.host.stack, shot.stage.host.driver? 0, shot.stage.phase 0)) =
      [([0], some 0, .shown (.dialog 0)), ([1, 0], some 0, .shown (.dialog 0)),
        ([1, 0], some 0, .closed .cancel)] := by
  cbv

theorem exists_coverThenCancel_shot :
    ∃ shot ∈ (playSession plainScene ["a"] coverThenCancel).shots,
      0 ∈ shot.stage.host.stack ∧ shot.stage.host.driver? 0 = some 0 ∧ shot.stage.phase 0 = .closed .cancel := by
  obtain ⟨shot, hshot, he⟩ : ∃ shot ∈ (playSession plainScene ["a"] coverThenCancel).shots,
      (shot.stage.host.stack, shot.stage.host.driver? 0, shot.stage.phase 0) =
        ([1, 0], some 0, Phase.closed .cancel) :=
    List.mem_map.1 (by rw [coverThenCancel_shots]; simp)
  obtain ⟨hstack, hdriver, hphase⟩ : _ ∧ _ ∧ _ := by simpa using he
  exact ⟨shot, hshot, by simp [hstack], hdriver, hphase⟩

/-- the closed prompt whose dialog was covered -/
theorem closed_prompt_covered_cancelled :
    ∃ shot ∈ (playSession plainScene ["a"] coverThenCancel).shots,
      0 ∈ shot.stage.host.stack ∧ shot.stage.host.driver? 0 = some 0 ∧
      ((shot.stage.phase 0).isOpen ∨ ∃ o since before, shot.stage.phase 0 = .closed o ∧
        shot.stage.history = since ++ .moved 0 (.closed o) :: before ∧ 0 ∈ (stackAt before).tail) := by
  obtain ⟨shot, hshot, hk, hd, -⟩ := exists_coverThenCancel_shot
  exact ⟨shot, hshot, hk, hd, closed_prompt_covered plainScene ["a"] coverThenCancel shot hshot 0 hk 0 hd⟩

/-- A dialog on the stack need not belong to an open prompt: one that is cancelled under a notice leaves it there. -/
theorem closed_prompt_stays :
    ¬ ∀ shot ∈ (playSession plainScene ["a"] coverThenCancel).shots, ∀ k ∈ shot.stage.host.stack, ∀ i,
      shot.stage.host.driver? k = some i → (shot.stage.phase i).isOpen := by
  intro hall
  obtain ⟨shot, hshot, hk, hd, hp⟩ := exists_coverThenCancel_shot
  have hopen := hall shot hshot 0 hk 0 hd
  rw [hp] at hopen
  exact absurd hopen (by decide)

end LinePrompt.Screen
