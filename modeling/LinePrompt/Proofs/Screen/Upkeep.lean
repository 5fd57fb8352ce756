/-
What every input and every message keeps, a session keeps to its end.

`Upheld` is a property of stages that no input and no message breaks, on which none of them raises a fault, and on which
no screen waits to appear. `Upheld.session` takes it from a stage on which the prompts of the start are up through the
rest of a session: the keys and steps one after another, each settled before the next, and the removal of the screens
that are left. So the session raises no fault, is shut down from an idle stage, and ends on one that has the property.
-/
import LinePrompt.Proofs.Screen.Removals

namespace LinePrompt.Prompt

variable {α β : Type} {P Q : Stage → Prop}

/-- there was no fault, and the stage it leaves has the property -/
structure Ran.Safe (P : Stage → Prop) (r : Ran α) : Prop where
  returned : ∃ a, r.answer = .ok a
  stage : P r.stage

theorem Ran.Safe.of_ok {st : Stage} (a : α) (h : P st) : (Ran.mk (.ok a) st).Safe P := ⟨⟨a, rfl⟩, h⟩

theorem Ran.Safe.andThen {r : Ran α} {next : α → Stage → Ran β} (hr : r.Safe P)
    (hn : ∀ a st, P st → (next a st).Safe Q) : (r.andThen next).Safe Q := by
  obtain ⟨a, ha⟩ := hr.returned
  rw [Ran.andThen_of_ok ha]
  exact hn a _ hr.stage

/-- a computation of nothing gives nothing -/
theorem Ran.Safe.ok {r : Ran Unit} (hr : r.Safe P) : r.answer = .ok () := by
  obtain ⟨_, ha⟩ := hr.returned
  exact ha

end LinePrompt.Prompt

namespace LinePrompt.Screen

open LinePrompt.Prompt

variable {sc : Scene} {can : Input → Prop} {P : Stage → Prop} {st : Stage}

/-- no input of this kind and no message breaks the property, or raises a fault on a stage that has it; on such a stage
no screen waits to appear -/
structure Upheld (sc : Scene) (can : Input → Prop) (P : Stage → Prop) : Prop where
  input : ∀ i st, can i → P st → (accept sc i st).Safe P
  round : ∀ st, P st → P (emptied st)
  message : ∀ m st, (∀ k, m ≠ .mount k) → P st → (handle sc m st).Safe P
  still : ∀ k st, P st → .mount k ∉ st.host.queue

namespace Upheld

variable (hu : Upheld sc can P)
include hu

/-! ## Steps -/

theorem handleAll (ms : List Message) (hms : ∀ k, .mount k ∉ ms) (h : P st) : (handleAll sc ms st).Safe P := by
  induction ms generalizing st with
  | nil => exact .of_ok () h
  | cons m rest ih =>
    have hm : ∀ k, m ≠ .mount k := fun k he => hms k (he ▸ List.mem_cons_self)
    have hrest : ∀ k, .mount k ∉ rest := fun k hin => hms k (List.mem_cons_of_mem m hin)
    exact (hu.message m st hm h).andThen fun _ _ h => ih hrest h

theorem rounds (n : Nat) (h : P st) : (rounds sc n st).Safe P := by
  induction n generalizing st with
  | zero => exact .of_ok () h
  | succ n ih =>
    exact (hu.handleAll _ (fun k => hu.still k st h) (hu.round st h)).andThen fun _ _ h => ih h

theorem settle (h : P st) : (settle sc st).Safe P := hu.rounds 3 h

theorem settleWith (answer : Except Refusal Answer) (h : P st) : (settleWith sc answer st).Safe P :=
  (hu.settle h).andThen fun _ _ h => .of_ok answer h

theorem press {k : Key} (hk : can (.key k)) (h : P st) : (press sc k st).Safe P := by
  obtain ⟨⟨a, ha⟩, hstage⟩ := hu.input (.key k) st hk h
  obtain ⟨u, hok, -⟩ := Ran.andThen_returned (r := Screen.press sc k st) ha
  exact ⟨⟨u, hok⟩, stage_accept_key k st ▸ hstage⟩

theorem pressAll {keys : List Key} (hkey : ∀ k, can (.key k)) (h : P st) : (pressAll sc keys st).Safe P := by
  induction keys generalizing st with
  | nil => exact .of_ok _ h
  | cons k rest ih =>
    unfold Screen.pressAll
    split_ifs
    · exact .of_ok _ h
    · exact (hu.press (hkey k) h).andThen fun _ _ h => (hu.settle h).andThen fun _ _ h => ih h

theorem acceptAll {inputs : List Input} (hcan : ∀ i ∈ inputs, can i) (h : P st) :
    (acceptAll sc inputs st).Safe P := by
  induction inputs generalizing st with
  | nil => exact .of_ok _ h
  | cons i rest ih =>
    refine (hu.input i st (hcan i List.mem_cons_self) h).andThen fun answer _ h => ?_
    cases answer with
    | ok answer => exact ih (fun j hj => hcan j (List.mem_cons_of_mem _ hj)) h
    | error refusal => exact .of_ok _ h

theorem step {g : Gesture} (hkey : ∀ k, can (.key k)) (hg : ∀ i ∈ g.inputs, can i) (h : P st) :
    (step sc g st).Safe P := by
  cases g with
  | one input => exact (hu.input input st (hg input (List.mem_singleton_self _)) h).andThen fun a _ => hu.settleWith a
  | keys keys => exact hu.pressAll hkey h
  | frame inputs => exact (hu.acceptAll hg h).andThen fun a _ => hu.settleWith a

/-! ## Sessions -/

/-- the removal of screens raises no fault either -/
theorem removeAll (ks : List Nat) (h : P st) : (removeAll sc ks st).1 = none ∧ P (removeAll sc ks st).2 := by
  induction ks generalizing st with
  | nil => exact ⟨rfl, h⟩
  | cons k rest ih =>
    have hsafe := hu.message (.unmount k) st (by simp) h
    obtain ⟨hnone, hrest⟩ := ih hsafe.stage
    rw [removeAll_cons]
    exact ⟨by simpa only [Screen.removeAll, hsafe.ok] using hnone, hrest⟩

/-- the steps lead from an idle stage with the property to one from which the session is shut down -/
theorem lastFrom {gestures : List Gesture} (hkey : ∀ k, can (.key k)) (hg : ∀ g ∈ gestures, ∀ i ∈ g.inputs, can i)
    (hi : Idle sc (fun _ => True) st) (h : P st) :
    Idle sc (fun _ => True) (lastFrom sc gestures st) ∧ P (lastFrom sc gestures st) ∧
      (continueWith sc gestures st).crash = (shutDown sc (lastFrom sc gestures st)).1 := by
  induction gestures generalizing st with
  | nil => exact ⟨hi, h, rfl⟩
  | cons g rest ih =>
    have hsafe := hu.step hkey (hg g List.mem_cons_self) h
    have hidle := fun a => idle_step (a := a) (fun _ => trivial) (g := g) (fun _ _ => trivial) hi
    unfold Screen.lastFrom continueWith
    by_cases hresult : st.result.isSome = true
    · simp only [if_pos hresult]
      exact ⟨hi, h, rfl⟩
    simp only [if_neg hresult]
    revert hsafe hidle
    rcases Screen.step sc g st with ⟨fault | answer, after⟩
    · rintro ⟨⟨_, hok⟩, -⟩
      cases hok
    · intro hsafe hidle
      cases hquits : g.quits
      · simpa [hquits] using ih (fun g hin => hg g (List.mem_cons_of_mem _ hin)) (hidle answer rfl) hsafe.stage
      · exact ⟨hidle answer rfl, hsafe.stage, rfl⟩

/-- **What no input and no message breaks holds to the end of a session**, which raises no fault and is shut down from
an idle stage. -/
theorem session {names : List String} {gestures : List Gesture} (hkey : ∀ k, can (.key k))
    (hg : ∀ g ∈ gestures, ∀ i ∈ g.inputs, can i)
    (hstart : ((presentAll sc names .empty).andThen fun _ st => Screen.settle sc st).Safe P) :
    (playSession sc names gestures).crash = none ∧ Idle sc (fun _ => True) (lastStage sc names gestures) ∧
      P (lastStage sc names gestures) ∧
      P (Screen.removeAll sc (lastStage sc names gestures).host.stack (lastStage sc names gestures)).2 := by
  have hreached : Reached sc (fun _ => True) [] (presentAll sc names .empty).stage :=
    reached_presentAll sc (fun _ => trivial) names .start
  obtain ⟨_, -, hsettle⟩ := Ran.andThen_returned hstart.ok
  rw [hsettle] at hstart
  have hidle := idle_settle hreached hstart.ok
  obtain ⟨hlast, hP, hcrash⟩ := hu.lastFrom hkey hg hidle hstart.stage
  have hpresent : (presentAll sc names .empty).andThen (fun _ st => Screen.settle sc st) =
      ⟨.ok (), (Screen.settle sc (presentAll sc names .empty).stage).stage⟩ := by
    rw [hsettle, ← hstart.ok]
  have hstage : lastStage sc names gestures =
      Screen.lastFrom sc gestures (Screen.settle sc (presentAll sc names .empty).stage).stage := by
    rw [lastStage, hpresent]
  obtain ⟨hnone, hremoved⟩ := hu.removeAll (lastStage sc names gestures).host.stack (hstage ▸ hP)
  refine ⟨?_, hstage ▸ hlast, hstage ▸ hP, hremoved⟩
  rw [playSession, hpresent]
  exact hcrash.trans (hstage ▸ hnone)

end Upheld

end LinePrompt.Screen
