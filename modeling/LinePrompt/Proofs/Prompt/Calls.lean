/-
Every call leaves a sound stage sound.

The knot of calls is tied by `exec` with a bound on nesting, so the proof is one induction on that bound
(`tame_exec`): at each level the calls inside the scripts are those of the level below. Runs of calls follow.
-/
import LinePrompt.Proofs.Prompt.Work

namespace LinePrompt.Prompt

open LinePrompt.Log LinePrompt.Screen

variable {sc : Scene} {st : Stage} {id : Nat} {again : Caller}

/-! ## Calls -/

theorem Follows.flag {r : Ran Bool} (hr : Follows sc st r.stage) : Follows sc st r.flag.stage :=
  hr.andThen fun _ st => .refl sc st

theorem Follows.silent {r : Ran Unit} (hr : Follows sc st r.stage) : Follows sc st r.silent.stage :=
  hr.andThen fun _ st => .refl sc st

theorem follows_perform (ha : Tame sc again) (name : String) (hi : id < st.controllers.length) (verb : Verb) :
    Follows sc st (perform again sc name id verb st).stage := by
  cases verb with
  | renew => exact follows_create name
  | display surface => exact (follows_display ha (.scripted (surface.getD name)) hi trivial).silent
  | setText text => exact follows_setText id text
  | primary => exact (follows_close ha id _ st).flag
  | submit => exact (follows_close ha id _ st).flag
  | alternate => exact (follows_alternate ha id st).flag
  | cancel => exact (follows_close ha id _ st).flag
  | dismiss => exact (follows_close ha id _ st).flag
  | close outcome => exact (follows_close ha id _ st).flag
  | hasAlternate => exact .refl sc st
  | cancelLabel default => exact .refl sc st
  | assign field => exact .refl sc st

/-- a screen that is not on the stack yet -/
theorem follows_prepare {layer : Layer} (hl : ∀ m, layer = .modal m → m.detached = false) :
    Follows sc st { st with host := st.host.prepare layer } := by
  intro hs
  refine ⟨⟨?_, hs.rest⟩, .refl _ _ _⟩
  refine hs.toRecorded.withHost rfl (by simp [Host.prepare]) (fun k hk => Host.driver?_prepare hk) ?_ fun k hk => hk
  exact fun k hk => Host.isDetached_of_prepare hl hk

theorem follows_present (ha : Tame sc again) (name : String) (st : Stage) :
    Follows sc st (present again sc name st).stage := by
  intro hs
  have hnew : .pushed st.host.screens.length ∉ (st.create sc name).history := by
    intro hp
    have hp' : .pushed st.host.screens.length ∈ st.history := by simpa [Stage.create, Stage.note] using hp
    exact absurd (hs.pushed_lt _ hp') (Nat.lt_irrefl _)
  set st₁ := st.create sc name
  set modal := Modal.mk st.controllers.length false false (.ofText "" 0) .input
  have h1 : Follows sc st st₁ := follows_create name
  set st₂ : Stage := { st₁ with host := st₁.host.prepare (.modal modal) }
  have h2 : Follows sc st₁ st₂ := follows_prepare fun m hm => by cases hm; rfl
  have hi : st.controllers.length < st₂.controllers.length := by simp [st₂, st₁, Stage.create, Stage.note]
  have hready : Ready st₂ st.controllers.length (.dialog st.host.screens.length) :=
    ⟨Host.driver?_prepare_self modal, hnew⟩
  exact ((h1.trans h2).trans (follows_display ha _ hi hready)) hs

theorem follows_notice (message : String) (st : Stage) : Follows sc st (notice message st) := by
  intro hs
  have hprepared : Follows sc st { st with host := st.host.prepare (.notice message) } := follows_prepare (by simp)
  obtain ⟨h1, he⟩ := hprepared hs
  set st₁ : Stage := { st with host := st.host.prepare (.notice message) } with hst₁
  have hk : st.host.screens.length < st₁.host.screens.length := by simp [hst₁, Host.prepare]
  have hnew : .pushed st.host.screens.length ∉ st₁.history := fun hp => Nat.lt_irrefl _ (hs.pushed_lt _ hp)
  have hd : st₁.host.driver? st.host.screens.length = none := by
    simp [hst₁, Host.driver?, Host.modal?, Host.prepare]
  have hr : Recorded sc (notice message st) := h1.toRecorded.push hk hnew fun i hi => by simp [hd] at hi
  refine ⟨⟨hr, ?_⟩, he.trans (.cons hr.legal rfl (fun _ _ _ => rfl) (List.suffix_refl _))⟩
  intro i
  exact (h1.rest i).cons hr.legal rfl rfl

/-- an ensured name stands for a controller -/
theorem currentId_ensure_lt (hs : Sound sc st) (name : String) :
    (st.ensure sc name).currentId name < (st.ensure sc name).controllers.length := by
  unfold Stage.ensure
  split_ifs with hc
  · obtain ⟨id, hid⟩ := Option.isSome_iff_exists.1 hc
    obtain ⟨l₁, l₂, hl, -⟩ := List.lookup_eq_some_iff.1 hid
    simp only [Stage.currentId, hid, Option.getD_some]
    exact hs.current_lt (name, id) (by simp [hl])
  · simp [Stage.currentId, Stage.current?, Stage.create, Stage.note]

theorem follows_ensure (name : String) : Follows sc st (st.ensure sc name) := by
  unfold Stage.ensure
  split_ifs
  · exact .refl sc st
  · exact follows_create name

theorem follows_call (ha : Tame sc again) : Tame sc (call again sc) := by
  intro c st
  cases c with
  | prompt name verb =>
    intro hs
    exact ((follows_ensure name).trans (follows_perform ha name (currentId_ensure_lt hs name) verb)) hs
  | present name => exact (follows_present ha name st).silent
  | notice message => exact follows_notice message st

/-- **Every call leaves a sound stage sound**, whatever the bound on nesting. -/
theorem tame_exec (sc : Scene) (depth : Nat) : Tame sc (exec sc depth) := by
  induction depth with
  | zero => exact fun _ st => .refl sc st
  | succ depth ih => exact fun c st => follows_call ih c st

/-! ## Runs -/

/-- the stage after calls from outside, one after another, with a bound on how deeply they nest -/
def runWithin (sc : Scene) (depth : Nat) (calls : List Call) (st : Stage) : Stage :=
  calls.foldl (fun st c => (exec sc depth c st).stage) st

/-- runs of calls are those within the limit on nesting -/
theorem runAll_eq (sc : Scene) : runAll sc = runWithin sc depthLimit := rfl

/-- the reports of calls from outside, with a bound on how deeply they nest -/
def reportsWithin (sc : Scene) (depth : Nat) : List Call → Stage → List Report
  | [], _ => []
  | c :: rest, st =>
    let r := exec sc depth c st
    ⟨r.answer, st.marksSince r.stage, r.stage⟩ :: reportsWithin sc depth rest r.stage

/-- the reports of a run are those within the limit on nesting -/
theorem reports_eq (sc : Scene) (calls : List Call) (st : Stage) :
    reports sc calls st = reportsWithin sc depthLimit calls st := by
  induction calls generalizing st with
  | nil => rfl
  | cons c rest ih => simp only [reports, reportsWithin, report, run, ih]

theorem follows_runWithin (sc : Scene) (depth : Nat) (calls : List Call) (st : Stage) :
    Follows sc st (runWithin sc depth calls st) := by
  induction calls generalizing st with
  | nil => exact .refl sc st
  | cons c rest ih => exact (tame_exec sc depth c st).trans (ih _)

/-- whatever is called, the stage stays sound -/
theorem sound_runWithin (sc : Scene) (depth : Nat) (calls : List Call) : Sound sc (runWithin sc depth calls .empty) :=
  (follows_runWithin sc depth calls .empty sound_empty).1

end LinePrompt.Prompt
