/-
Scripts that trigger nothing.

A passive script may bring up prompts and notices, set texts, raise and swallow faults, but asks for the end of no
prompt. Where all scripts are passive, a call that is no trigger closes nothing (`sparing_run`), and a trigger that
finds its prompt up closes this prompt, and nothing else after it (`spares_close`): whatever closes, it has been asked
to from outside.
-/
import LinePrompt.Proofs.Prompt.Faults

namespace LinePrompt.Prompt

open LinePrompt.Log LinePrompt.Screen

variable {sc : Scene} {st st' st₁ st₂ st₃ : Stage} {id i : Nat} {again : Caller} {s : Surface} {o : Outcome}
  {m : Mark} {h : List Mark}

/-! ## Passive scripts -/

/-- a call that asks for the end of no prompt -/
def Call.Passive : Call → Prop
  | .prompt _ verb => verb.isTrigger = false
  | _ => True

/-- an action that asks for the end of no prompt -/
def Action.Passive : Action → Prop
  | .call c => c.Passive
  | .attempt action => action.Passive
  | _ => True

/-- no script asks for the end of a prompt -/
structure Scene.Passive (sc : Scene) : Prop where
  handler : ∀ name cb script, handlerScript (sc.request name) cb = some script → ∀ action ∈ script, action.Passive
  onShow : ∀ place, ∀ action ∈ (sc.surface place).onShow, action.Passive
  onClose : ∀ place, ∀ action ∈ (sc.surface place).onClose, action.Passive

/-- the scripts that a request's handlers run are those that it names -/
theorem handlerScript_cases {r : Request} {cb : Callback} {script : Script} (h : handlerScript r cb = some script) :
    r.onPrimary = script ∨ r.onAlternate = some script ∨ r.onCancel = some script ∨ r.onClosed = some script := by
  cases cb with
  | handler o text =>
    cases o with
    | primary => exact Or.inl (Option.some.inj h)
    | alternate => exact Or.inr (Or.inl h)
    | cancel => exact Or.inr (Or.inr (Or.inl h))
    | dismissed => cases h
  | onClosed => exact Or.inr (Or.inr (Or.inr h))
  | surfaceShow s => cases h
  | surfaceClose s => cases h

/-! ## Marks that close nothing -/

/-- is this the mark of a closing? -/
def Mark.closes : Mark → Bool
  | .moved _ phase => phase.isClosed
  | _ => false

/-- nothing was closed between two stages -/
def Spares (st st' : Stage) : Prop := ∃ ms, st'.history = ms ++ st.history ∧ ∀ m ∈ ms, m.closes = false

theorem Spares.of_history (h : st'.history = st.history) : Spares st st' := ⟨[], h, by simp⟩

theorem Spares.refl (st : Stage) : Spares st st := .of_history rfl

theorem Spares.trans (h12 : Spares st₁ st₂) (h23 : Spares st₂ st₃) : Spares st₁ st₃ := by
  obtain ⟨ms, hms, hspared⟩ := h12
  obtain ⟨ns, hns, hspared'⟩ := h23
  refine ⟨ns ++ ms, by rw [hns, hms, List.append_assoc], fun m hm => ?_⟩
  exact (List.mem_append.1 hm).elim (hspared' m) (hspared m)

theorem Spares.suffix (h : Spares st st') : st.history <:+ st'.history := by
  obtain ⟨ms, hms, -⟩ := h
  exact ⟨ms, hms.symm⟩

theorem Spares.andThen {α β : Type} {r : Ran α} {next : α → Stage → Ran β} (hr : Spares st r.stage)
    (hn : ∀ a st', Spares st' (next a st').stage) : Spares st (r.andThen next).stage := by
  unfold Ran.andThen
  split
  · exact hr.trans (hn _ _)
  · exact hr

/-- a closing that is on record afterwards was so before -/
theorem Spares.closing (hs : Spares st st') (hm : m.closes = true) (hin : m :: h <:+ st'.history) :
    m :: h <:+ st.history := by
  obtain ⟨ms, hms, hspared⟩ := hs
  rw [hms] at hin
  clear hms
  induction ms with
  | nil => exact hin
  | cons n ms ih =>
    rcases List.suffix_cons_iff.1 hin with he | hin
    · obtain ⟨rfl, -⟩ := List.cons.inj he
      rw [hspared m List.mem_cons_self] at hm
      cases hm
    · exact ih hin fun m hms => hspared m (List.mem_cons_of_mem _ hms)

theorem spares_note (hm : m.closes = false) : Spares st (st.note m) := ⟨[m], rfl, by simpa using hm⟩

theorem spares_log (severity : Severity) (record : Unit → Record) : Spares st (st.log sc severity record) := by
  rcases log_eq st sc severity record with he | ⟨r, he⟩ <;> rw [he]
  · exact .refl st
  · exact spares_note rfl

theorem spares_kept (kept : String) (result : Option (Outcome × String)) : Spares st { st with kept, result } :=
  .of_history rfl

theorem spares_setText (id : Nat) (text : String) : Spares st (st.setText id text) :=
  ⟨[.texted id text], (setText_frame st id text).1, by simp [Mark.closes]⟩

theorem spares_pop (why : Departure) : Spares st (st.pop why) := by
  unfold Stage.pop
  split
  · exact .refl st
  · exact spares_note rfl

/-! ## Scripts -/

theorem spares_finishWith (cue : Cue) : Spares st (finishWith sc cue st) := by
  unfold finishWith
  dsimp only
  exact ((spares_kept _ _).trans (spares_log _ _)).trans (spares_kept _ _)

/-- passive calls close nothing -/
def Sparing (again : Caller) : Prop := ∀ c st, c.Passive → Spares st (again c st).stage

section Calls

variable (ha : Sparing again)

include ha

theorem spares_act (cue : Cue) {action : Action} (hp : action.Passive) (st : Stage) :
    Spares st (act again sc cue action st).stage := by
  induction action with
  | call c => exact (ha c st hp).andThen fun _ _ => spares_note rfl
  | raise kind message => exact .refl st
  | attempt action ih =>
    have hspares := ih hp
    unfold act
    split <;> rename_i he <;> rw [he] at hspares
    · exact hspares
    · exact hspares
    · exact hspares.trans (spares_note rfl)
  | keep => exact .of_history rfl
  | finish => exact spares_finishWith cue

theorem spares_play (cue : Cue) {script : Script} (hp : ∀ action ∈ script, action.Passive) (st : Stage) :
    Spares st (play again sc cue script st).stage := by
  induction script generalizing st with
  | nil => exact .refl st
  | cons action rest ih =>
    refine (spares_act ha cue (hp action List.mem_cons_self) st).andThen fun _ st' => ?_
    exact ih (fun a hin => hp a (List.mem_cons_of_mem _ hin)) st'

omit ha in
theorem spares_callback (id : Nat) (cb : Callback) {body : Stage → Ran Unit}
    (hb : ∀ st, Spares st (body st).stage) : Spares st (callback id cb body st).stage :=
  Spares.andThen ((spares_note rfl).trans (hb _)) fun _ _ => spares_note rfl

/-! ## Surfaces and handlers -/

variable (hsc : sc.Passive)

include hsc

theorem spares_surfaceShow (id : Nat) (s : Surface) (st : Stage) :
    Spares st (surfaceShow again sc id s st).stage := by
  cases s with
  | scripted place => exact spares_play ha _ (hsc.onShow place) st
  | dialog k => exact spares_note rfl

theorem spares_surfaceClose (id : Nat) (s : Surface) (st : Stage) :
    Spares st (surfaceClose again sc id s st).stage := by
  cases s with
  | scripted place => exact spares_play ha _ (hsc.onClose place) st
  | dialog k =>
    show Spares st (closeDialog sc id k st)
    unfold closeDialog
    split_ifs
    · exact .refl st
    · exact spares_pop _
    · exact spares_log _ _

theorem spares_runHandler (id : Nat) (name : String) (cb : Callback) (st : Stage) :
    Spares st (runHandler again sc id (sc.request name) cb st).stage := by
  unfold runHandler
  split
  · exact .refl st
  · rename_i script hscript
    exact spares_callback id cb fun st' => spares_play ha _ (hsc.handler name cb script hscript) st'

/-! ## Controllers -/

theorem spares_display (id : Nat) (s : Surface) (st : Stage) : Spares st (display again sc id s st).stage := by
  unfold display
  split
  · have hshown : Spares st (st.setPhase id (.shown s)) := spares_note rfl
    exact (hshown.trans (spares_log _ _)).trans (spares_callback id _ (spares_surfaceShow ha hsc id s))
  · exact .refl st

/-- a trigger that finds its prompt up closes this prompt first, and then nothing -/
theorem spares_close (hp : st.phase id = .shown s) (o : Outcome) :
    Spares (st.setPhase id (.closed o)) (close again sc id o st).stage := by
  unfold close
  simp only [hp]
  refine Spares.andThen ((spares_log _ _).trans (spares_callback id _ (spares_surfaceClose ha hsc id s))) ?_
  intro _ st₁
  refine (spares_runHandler ha hsc id _ _ st₁).andThen fun _ st₂ => ?_
  exact (spares_runHandler ha hsc id _ _ st₂).andThen fun _ st₃ => .refl st₃

theorem spares_present (name : String) (st : Stage) : Spares st (present again sc name st).stage := by
  have hmade : Spares st (st.create sc name) := spares_note rfl
  exact hmade.trans ((Spares.of_history rfl).trans (spares_display ha hsc _ _ _))

theorem spares_perform (name : String) (id : Nat) {verb : Verb} (hverb : verb.isTrigger = false) (st : Stage) :
    Spares st (perform again sc name id verb st).stage := by
  cases verb with
  | renew => exact spares_note rfl
  | display place => exact (spares_display ha hsc id _ st).andThen fun _ st' => .refl st'
  | setText text => exact spares_setText id text
  | hasAlternate => exact .refl st
  | cancelLabel default => exact .refl st
  | assign field => exact .refl st
  | _ => cases hverb

theorem sparing_call : Sparing (call again sc) := by
  intro c st hc
  cases c with
  | prompt name verb =>
    have hensure : Spares st (st.ensure sc name) := by
      unfold Stage.ensure
      split_ifs
      · exact .refl st
      · exact spares_note rfl
    exact hensure.trans (spares_perform ha hsc name _ hc _)
  | present name => exact (spares_present ha hsc name st).andThen fun _ st' => .refl st'
  | notice message => exact (Spares.of_history rfl).trans (spares_note rfl)

end Calls

/-- **A call that is no trigger closes nothing**, whatever the bound on nesting. -/
theorem sparing_exec (hsc : sc.Passive) (depth : Nat) : Sparing (exec sc depth) := by
  induction depth with
  | zero => exact fun _ st _ => .refl st
  | succ depth ih => exact fun c st hc => sparing_call ih hsc c st hc

theorem sparing_run (hsc : sc.Passive) : Sparing (run sc) := sparing_exec hsc depthLimit

end LinePrompt.Prompt
