/-
Records are remarks on prompts.

Whatever an application does, scripts and faults included, a record that it adds to its history is a remark on one of
its prompts (`Said`), and passes the threshold. `Comments` says so of two stages, for one operation after another, and
`said_playSession` of a whole session.
-/
import LinePrompt.Proofs.Log.Formatting
import LinePrompt.Proofs.Screen.Removals

namespace LinePrompt.Screen

open LinePrompt.Log LinePrompt.Prompt

variable {sc : Scene} {st st' st₁ st₂ st₃ : Stage} {id : Nat} {again : Caller}

/-- a remark on a prompt, serious enough to be made -/
structure Said (sc : Scene) (r : Record) : Prop where
  passes : sc.threshold ≤ r.severity.rank
  remark : ∃ name text, Remark (sc.request name).title r text

/-- every record that the later stage has in addition is a remark -/
def Comments (sc : Scene) (st st' : Stage) : Prop :=
  ∀ r, .logged r ∈ st'.history → .logged r ∈ st.history ∨ Said sc r

namespace Comments

theorem refl (sc : Scene) (st : Stage) : Comments sc st st := fun _ h => Or.inl h

theorem trans (h12 : Comments sc st₁ st₂) (h23 : Comments sc st₂ st₃) : Comments sc st₁ st₃ := by
  intro r hr
  rcases h23 r hr with hr | hr
  · exact h12 r hr
  · exact Or.inr hr

theorem of_history (h : st'.history = st.history) : Comments sc st st' := fun _ hr => Or.inl (h ▸ hr)

theorem andThen {α β : Type} {r : Ran α} {next : α → Stage → Ran β} (hr : Comments sc st r.stage)
    (hn : ∀ a st, Comments sc st (next a st).stage) : Comments sc st (r.andThen next).stage := by
  unfold Ran.andThen
  split
  · exact hr.trans (hn _ _)
  · exact hr

end Comments

/-! ## Marks and records -/

theorem comments_note {m : Mark} (hm : ∀ r, m ≠ .logged r) : Comments sc st (st.note m) := by
  intro r hr
  rcases List.mem_cons.1 hr with heq | hr
  · exact absurd heq.symm (hm r)
  · exact Or.inl hr

theorem comments_log {severity : Severity} {record : Unit → Record} {text : String} (name : String)
    (hseverity : (record ()).severity = severity) (h : Remark (sc.request name).title (record ()) text) :
    Comments sc st (st.log sc severity record) := by
  unfold Stage.log
  split_ifs with hpasses
  · intro r hr
    rcases List.mem_cons.1 hr with heq | hr
    · obtain rfl := Mark.logged.inj heq
      exact Or.inr ⟨hseverity ▸ hpasses, name, text, h⟩
    · exact Or.inl hr
  · exact .refl sc st

theorem comments_debug {message text : String} {args : List String}
    (h : Remark (st.request sc id).title (.about .debug promptLogger (st.request sc id).title message args) text) :
    Comments sc st (st.debug sc id message args) :=
  comments_log (st.controller id).name rfl h

theorem comments_report {severity : Severity} {logger after text : String}
    (h : Remark (st.request sc id).title ⟨severity, logger, .ok (named (st.request sc id).title after)⟩ text) :
    Comments sc st (st.report sc id severity logger after) :=
  comments_log (st.controller id).name rfl h

theorem comments_setPhase (id : Nat) (phase : Phase) : Comments sc st (st.setPhase id phase) :=
  (Comments.of_history rfl).trans (comments_note (by simp))

theorem comments_setText (id : Nat) (text : String) : Comments sc st (st.setText id text) := by
  have hhistory := (setText_frame st id text).1
  intro r hr
  rw [hhistory] at hr
  exact comments_note (by simp) r hr

theorem comments_create (name : String) : Comments sc st (st.create sc name) :=
  (Comments.of_history rfl).trans (comments_note (by simp))

theorem comments_push (screen : Nat) : Comments sc st (st.push screen) :=
  (Comments.of_history rfl).trans (comments_note (by simp))

theorem comments_pop (why : Departure) : Comments sc st (st.pop why) := by
  unfold Stage.pop
  split
  · exact .refl sc st
  · exact (Comments.of_history rfl).trans (comments_note (by simp))

theorem comments_detach (screen : Nat) : Comments sc st (st.detach screen) :=
  (Comments.of_history rfl).trans (comments_note (by simp))

/-! ## Scripts -/

theorem comments_finishWith (cue : Cue) : Comments sc st (finishWith sc cue st) := by
  unfold finishWith
  dsimp only
  refine Comments.trans (Comments.of_history rfl) (Comments.trans ?_ (Comments.of_history rfl))
  exact comments_report (.finished _)

/-- a meaning of the calls inside a script under which records are remarks -/
def Polite (sc : Scene) (again : Caller) : Prop := ∀ c st, Comments sc st (again c st).stage

variable (ha : Polite sc again)
include ha

theorem comments_act (cue : Cue) (action : Action) (st : Stage) :
    Comments sc st (act again sc cue action st).stage := by
  induction action with
  | call c => exact (ha c st).andThen fun _ _ => comments_note (by simp)
  | raise kind message => exact .refl sc st
  | attempt action ih =>
    rw [act]
    split
    · rename_i st' he
      rw [he] at ih
      exact ih
    · rename_i st' he
      rw [he] at ih
      exact ih
    · rename_i fault st' _ he
      rw [he] at ih
      exact ih.trans (comments_note (by simp))
  | keep => exact .of_history rfl
  | finish => exact comments_finishWith cue

theorem comments_play (cue : Cue) (script : Script) (st : Stage) :
    Comments sc st (play again sc cue script st).stage := by
  induction script generalizing st with
  | nil => exact .refl sc st
  | cons action rest ih => exact (comments_act ha cue action st).andThen fun _ st => ih st

omit ha in
theorem comments_callback {body : Stage → Ran Unit} (hb : ∀ st, Comments sc st (body st).stage) (id : Nat)
    (cb : Callback) (st : Stage) : Comments sc st (callback id cb body st).stage :=
  ((comments_note (by simp)).trans (hb _)).andThen fun _ _ => comments_note (by simp)

/-! ## Controllers -/

omit ha in
theorem comments_closeDialog (id screen : Nat) (st : Stage) : Comments sc st (closeDialog sc id screen st) := by
  unfold closeDialog
  split_ifs
  · exact .refl sc st
  · exact comments_pop _
  · exact comments_report .covered

theorem comments_display (id : Nat) (surface : Surface) (st : Stage) :
    Comments sc st (display again sc id surface st).stage := by
  unfold display
  split
  · refine (comments_setPhase id _).trans ((comments_debug .shown).trans (comments_callback ?_ id _ _))
    intro st
    cases surface with
    | scripted name => exact comments_play ha _ _ st
    | dialog screen => exact comments_push screen
  · exact .refl sc st

theorem comments_runHandler (id : Nat) (r : Request) (cb : Callback) (st : Stage) :
    Comments sc st (runHandler again sc id r cb st).stage := by
  unfold runHandler
  split
  · exact .refl sc st
  · exact comments_callback (fun st => comments_play ha _ _ st) id cb st

theorem comments_close (id : Nat) (o : Outcome) (st : Stage) : Comments sc st (close again sc id o st).stage := by
  unfold close
  split
  · rename_i surface _
    have hsurface : ∀ st, Comments sc st (surfaceClose again sc id surface st).stage := by
      intro st
      cases surface with
      | scripted name => exact comments_play ha _ _ st
      | dialog screen => exact comments_closeDialog id screen st
    have hclosed : Comments sc st ((st.setPhase id (.closed o)).debug sc id "closed via %s" [o.name]) :=
      (comments_setPhase id _).trans (comments_debug (.closed o))
    refine hclosed.trans ((comments_callback hsurface id _ _).andThen fun _ st => ?_)
    refine (comments_runHandler ha id _ _ st).andThen fun _ st => ?_
    exact (comments_runHandler ha id _ _ st).andThen fun _ st => .refl sc st
  · exact comments_debug (.ignored o _)

theorem comments_alternate (id : Nat) (st : Stage) : Comments sc st (alternate again sc id st).stage := by
  unfold alternate
  split_ifs
  · exact comments_close ha id .alternate st
  · exact comments_debug .refused

theorem comments_perform (name : String) (id : Nat) (verb : Verb) (st : Stage) :
    Comments sc st (perform again sc name id verb st).stage := by
  have hclose (o : Outcome) : Comments sc st (close again sc id o st).flag.stage :=
    (comments_close ha id o st).andThen fun _ st => .refl sc st
  cases verb with
  | renew => exact comments_create name
  | display surface => exact (comments_display ha id _ st).andThen fun _ st => .refl sc st
  | setText text => exact comments_setText id text
  | primary => exact hclose .primary
  | submit => exact hclose .primary
  | alternate => exact (comments_alternate ha id st).andThen fun _ st => .refl sc st
  | cancel => exact hclose .cancel
  | dismiss => exact hclose .dismissed
  | close o => exact hclose o
  | hasAlternate => exact .refl sc st
  | cancelLabel default => exact .refl sc st
  | assign field => exact .refl sc st

theorem polite_call : Polite sc (call again sc) := by
  intro c st
  cases c with
  | prompt name verb =>
    have hensure : Comments sc st (st.ensure sc name) := by
      unfold Stage.ensure
      split_ifs
      · exact .refl sc st
      · exact comments_create name
    exact hensure.trans (comments_perform ha name _ verb _)
  | present name =>
    have hpresent : Comments sc st (present again sc name st).stage :=
      ((comments_create name).trans (.of_history rfl)).trans (comments_display ha _ _ _)
    exact hpresent.andThen fun _ st => .refl sc st
  | notice message => exact (Comments.of_history rfl).trans (comments_push _)

omit ha in
theorem polite_exec (sc : Scene) (depth : Nat) : Polite sc (exec sc depth) := by
  induction depth with
  | zero => exact fun _ st => .refl sc st
  | succ depth ih => exact polite_call ih

omit ha in
theorem polite_run (sc : Scene) : Polite sc (Prompt.run sc) := polite_exec sc depthLimit

/-! ## Messages -/

omit ha

theorem comments_trigger (id : Nat) (o : Outcome) (st : Stage) : Comments sc st (trigger sc id o st).stage :=
  (comments_close (polite_run sc) id o st).andThen fun _ st => .refl sc st

theorem comments_pressControl (id : Nat) (w : Widget) (st : Stage) :
    Comments sc st (pressControl sc id w st).stage := by
  cases w with
  | primary => exact comments_trigger id .primary st
  | alternate => exact (comments_alternate (polite_run sc) id st).andThen fun _ st => .refl sc st
  | cancel => exact comments_trigger id .cancel st
  | input => exact .refl sc st

theorem comments_mountDialog (screen : Nat) (modal : Modal) (st : Stage) :
    Comments sc st (mountDialog sc screen modal st).stage := by
  unfold mountDialog
  dsimp only
  split_ifs
  · split
    · exact .refl sc st
    · exact .of_history rfl
  · exact .refl sc st

theorem comments_unmountDialog (screen : Nat) (modal : Modal) (st : Stage) :
    Comments sc st (unmountDialog sc screen modal st).stage := by
  unfold unmountDialog
  dsimp only
  split_ifs
  · have htold : Comments sc st
        ((st.detach screen).report sc modal.controller .debug dialogLogger "removed by host") :=
      (comments_detach screen).trans (comments_report .removed)
    exact htold.trans (comments_trigger _ _ _)
  · exact .refl sc st

theorem comments_handle (m : Message) (st : Stage) : Comments sc st (handle sc m st).stage := by
  unfold handle
  split
  · split
    · exact comments_mountDialog _ _ st
    · exact .refl sc st
  · split
    · exact comments_setText _ _
    · exact .refl sc st
  · split
    · exact (comments_setText _ _).trans (comments_trigger _ _ _)
    · exact .refl sc st
  · split
    · split_ifs
      · exact (comments_setText _ _).trans (comments_pressControl _ _ _)
      · exact .refl sc st
    · exact .refl sc st
  · split
    · exact comments_unmountDialog _ _ st
    · exact .refl sc st

theorem comments_handleAll (ms : List Message) (st : Stage) : Comments sc st (handleAll sc ms st).stage := by
  induction ms generalizing st with
  | nil => exact .refl sc st
  | cons m rest ih => exact (comments_handle m st).andThen fun _ st => ih st

theorem comments_rounds (n : Nat) (st : Stage) : Comments sc st (rounds sc n st).stage := by
  induction n generalizing st with
  | zero => exact .refl sc st
  | succ n ih =>
    have hround : Comments sc st
        (handleAll sc st.host.queue { st with host := { st.host with queue := [] } }).stage :=
      Comments.trans (.of_history rfl) (comments_handleAll st.host.queue _)
    exact hround.andThen fun _ st => ih st

theorem comments_settle (st : Stage) : Comments sc st (settle sc st).stage := comments_rounds 3 st

/-! ## Inputs -/

theorem comments_updateDialog (screen : Nat) (f : Modal → Modal) : Comments sc st (updateDialog st screen f) :=
  .of_history rfl

theorem comments_post (m : Message) : Comments sc st (postMessage st m) := .of_history rfl

theorem comments_changeField (screen : Nat) (modal : Modal) (field : Field) :
    Comments sc st (changeField st screen modal field) := by
  unfold changeField
  dsimp only
  split_ifs <;> exact .of_history rfl

theorem comments_press (k : Key) (st : Stage) : Comments sc st (press sc k st).stage := by
  unfold press
  split
  · rename_i screen modal _
    unfold keyOn
    split
    · split_ifs
      · exact comments_trigger _ _ st
      · exact .refl sc st
    · exact comments_updateDialog _ _
    · exact comments_updateDialog _ _
    · split_ifs <;> exact comments_post _
    · split_ifs
      · exact comments_changeField _ _ _
      · exact .refl sc st
    · exact .refl sc st
    · exact .refl sc st
  · exact .refl sc st

theorem comments_accept (i : Input) (st : Stage) : Comments sc st (accept sc i st).stage := by
  unfold accept
  split
  · exact (comments_press _ st).andThen fun _ st => .refl sc st
  · split
    · exact comments_changeField _ _ _
    · exact .refl sc st
  · split
    · split_ifs
      · exact comments_post _
      · exact .refl sc st
    · exact .refl sc st
  · split
    · split_ifs
      · exact (comments_updateDialog _ _).trans (comments_post _)
      · exact .refl sc st
    · exact .refl sc st
  · exact .refl sc st
  · split
    · exact .refl sc st
    · exact comments_pop _
  · rename_i c
    have hcall := polite_run sc c st
    split
    · rename_i answer st' he
      rw [he] at hcall
      exact hcall
    · rename_i fault st' he
      rw [he] at hcall
      exact hcall
  · exact .refl sc st

theorem comments_acceptAll (inputs : List Input) (st : Stage) : Comments sc st (acceptAll sc inputs st).stage := by
  induction inputs generalizing st with
  | nil => exact .refl sc st
  | cons i rest ih =>
    refine (comments_accept i st).andThen fun answer st => ?_
    cases answer with
    | ok answer => exact ih st
    | error refusal => exact .refl sc st

theorem comments_settleWith (answer : Except Refusal Answer) (st : Stage) :
    Comments sc st (settleWith sc answer st).stage :=
  (comments_settle st).andThen fun _ st => .refl sc st

theorem comments_pressAll (keys : List Key) (st : Stage) : Comments sc st (pressAll sc keys st).stage := by
  induction keys generalizing st with
  | nil => exact .refl sc st
  | cons k rest ih =>
    unfold pressAll
    split_ifs
    · exact .refl sc st
    · exact (comments_press k st).andThen fun _ st => (comments_settle st).andThen fun _ st => ih st

theorem comments_step (g : Gesture) (st : Stage) : Comments sc st (step sc g st).stage := by
  cases g with
  | one input => exact (comments_accept input st).andThen fun a st => comments_settleWith a st
  | keys keys => exact comments_pressAll keys st
  | frame inputs => exact (comments_acceptAll inputs st).andThen fun a st => comments_settleWith a st

/-! ## Sessions -/

theorem comments_removeAll (ks : List Nat) (st : Stage) : Comments sc st (removeAll sc ks st).2 := by
  induction ks generalizing st with
  | nil => exact .refl sc st
  | cons k rest ih =>
    rw [removeAll_cons]
    exact (comments_handle _ st).trans (ih _)

/-- the screens that leave at the end leave no records -/
theorem comments_clear (st : Stage) : Comments sc st st.clear := by
  intro r hr
  exact Or.inl (by simpa [Stage.clear] using hr)

theorem comments_shutDown (st : Stage) : Comments sc st (shutDown sc st).2 :=
  (comments_removeAll st.host.stack st).trans (comments_clear _)

theorem comments_lastFrom (gestures : List Gesture) (st : Stage) : Comments sc st (lastFrom sc gestures st) := by
  induction gestures generalizing st with
  | nil => exact .refl sc st
  | cons g rest ih =>
    have hstep : Comments sc st (step sc g st).stage := comments_step g st
    unfold lastFrom
    by_cases hresult : st.result.isSome = true
    · rw [if_pos hresult]
      exact .refl sc st
    · rw [if_neg hresult]
      split
      · rename_i fault after he
        rw [he] at hstep
        exact hstep
      · rename_i answer after he
        rw [he] at hstep
        split_ifs
        · exact hstep
        · exact hstep.trans (ih after)

theorem comments_presentAll (names : List String) (st : Stage) : Comments sc st (presentAll sc names st).stage := by
  induction names generalizing st with
  | nil => exact .refl sc st
  | cons name rest ih => exact (polite_run sc (.present name) st).andThen fun _ st => ih st

/-- **Every record of a session is a remark on one of its prompts**, whatever the session goes through. -/
theorem said_playSession (sc : Scene) (names : List String) (gestures : List Gesture) (r : Record)
    (hr : .logged r ∈ (playSession sc names gestures).stage.history) : Said sc r := by
  have hstart : Comments sc .empty ((presentAll sc names .empty).andThen fun _ st => settle sc st).stage :=
    (comments_presentAll names .empty).andThen fun _ st => comments_settle st
  have hlast : Comments sc .empty (lastStage sc names gestures) := by
    unfold lastStage
    split
    · rename_i fault st he
      rw [he] at hstart
      exact hstart
    · rename_i u st he
      rw [he] at hstart
      exact hstart.trans (comments_lastFrom gestures st)
  rw [stage_playSession] at hr
  rcases (hlast.trans (comments_shutDown _)) r hr with hin | hsaid
  · exact absurd hin List.not_mem_nil
  · exact hsaid

end LinePrompt.Screen
