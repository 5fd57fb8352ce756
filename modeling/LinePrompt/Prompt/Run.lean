/-
What a call on a prompt does.

A prompt closes once. The first trigger that finds it shown closes it: phase and outcome are set before anything else
runs, then its surface is closed, then the handler of the outcome gets the text, then `onClosed` runs. Every later
trigger finds it closed and is refused, also one that arrives from within those callbacks. A fault ends the callback
it arises in and leaves out those that follow; nothing is undone.

Callbacks are scripts, and scripts call controllers: `exec` ties that knot, with a bound on how deeply calls nest.
`act` and `play` run actions and scripts for any meaning `again` of the calls inside them, so that statements about
one level need no recursion.
-/
import LinePrompt.Prompt.Stage

namespace LinePrompt.Prompt

open LinePrompt.Log LinePrompt.Screen

/-- what a computation gives, or the fault that ended it, and the stage it leaves -/
structure Ran (α : Type) where
  answer : Except Fault α
  stage : Stage

namespace Ran

/-- go on unless there was a fault -/
def andThen {α β : Type} (r : Ran α) (next : α → Stage → Ran β) : Ran β :=
  match r.answer with
  | .ok a => next a r.stage
  | .error f => ⟨.error f, r.stage⟩

@[simp] theorem andThen_ok {α β : Type} (a : α) (st : Stage) (next : α → Stage → Ran β) :
    (Ran.mk (.ok a) st).andThen next = next a st := rfl

@[simp] theorem andThen_error {α β : Type} (f : Fault) (st : Stage) (next : α → Stage → Ran β) :
    (Ran.mk (.error f) st).andThen next = ⟨.error f, st⟩ := rfl

end Ran

/-- the meaning of the calls inside a script -/
abbrev Caller := Call → Stage → Ran Answer

/-- whose callback a script is, and the text it was given -/
structure Cue where
  controller : Nat
  text : String

/-! ## Log records -/

def promptLogger : String := "textprompt.prompt"

def dialogLogger : String := "textprompt.ui.text_prompt_modal"

def appLogger : String := "textprompt.ui.app"

/-- a debugging record of a controller, tagged with its title -/
def Stage.debug (st : Stage) (sc : Scene) (id : Nat) (message : String) (args : List String) : Stage :=
  st.log sc .debug fun _ => .about .debug promptLogger (st.request sc id).title message args

/-- a record of the dialog or the application that names a prompt by its quoted title -/
def Stage.report (st : Stage) (sc : Scene) (id : Nat) (severity : Severity) (logger after : String) : Stage :=
  st.log sc severity fun _ =>
    ⟨severity, logger, .ok ("prompt " ++ Text.quoted (st.request sc id).title ++ " " ++ after)⟩

/-! ## Scripts -/

/-- the result of the one-shot application: the text kept by a handler, or the prompt's own if no handler ran -/
def finishWith (sc : Scene) (cue : Cue) (st : Stage) : Stage :=
  let outcome := (st.phase cue.controller).outcome?.getD .dismissed
  let kept := if outcome = .cancel ∨ outcome = .dismissed then st.text cue.controller else st.kept
  let st := { st with kept }
  let st := st.report sc cue.controller .info appLogger ("finished: " ++ outcome.name)
  { st with result := some (outcome, kept) }

/-- one action of a script -/
def act (again : Caller) (sc : Scene) (cue : Cue) : Action → Stage → Ran Unit
  | .call call, st => (again call st).andThen fun answer st => ⟨.ok (), st.note (.returned call answer)⟩
  | .raise kind message, st => ⟨.error (.raised kind message), st⟩
  | .attempt action, st =>
    match act again sc cue action st with
    | ⟨.ok (), st⟩ => ⟨.ok (), st⟩
    | ⟨.error .tooDeep, st⟩ => ⟨.error .tooDeep, st⟩
    | ⟨.error fault, st⟩ => ⟨.ok (), st.note (.caught fault)⟩
  | .keep, st => ⟨.ok (), { st with kept := cue.text }⟩
  | .finish, st => ⟨.ok (), finishWith sc cue st⟩

/-- a script, up to its end or its first fault -/
def play (again : Caller) (sc : Scene) (cue : Cue) : Script → Stage → Ran Unit
  | [], st => ⟨.ok (), st⟩
  | action :: rest, st => (act again sc cue action st).andThen fun _ st => play again sc cue rest st

/-- a callback of a controller: its body between the marks of its beginning and its end -/
def callback (id : Nat) (cb : Callback) (body : Stage → Ran Unit) (st : Stage) : Ran Unit :=
  (body (st.note (.began id cb))).andThen fun _ st => ⟨.ok (), st.note (.ended id cb)⟩

/-! ## Surfaces -/

/-- take a dialog off the screen stack, if it is on top: another screen is never popped in its place -/
def closeDialog (sc : Scene) (id screen : Nat) (st : Stage) : Stage :=
  if (st.host.modal? screen).any (·.detached) then st
  else if st.host.top? = some screen then st.pop (.closed id)
  else st.report sc id .warning dialogLogger "closed while not the active screen"

/-- what coming up on a surface runs -/
def surfaceShow (again : Caller) (sc : Scene) (id : Nat) : Surface → Stage → Ran Unit
  | .scripted name => play again sc ⟨id, ""⟩ (sc.surface name).onShow
  | .dialog screen => fun st => ⟨.ok (), st.push screen⟩

/-- what leaving a surface runs -/
def surfaceClose (again : Caller) (sc : Scene) (id : Nat) : Surface → Stage → Ran Unit
  | .scripted name => play again sc ⟨id, ""⟩ (sc.surface name).onClose
  | .dialog screen => fun st => ⟨.ok (), closeDialog sc id screen st⟩

/-! ## Controllers -/

/-- bring a prompt up on a surface; only a fresh controller can be brought up -/
def display (again : Caller) (sc : Scene) (id : Nat) (surface : Surface) (st : Stage) : Ran Unit :=
  match st.phase id with
  | .created =>
    callback id (.surfaceShow surface) (surfaceShow again sc id surface)
      ((st.setPhase id (.shown surface)).debug sc id "shown" [])
  | phase => ⟨.error (.alreadyShown (st.request sc id).title phase.isClosed), st⟩

/-- the script that a request has for a callback: the handler of an outcome, or `onClosed` -/
def handlerScript (r : Request) : Callback → Option Script
  | .handler outcome _ => r.handlerFor outcome
  | .onClosed => r.onClosed
  | .surfaceShow _ => none
  | .surfaceClose _ => none

/-- the text that a callback is given -/
def handlerText : Callback → String
  | .handler _ text => text
  | _ => ""

/-- run a handler, if the request has one -/
def runHandler (again : Caller) (sc : Scene) (id : Nat) (r : Request) (cb : Callback) (st : Stage) : Ran Unit :=
  match handlerScript r cb with
  | none => ⟨.ok (), st⟩
  | some script => callback id cb (play again sc ⟨id, handlerText cb⟩ script) st

/-- close a prompt by an outcome; the answer is whether it was open -/
def close (again : Caller) (sc : Scene) (id : Nat) (outcome : Outcome) (st : Stage) : Ran Bool :=
  match st.phase id with
  | .shown surface =>
    let text := st.text id
    let request := st.request sc id
    let st := (st.setPhase id (.closed outcome)).debug sc id "closed via %s" [outcome.name]
    (callback id (.surfaceClose surface) (surfaceClose again sc id surface) st).andThen fun _ st =>
    (runHandler again sc id request (.handler outcome text) st).andThen fun _ st =>
    (runHandler again sc id request .onClosed st).andThen fun _ st =>
    ⟨.ok true, st⟩
  | phase => ⟨.ok false, st.debug sc id "%s trigger ignored: prompt is %s" [outcome.name, phase.name]⟩

/-- the alternate control: refused where there is no handler for it, whatever the phase -/
def alternate (again : Caller) (sc : Scene) (id : Nat) (st : Stage) : Ran Bool :=
  if (st.request sc id).hasAlternate then close again sc id .alternate st
  else ⟨.ok false, st.debug sc id "alternate trigger ignored: no alternate handler" []⟩

/-- an answer to a question of yes or no -/
def Ran.flag (r : Ran Bool) : Ran Answer := r.andThen fun b st => ⟨.ok (.flag b), st⟩

/-- a call that gives nothing back -/
def Ran.silent (r : Ran Unit) : Ran Answer := r.andThen fun _ st => ⟨.ok .nothing, st⟩

/-- a verb on the controller with this number -/
def perform (again : Caller) (sc : Scene) (name : String) (id : Nat) : Verb → Stage → Ran Answer
  | .renew, st => ⟨.ok .nothing, st.create sc name⟩
  | .display surface, st => (display again sc id (.scripted (surface.getD name)) st).silent
  | .setText text, st => ⟨.ok .nothing, st.setText id text⟩
  | .primary, st => (close again sc id .primary st).flag
  | .submit, st => (close again sc id .primary st).flag
  | .alternate, st => (alternate again sc id st).flag
  | .cancel, st => (close again sc id .cancel st).flag
  | .dismiss, st => (close again sc id .dismissed st).flag
  | .close outcome, st => (close again sc id outcome st).flag
  | .hasAlternate, st => ⟨.ok (.flag (st.request sc id).hasAlternate), st⟩
  | .cancelLabel default, st => ⟨.ok (.label ((st.request sc id).resolvedCancelLabel default)), st⟩
  | .assign field, st => ⟨.error (.fixedField field), st⟩

/-- bring a prompt up as a dialog, with a fresh controller -/
def present (again : Caller) (sc : Scene) (name : String) (st : Stage) : Ran Unit :=
  let id := st.controllers.length
  let screen := st.host.screens.length
  let st := st.create sc name
  let modal := Modal.mk id false false (.ofText "" 0) .input
  display again sc id (.dialog screen) { st with host := st.host.prepare (.modal modal) }

/-- put a notice on top of the stack -/
def notice (message : String) (st : Stage) : Stage :=
  { st with host := st.host.prepare (.notice message) }.push st.host.screens.length

/-- a call, given the meaning of the calls inside the scripts it runs -/
def call (again : Caller) (sc : Scene) : Caller
  | .prompt name verb, st =>
    let st := st.ensure sc name
    perform again sc name (st.currentId name) verb st
  | .present name, st => (present again sc name st).silent
  | .notice message, st => ⟨.ok .nothing, notice message st⟩

/-- a call with everything it causes, nesting at most to the given depth -/
def exec (sc : Scene) : Nat → Caller
  | 0, _, st => ⟨.error .tooDeep, st⟩
  | depth + 1, c, st => call (exec sc depth) sc c st

/-- How deeply calls may nest. Calls are counted, and nothing inside of them: a record of the log takes no room, and an
interpreter, which has several frames on its stack for each call, gives up earlier. -/
def depthLimit : Nat := 1000

/-- a call from outside -/
def run (sc : Scene) : Caller := exec sc depthLimit

end LinePrompt.Prompt
