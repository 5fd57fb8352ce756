/-
The state that a run of prompts goes through.

A scene is what is fixed: the requests, the surfaces' scripts, the log threshold and the configured defaults. A stage
is what moves: every controller ever created, which of them each prompt's name stands for at present, the host's
screens, and the history of what happened, newest first. A controller keeps its number for good; a prompt shown again
gets a new one, and the old one lives on. Every change of a controller and of the screen stack is told in the history
at once, so that whoever reads it knows what the stage looked like at each moment of the run.

A controller is created, then shown on a surface, then closed by an outcome. The surface is held exactly while the
prompt is shown and the outcome exactly while it is closed, so both stand in the phase.
-/
import LinePrompt.Log.Record
import LinePrompt.Prompt.Request
import LinePrompt.Screen.Stack

namespace LinePrompt.Prompt

open LinePrompt.Log LinePrompt.Screen

/-- where a prompt is shown -/
inductive Surface where
  | scripted (name : String)
  /-- a dialog, by its screen's number -/
  | dialog (screen : Nat)
deriving DecidableEq, Repr

inductive Phase where
  | created
  | shown (surface : Surface)
  | closed (outcome : Outcome)
deriving DecidableEq, Repr

namespace Phase

def name : Phase → String
  | created => "created"
  | shown _ => "shown"
  | closed _ => "closed"

def isOpen : Phase → Bool
  | shown _ => true
  | _ => false

def isClosed : Phase → Bool
  | closed _ => true
  | _ => false

def outcome? : Phase → Option Outcome
  | closed o => some o
  | _ => none

end Phase

/-- one prompt interaction -/
structure Controller where
  /-- the prompt it was made for -/
  name : String
  phase : Phase
  text : String
deriving DecidableEq, Repr

/-- the callbacks of a controller -/
inductive Callback where
  | surfaceShow (surface : Surface)
  | surfaceClose (surface : Surface)
  /-- the handler of the outcome, with the text it is given -/
  | handler (outcome : Outcome) (text : String)
  | onClosed
deriving DecidableEq, Repr

/-- why a screen left the stack -/
inductive Departure where
  /-- the controller whose dialog it was closed -/
  | closed (controller : Nat)
  /-- the host popped it -/
  | popped
  /-- the application ended -/
  | ended
deriving DecidableEq, Repr

/-- one thing that happened -/
inductive Mark where
  /-- a controller was made for a prompt -/
  | made (controller : Nat) (name : String)
  | moved (controller : Nat) (phase : Phase)
  /-- a text was set, which a closed controller ignores -/
  | texted (controller : Nat) (text : String)
  | pushed (screen : Nat)
  | left (screen : Nat) (why : Departure)
  /-- a dialog found itself taken away while its prompt was open -/
  | detached (screen : Nat)
  | began (controller : Nat) (callback : Callback)
  /-- the callback, with everything it caused, returned normally -/
  | ended (controller : Nat) (callback : Callback)
  /-- a call made by a script returned -/
  | returned (call : Call) (answer : Answer)
  /-- an attempt swallowed a fault -/
  | caught (fault : Fault)
  | logged (record : Record)

/-- what is fixed during a run -/
structure Scene where
  request : String → Request
  surface : String → SurfaceScript
  /-- records below this rank are not made -/
  threshold : Nat
  /-- the configured label of a cancel control -/
  cancelLabel : String
  /-- does the escape key dismiss a dialog? -/
  escapeDismisses : Bool

/-- what moves during a run -/
structure Stage where
  controllers : List Controller
  /-- the number that each prompt's name stands for -/
  current : List (String × Nat)
  host : Host
  /-- what happened, newest first -/
  history : List Mark
  /-- the text last kept for the one-shot application -/
  kept : String
  /-- the one-shot application's result -/
  result : Option (Outcome × String)

/-- what a number stands for that was not given out; nothing refers to it -/
def Controller.blank : Controller := ⟨"", .created, ""⟩

/-- a fresh controller for a prompt -/
def Controller.fresh (sc : Scene) (name : String) : Controller := ⟨name, .created, (sc.request name).startText⟩

namespace Stage

def empty : Stage := ⟨[], [], .empty, [], "", none⟩

/-- note something that happened -/
def note (st : Stage) (m : Mark) : Stage := { st with history := m :: st.history }

/-- make a record if its severity passes the threshold -/
def log (st : Stage) (sc : Scene) (severity : Severity) (record : Unit → Record) : Stage :=
  if sc.threshold ≤ severity.rank then st.note (.logged (record ())) else st

/-- the controller a number stands for -/
def controller (st : Stage) (id : Nat) : Controller := st.controllers.getD id .blank

def phase (st : Stage) (id : Nat) : Phase := (st.controller id).phase

def text (st : Stage) (id : Nat) : String := (st.controller id).text

def request (st : Stage) (sc : Scene) (id : Nat) : Request := sc.request (st.controller id).name

/-- change one controller -/
def update (st : Stage) (id : Nat) (f : Controller → Controller) : Stage :=
  { st with controllers := st.controllers.modify id f }

def setPhase (st : Stage) (id : Nat) (phase : Phase) : Stage :=
  (st.update id ({ · with phase })).note (.moved id phase)

/-- the text moves until the prompt is closed -/
def setText (st : Stage) (id : Nat) (text : String) : Stage :=
  (if (st.phase id).isClosed then st else st.update id ({ · with text })).note (.texted id text)

/-- a fresh controller for a prompt, which its name stands for from now on -/
def create (st : Stage) (sc : Scene) (name : String) : Stage :=
  { st with
    controllers := st.controllers ++ [Controller.fresh sc name]
    current := (name, st.controllers.length) :: st.current.filter (·.1 ≠ name) }.note (.made st.controllers.length name)

/-- put a screen on the stack -/
def push (st : Stage) (screen : Nat) : Stage := { st with host := st.host.push screen }.note (.pushed screen)

/-- take the top screen off the stack -/
def pop (st : Stage) (why : Departure) : Stage :=
  match st.host.top? with
  | none => st
  | some screen => { st with host := st.host.pop }.note (.left screen why)

/-- the screens of an ended application leave, from the top down -/
def clear (st : Stage) : Stage :=
  { st with
    host := { st.host with stack := [] }
    history := (st.host.stack.map (.left · .ended)).reverse ++ st.history }

/-- a dialog was taken away while its prompt was open: closing it must not pop another screen -/
def detach (st : Stage) (screen : Nat) : Stage :=
  { st with host := st.host.updateModal screen ({ · with detached := true }) }.note (.detached screen)

/-- the number a prompt's name stands for -/
def current? (st : Stage) (name : String) : Option Nat := st.current.lookup name

/-- the stage with a controller for the prompt, made now if there is none -/
def ensure (st : Stage) (sc : Scene) (name : String) : Stage :=
  if (st.current? name).isSome then st else st.create sc name

/-- the number a prompt's name stands for, on a stage that has a controller for it -/
def currentId (st : Stage) (name : String) : Nat := (st.current? name).getD 0

/-- does the prompt's name stand for this controller? -/
def isCurrent (st : Stage) (id : Nat) : Bool := st.current? (st.controller id).name == some id

end Stage

end LinePrompt.Prompt
