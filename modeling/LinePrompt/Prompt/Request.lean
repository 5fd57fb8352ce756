/-
Prompts as their callers describe them, and the scripts their handlers run.

A request names the labels and the handlers of one prompt. A handler is a script: a finite list of actions, each a
call on a prompt or a screen, a raised fault, or an attempt that swallows the fault of another action. Whether a
control exists follows from its handler alone: the alternate control is there when `onAlternate` is.
-/
import LinePrompt.Text.Quoted

namespace LinePrompt.Prompt

/-- which path closed a prompt; `dismissed` is the host's doing, the others are controls -/
inductive Outcome where
  | primary
  | alternate
  | cancel
  | dismissed
deriving DecidableEq, Repr

def Outcome.name : Outcome → String
  | primary => "primary"
  | alternate => "alternate"
  | cancel => "cancel"
  | dismissed => "dismissed"

/-- the kinds of fault a script can raise -/
inductive Kind where
  | value
  | runtime
  | type
  | prompt
  | promptState
  | config
deriving DecidableEq, Repr

/-- what can be asked of one prompt's controller -/
inductive Verb where
  /-- replace the controller by a fresh one -/
  | renew
  /-- bring the prompt up on a scripted surface, by default the one that has the prompt's name -/
  | display (surface : Option String)
  | setText (text : String)
  | primary
  | submit
  | alternate
  | cancel
  | dismiss
  /-- close with an outcome directly; the alternate path is not guarded here -/
  | close (outcome : Outcome)
  | hasAlternate
  /-- the label of the cancel control, given the configured default -/
  | cancelLabel (default : String)
  /-- set a field of the request, which is fixed -/
  | assign (field : String)
deriving DecidableEq, Repr

/-- a call that a script or the outside can make -/
inductive Call where
  | prompt (name : String) (verb : Verb)
  /-- bring a prompt up as a dialog on top of the screen stack, with a fresh controller -/
  | present (name : String)
  /-- put an unrelated screen on top of the stack -/
  | notice (message : String)
deriving DecidableEq, Repr

/-- one action of a script -/
inductive Action where
  | call (call : Call)
  | raise (kind : Kind) (message : String)
  /-- perform the action; its fault is noted and goes no further -/
  | attempt (action : Action)
  /-- keep the text this handler was given as the text of the one-shot application -/
  | keep
  /-- end the one-shot application with this prompt's outcome -/
  | finish
deriving DecidableEq, Repr

abbrev Script := List Action

/-- everything a caller supplies for one prompt -/
structure Request where
  title : String
  primaryLabel : String
  onPrimary : Script
  initialValue : Option String
  alternateLabel : Option String
  onAlternate : Option Script
  cancelLabel : Option String
  onCancel : Option Script
  onClosed : Option Script
deriving DecidableEq, Repr

/-- a request with a title and nothing else -/
def Request.titled (title : String) : Request :=
  ⟨title, "OK", [], none, none, none, none, none, none⟩

namespace Request

def hasAlternate (r : Request) : Bool := r.onAlternate.isSome

/-- the text the field starts with -/
def startText (r : Request) : String := r.initialValue.getD ""

/-- where the caret starts: at the end of the pre-filled text -/
def caretStart (r : Request) : Nat := r.startText.length

/-- the request's own cancel label unless it is missing or empty, else the default -/
def resolvedCancelLabel (r : Request) (default : String) : String :=
  match r.cancelLabel with
  | none => default
  | some label => if label = "" then default else label

/-- the handler that belongs to an outcome -/
def handlerFor (r : Request) : Outcome → Option Script
  | .primary => some r.onPrimary
  | .alternate => r.onAlternate
  | .cancel => r.onCancel
  | .dismissed => none

@[simp] theorem handlerFor_dismissed (r : Request) : r.handlerFor .dismissed = none := rfl

end Request

/-- what a scripted surface does when the prompt comes up on it and when it is closed -/
structure SurfaceScript where
  onShow : Script
  onClose : Script
deriving DecidableEq, Repr

/-- why a call did not return -/
inductive Fault where
  | raised (kind : Kind) (message : String)
  /-- the prompt was brought up a second time; it is open still, or closed -/
  | alreadyShown (title : String) (closed : Bool)
  /-- a request's fields cannot be set -/
  | fixedField (field : String)
  /-- a dialog's labels cannot be shown -/
  | unshowable (message : String)
  /-- a dialog that is no longer on the stack has no field to begin with -/
  | noField
  /-- scripts called each other too deeply -/
  | tooDeep
deriving DecidableEq, Repr

/-- what a fault says -/
def Fault.message : Fault → String
  | raised _ message => message
  | alreadyShown title closed =>
    "Prompt " ++ Text.quoted title ++ " already " ++ (if closed then "closed" else "shown")
  | fixedField field => "cannot assign to field " ++ Text.quoted field
  | unshowable message => message
  | noField => ""
  | tooDeep => "maximum recursion depth exceeded"

/-- what a call gives back -/
inductive Answer where
  | nothing
  | flag (value : Bool)
  | label (text : String)
deriving DecidableEq, Repr

end LinePrompt.Prompt
