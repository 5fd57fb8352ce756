/-
The host application: user input, waiting messages, and the end.

Input goes to the top screen. What it causes there is posted as messages, which the application handles in the order
of their arrival once the input is over; a frame is several inputs with no handling in between. A call from outside
acts at once. A message can post further messages (screens that appear or go), but handling those posts nothing more,
so a few rounds leave the application idle.

A fault that a handler raises inside the application ends it; a fault of a call from outside is the caller's. So does a
dialog that has left the stack before it comes to appear, or whose labels cannot be shown. When the application ends,
the screens still on the stack are removed from the top down, and each removal dismisses a prompt that is still open;
messages that wait by then are never handled.
-/
import LinePrompt.Prompt.Scenario
import LinePrompt.Screen.Dialog

namespace LinePrompt.Screen

open LinePrompt.Prompt

/-! ## Messages -/

/-- a trigger from a dialog, its answer of no further interest -/
def trigger (sc : Scene) (id : Nat) (outcome : Outcome) (st : Stage) : Ran Unit :=
  (close (run sc) sc id outcome st).andThen fun _ st => ⟨.ok (), st⟩

/-- the effect of a pressed control on an open prompt -/
def pressControl (sc : Scene) (id : Nat) : Widget → Stage → Ran Unit
  | .primary, st => trigger sc id .primary st
  | .alternate, st => (Prompt.alternate (run sc) sc id st).andThen fun _ st => ⟨.ok (), st⟩
  | .cancel, st => trigger sc id .cancel st
  | .input, st => ⟨.ok (), st⟩

/-- A dialog becomes visible: its field starts with the prompt's text, the caret where the request wants it. One that
has left the stack by then gets no widgets, and looks for its field in vain. -/
def mountDialog (sc : Scene) (screen : Nat) (modal : Modal) (st : Stage) : Ran Unit :=
  if screen ∈ st.host.stack then
    let request := st.request sc modal.controller
    match labels sc request with
    | .error flaw => ⟨.error (.unshowable flaw.message), st⟩
    | .ok _ =>
      let field := Field.ofText (st.text modal.controller) request.caretStart
      ⟨.ok (), { st with host := st.host.updateModal screen ({ · with mounted := true, field }) }⟩
  else ⟨.error .noField, st⟩

/-- a dialog is gone: a prompt that is still open was taken away by the host, and is dismissed without a second pop -/
def unmountDialog (sc : Scene) (screen : Nat) (modal : Modal) (st : Stage) : Ran Unit :=
  let id := modal.controller
  if (st.phase id).isOpen then
    trigger sc id .dismissed ((st.detach screen).report sc id .debug dialogLogger "removed by host")
  else ⟨.ok (), st⟩

/-- one message -/
def handle (sc : Scene) (message : Message) (st : Stage) : Ran Unit :=
  match message with
  | .mount screen =>
    match st.host.modal? screen with
    | some modal => mountDialog sc screen modal st
    | none => ⟨.ok (), st⟩
  | .changed screen value =>
    match st.host.modal? screen with
    | some modal => ⟨.ok (), st.setText modal.controller value⟩
    | none => ⟨.ok (), st⟩
  | .submitted screen value =>
    match st.host.modal? screen with
    | some modal => trigger sc modal.controller .primary (st.setText modal.controller value)
    | none => ⟨.ok (), st⟩
  | .pressed screen button =>
    match st.host.modal? screen with
    | some modal =>
      if (st.phase modal.controller).isOpen then
        pressControl sc modal.controller button (st.setText modal.controller modal.field.text)
      else ⟨.ok (), st⟩
    | none => ⟨.ok (), st⟩
  | .unmount screen =>
    match st.host.modal? screen with
    | some modal => unmountDialog sc screen modal st
    | none => ⟨.ok (), st⟩

/-- messages in order, up to the first fault -/
def handleAll (sc : Scene) : List Message → Stage → Ran Unit
  | [], st => ⟨.ok (), st⟩
  | m :: rest, st => (handle sc m st).andThen fun _ st => handleAll sc rest st

/-- so many rounds, each of the messages that wait at its beginning -/
def rounds (sc : Scene) : Nat → Stage → Ran Unit
  | 0, st => ⟨.ok (), st⟩
  | n + 1, st =>
    (handleAll sc st.host.queue { st with host := { st.host with queue := [] } }).andThen fun _ st => rounds sc n st

/-- until nothing waits: the messages posted by input, then those of the screens they moved, which post none -/
def settle (sc : Scene) (st : Stage) : Ran Unit := rounds sc 3 st

/-! ## Input -/

/-- A key. The field and the application know more of them: one that opens the palette of commands (ctrl+p), some that
cut the text at the caret (ctrl+u, ctrl+w, ctrl+k), and a paste. Nothing is told of these, they are keys without effect
here. -/
inductive Key where
  | enter
  | escape
  | tab
  | backTab
  | edit (edit : Edit)
  /-- the application's own key to end it -/
  | quit
  /-- a key without effect -/
  | other
deriving DecidableEq, Repr

/-- the key that types a character -/
def Key.ofChar (c : Char) : Key := if Text.isPrintable c then .edit (.insert c) else .other

/-- the key with this name; a name of one character is the character's key -/
def Key.ofName (name : String) : Key :=
  match name with
  | "enter" => .enter
  | "escape" => .escape
  | "tab" => .tab
  | "shift+tab" => .backTab
  | "left" => .edit .left
  | "right" => .edit .right
  | "home" => .edit .home
  | "end" => .edit .goEnd
  | "backspace" => .edit .backspace
  | "delete" => .edit .delete
  | "space" => .edit (.insert ' ')
  | "ctrl+q" => .quit
  | _ =>
    match name.toList with
    | [c] => .ofChar c
    | _ => .other

/-- what a user or the program around the application can do -/
inductive Input where
  | key (key : Key)
  | setField (text : String)
  | button (widget : Widget)
  /-- the same by mouse, which moves the focus too -/
  | click (widget : Widget)
  | clickAside
  | pop
  | call (call : Call)
  | quit
deriving DecidableEq, Repr

/-- one step of a session with the application -/
inductive Gesture where
  | one (input : Input)
  /-- keys one after another, each handled before the next -/
  | keys (keys : List Key)
  /-- inputs with no handling in between -/
  | frame (inputs : List Input)
deriving DecidableEq, Repr

/-- why an input has no effect -/
inductive Refusal where
  | noWidget
  | onlyBaseLeft
  | fault (fault : Fault)
deriving DecidableEq, Repr

def Refusal.message : Refusal → String
  | noWidget => ""
  | onlyBaseLeft => "Can't pop screen; there must be at least one screen on the stack"
  | fault f => f.message

/-- the dialog on top, once it is there to be used -/
def topDialog? (st : Stage) : Option (Nat × Modal) :=
  match st.host.top? with
  | none => none
  | some k =>
    match st.host.modal? k with
    | some m => if m.mounted then some (k, m) else none
    | none => none

/-- the widget after this one, round and round -/
def nextWidget (order : List Widget) (w : Widget) : Widget :=
  match order.dropWhile (· ≠ w) with
  | _ :: next :: _ => next
  | _ => order.headD w

/-- move the focus; a field that gets it has its whole text selected -/
def focusOn (w : Widget) (m : Modal) : Modal :=
  if w = .input then { m with focus := w, field := m.field.selectAll } else { m with focus := w }

def updateDialog (st : Stage) (screen : Nat) (f : Modal → Modal) : Stage :=
  { st with host := st.host.updateModal screen f }

def postMessage (st : Stage) (m : Message) : Stage := { st with host := st.host.post m }

/-- give the field a new state; a changed text is posted -/
def changeField (st : Stage) (screen : Nat) (modal : Modal) (field : Field) : Stage :=
  let st := updateDialog st screen ({ · with field })
  if field.chars = modal.field.chars then st else postMessage st (.changed screen field.text)

/-- a key on a dialog -/
def keyOn (sc : Scene) (screen : Nat) (modal : Modal) (st : Stage) : Key → Ran Unit
  | .escape => if sc.escapeDismisses then trigger sc modal.controller .dismissed st else ⟨.ok (), st⟩
  | .tab =>
    let order := .input :: controls (st.request sc modal.controller)
    ⟨.ok (), updateDialog st screen (focusOn (nextWidget order modal.focus))⟩
  | .backTab =>
    let order := .input :: controls (st.request sc modal.controller)
    ⟨.ok (), updateDialog st screen (focusOn (nextWidget order.reverse modal.focus))⟩
  | .enter =>
    if modal.focus = .input then ⟨.ok (), postMessage st (.submitted screen modal.field.text)⟩
    else ⟨.ok (), postMessage st (.pressed screen modal.focus)⟩
  | .edit e =>
    if modal.focus = .input then ⟨.ok (), changeField st screen modal (modal.field.edit e)⟩ else ⟨.ok (), st⟩
  | .quit => ⟨.ok (), st⟩
  | .other => ⟨.ok (), st⟩

def press (sc : Scene) (key : Key) (st : Stage) : Ran Unit :=
  match topDialog? st with
  | some (screen, modal) => keyOn sc screen modal st key
  | none => ⟨.ok (), st⟩

/-- has the dialog this control? -/
def hasControl (sc : Scene) (st : Stage) (modal : Modal) (w : Widget) : Bool :=
  (controls (st.request sc modal.controller)).contains w

/-- one input, up to but without the handling of what it posts -/
def accept (sc : Scene) (input : Input) (st : Stage) : Ran (Except Refusal Answer) :=
  match input with
  | .key key => (press sc key st).andThen fun _ st => ⟨.ok (.ok .nothing), st⟩
  | .setField text =>
    match topDialog? st with
    | some (screen, modal) => ⟨.ok (.ok .nothing), changeField st screen modal (modal.field.setText text)⟩
    | none => ⟨.ok (.error .noWidget), st⟩
  | .button w =>
    match topDialog? st with
    | some (screen, modal) =>
      if hasControl sc st modal w then ⟨.ok (.ok .nothing), postMessage st (.pressed screen w)⟩
      else ⟨.ok (.error .noWidget), st⟩
    | none => ⟨.ok (.error .noWidget), st⟩
  | .click w =>
    match topDialog? st with
    | some (screen, modal) =>
      if hasControl sc st modal w then
        ⟨.ok (.ok (.flag true)), postMessage (updateDialog st screen (focusOn w)) (.pressed screen w)⟩
      else ⟨.ok (.error .noWidget), st⟩
    | none => ⟨.ok (.error .noWidget), st⟩
  | .clickAside => ⟨.ok (.ok (.flag true)), st⟩
  | .pop =>
    match st.host.stack with
    | [] => ⟨.ok (.error .onlyBaseLeft), st⟩
    | _ :: _ => ⟨.ok (.ok .nothing), st.pop .popped⟩
  | .call c =>
    match run sc c st with
    | ⟨.ok answer, st⟩ => ⟨.ok (.ok answer), st⟩
    | ⟨.error fault, st⟩ => ⟨.ok (.error (.fault fault)), st⟩
  | .quit => ⟨.ok (.ok .nothing), st⟩

/-- inputs with no handling in between, up to the first refusal -/
def acceptAll (sc : Scene) : List Input → Stage → Ran (Except Refusal Answer)
  | [], st => ⟨.ok (.ok .nothing), st⟩
  | i :: rest, st =>
    (accept sc i st).andThen fun
      | .ok _, st => acceptAll sc rest st
      | .error refusal, st => ⟨.ok (.error refusal), st⟩

/-- handle what waits, and keep an answer -/
def settleWith (sc : Scene) (answer : Except Refusal Answer) (st : Stage) : Ran (Except Refusal Answer) :=
  (settle sc st).andThen fun _ st => ⟨.ok answer, st⟩

/-- keys one after another; those after the end of a one-shot application go nowhere -/
def pressAll (sc : Scene) : List Key → Stage → Ran (Except Refusal Answer)
  | [], st => ⟨.ok (.ok .nothing), st⟩
  | k :: rest, st =>
    if st.result.isSome then ⟨.ok (.ok .nothing), st⟩
    else
      (press sc k st).andThen fun _ st =>
      (settle sc st).andThen fun _ st => pressAll sc rest st

/-- one step of a session, until the application is idle again -/
def step (sc : Scene) (gesture : Gesture) (st : Stage) : Ran (Except Refusal Answer) :=
  match gesture with
  | .one input => (accept sc input st).andThen (settleWith sc)
  | .keys keys => pressAll sc keys st
  | .frame inputs => (acceptAll sc inputs st).andThen (settleWith sc)

/-- does this step ask the application to end? -/
def Gesture.quits : Gesture → Bool
  | .one .quit => true
  | .one (.key .quit) => true
  | .keys ks => ks.contains .quit
  | .frame inputs => inputs.contains .quit
  | _ => false

/-! ## A whole session -/

/-- what is seen after a step -/
structure Shot where
  answer : Except Refusal Answer
  /-- the marks of the step, oldest first -/
  marks : List Mark
  stage : Stage

/-- a session from start to end -/
structure Showing where
  /-- after the start, and after each step that the application survived -/
  shots : List Shot
  /-- the fault that ended the application early -/
  crash : Option Fault
  /-- the marks since the last shot, oldest first -/
  marks : List Mark
  stage : Stage

/-- remove screens from the top down; a fault of one removal does not keep the others from happening -/
def removeAll (sc : Scene) : List Nat → Stage → Option Fault × Stage
  | [], st => (none, st)
  | k :: rest, st =>
    let r := handle sc (.unmount k) st
    let (later, st) := removeAll sc rest r.stage
    match r.answer with
    | .ok _ => (later, st)
    | .error fault => (some fault, st)

/-- the end of the application: its screens stay on the stack until all of them are removed -/
def shutDown (sc : Scene) (st : Stage) : Option Fault × Stage :=
  let (fault, st) := removeAll sc st.host.stack st
  (fault, st.clear)

/-- the end of a session, given the fault that caused it and the stage of the last shot -/
def conclude (sc : Scene) (crash : Option Fault) (seen st : Stage) : Showing :=
  let (fault, final) := shutDown sc st
  ⟨[], crash.or fault, seen.marksSince final, final⟩

/-- the steps of a session from an idle application on -/
def continueWith (sc : Scene) : List Gesture → Stage → Showing
  | [], st => conclude sc none st st
  | g :: rest, st =>
    if st.result.isSome then conclude sc none st st
    else
      match step sc g st with
      | ⟨.error fault, after⟩ => conclude sc (some fault) st after
      | ⟨.ok answer, after⟩ =>
        let showing := if g.quits then conclude sc none after after else continueWith sc rest after
        { showing with shots := ⟨answer, st.marksSince after, after⟩ :: showing.shots }

/-- bring prompts up one after another -/
def presentAll (sc : Scene) : List String → Stage → Ran Unit
  | [], st => ⟨.ok (), st⟩
  | name :: rest, st => (run sc (.present name) st).andThen fun _ st => presentAll sc rest st

/-- a session: the prompts that come up at the start, then the steps -/
def playSession (sc : Scene) (names : List String) (gestures : List Gesture) : Showing :=
  match (presentAll sc names .empty).andThen fun _ st => settle sc st with
  | ⟨.error fault, st⟩ => conclude sc (some fault) .empty st
  | ⟨.ok _, st⟩ =>
    let showing := continueWith sc gestures st
    { showing with shots := ⟨.ok .nothing, Stage.empty.marksSince st, st⟩ :: showing.shots }

/-! ## What a screen shows -/

/-- the name of a screen in the stack: a dialog goes by its prompt's name as long as the name stands for it -/
def screenName (st : Stage) (k : Nat) : String :=
  match st.host.screens[k]? with
  | some (.modal m) => if st.isCurrent m.controller then (st.controller m.controller).name else "host"
  | some (.notice message) => "notice:" ++ message
  | none => "host"

/-- the names of the stack, bottom to top -/
def stackNames (st : Stage) : List String := "host" :: st.host.stack.reverse.map (screenName st)

/-- the labels of the dialog on top -/
def topLabels? (sc : Scene) (st : Stage) : Option Labels :=
  match topDialog? st with
  | some (_, modal) => (labels sc (st.request sc modal.controller)).toOption
  | none => none

end LinePrompt.Screen
