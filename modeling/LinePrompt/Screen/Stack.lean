/-
The screens of a host application: a base screen that never goes away, and dialogs and notices stacked on it.

Every screen that was ever pushed keeps its number for good, also when it has left the stack: a dialog may still be
asked to close after that. The stack lists the numbers of the screens above the base, top first. Messages wait in a
queue until the application handles them, oldest first: a screen that appeared or was removed, a changed field, a
pressed control.
-/
import LinePrompt.Screen.Field

namespace LinePrompt.Screen

/-- the parts of a dialog that can have the focus -/
inductive Widget where
  | input
  | primary
  | alternate
  | cancel
deriving DecidableEq, Repr

def Widget.id : Widget → String
  | input => "prompt-input"
  | primary => "prompt-primary"
  | alternate => "prompt-alternate"
  | cancel => "prompt-cancel"

/-- a prompt's dialog -/
structure Modal where
  /-- the number of the controller that drives it -/
  controller : Nat
  /-- the host took the dialog away while its prompt was open: closing it must not pop another screen -/
  detached : Bool
  /-- the dialog's widgets exist only after its first message -/
  mounted : Bool
  field : Field
  focus : Widget
deriving DecidableEq, Repr

inductive Layer where
  | modal (modal : Modal)
  | notice (message : String)
deriving DecidableEq, Repr

inductive Message where
  | mount (screen : Nat)
  | changed (screen : Nat) (value : String)
  | submitted (screen : Nat) (value : String)
  | pressed (screen : Nat) (button : Widget)
  | unmount (screen : Nat)
deriving DecidableEq, Repr

/-- the screens of an application and its waiting messages -/
structure Host where
  /-- every screen ever pushed, by number -/
  screens : List Layer
  /-- numbers of the screens above the base, top first -/
  stack : List Nat
  /-- waiting messages, oldest first -/
  queue : List Message
deriving DecidableEq, Repr

namespace Host

/-- an application with its base screen alone -/
def empty : Host := ⟨[], [], []⟩

def top? (h : Host) : Option Nat := h.stack.head?

def modal? (h : Host) (k : Nat) : Option Modal :=
  match h.screens[k]? with
  | some (.modal m) => some m
  | _ => none

def post (h : Host) (m : Message) : Host := { h with queue := h.queue ++ [m] }

/-- make a screen that is not on the stack yet -/
def prepare (h : Host) (s : Layer) : Host := { h with screens := h.screens ++ [s] }

/-- put screen `k` on top; it appears when its message is handled -/
def push (h : Host) (k : Nat) : Host := ({ h with stack := k :: h.stack }).post (.mount k)

/-- change screen `k` if it is a dialog -/
def updateModal (h : Host) (k : Nat) (f : Modal → Modal) : Host :=
  match h.modal? k with
  | some m => { h with screens := h.screens.set k (.modal (f m)) }
  | none => h

/-- a dialog that comes back to the top has its caret where it was and nothing selected -/
def resume (h : Host) : Host :=
  match h.stack with
  | [] => h
  | k :: _ => h.updateModal k fun m => { m with field := m.field.deselect }

/-- take the top screen away; it notices when its message is handled -/
def pop (h : Host) : Host :=
  match h.stack with
  | [] => h
  | k :: rest => (({ h with stack := rest }).post (.unmount k)).resume

theorem modal?_eq_some {h : Host} {k : Nat} {m : Modal} : h.modal? k = some m ↔ h.screens[k]? = some (.modal m) := by
  unfold modal?
  split <;> simp_all

theorem lt_of_modal? {h : Host} {k : Nat} {m : Modal} (hm : h.modal? k = some m) : k < h.screens.length := by
  rw [modal?_eq_some] at hm
  exact (List.getElem?_eq_some_iff.1 hm).1

@[simp] theorem modal?_push (h : Host) (k j : Nat) : (h.push k).modal? j = h.modal? j := rfl

@[simp] theorem modal?_post (h : Host) (m : Message) (j : Nat) : (h.post m).modal? j = h.modal? j := rfl

theorem modal?_prepare (h : Host) (s : Layer) (j : Nat) (hj : j < h.screens.length) :
    (h.prepare s).modal? j = h.modal? j := by
  unfold modal? prepare
  rw [List.getElem?_append_left hj]

@[simp] theorem modal?_prepare_self (h : Host) (m : Modal) :
    (h.prepare (.modal m)).modal? h.screens.length = some m := by
  simp [modal?_eq_some, prepare]

theorem modal?_updateModal (h : Host) (k : Nat) (f : Modal → Modal) (j : Nat) :
    (h.updateModal k f).modal? j = if j = k then (h.modal? k).map f else h.modal? j := by
  unfold updateModal
  split
  · rename_i m hm
    have hk := lt_of_modal? hm
    by_cases hj : j = k
    · subst hj
      simp [hm, modal?_eq_some, hk]
    · simp [modal?, hj, List.getElem?_set_ne (Ne.symm hj)]
  · rename_i hm
    by_cases hj : j = k
    · simp [hj, hm]
    · simp [hj]

@[simp] theorem length_updateModal (h : Host) (k : Nat) (f : Modal → Modal) :
    (h.updateModal k f).screens.length = h.screens.length := by
  unfold updateModal
  split <;> simp

@[simp] theorem queue_updateModal (h : Host) (k : Nat) (f : Modal → Modal) :
    (h.updateModal k f).queue = h.queue := by
  unfold updateModal
  split <;> rfl

@[simp] theorem stack_push (h : Host) (k : Nat) : (h.push k).stack = k :: h.stack := rfl

@[simp] theorem stack_post (h : Host) (m : Message) : (h.post m).stack = h.stack := rfl

@[simp] theorem stack_prepare (h : Host) (s : Layer) : (h.prepare s).stack = h.stack := rfl

@[simp] theorem stack_updateModal (h : Host) (k : Nat) (f : Modal → Modal) : (h.updateModal k f).stack = h.stack := by
  unfold updateModal
  split <;> rfl

@[simp] theorem stack_resume (h : Host) : h.resume.stack = h.stack := by
  unfold resume
  split <;> simp_all

@[simp] theorem length_resume (h : Host) : h.resume.screens.length = h.screens.length := by
  unfold resume
  split <;> simp

@[simp] theorem queue_resume (h : Host) : h.resume.queue = h.queue := by
  unfold resume
  split <;> simp

@[simp] theorem stack_pop (h : Host) : h.pop.stack = h.stack.tail := by
  unfold pop
  split <;> simp_all

end Host

end LinePrompt.Screen
