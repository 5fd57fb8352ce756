/-
What a call runs, and the calls that are made inside of it.

A call that brings a prompt up or closes one runs callbacks in turn, and that is its errand (`Call.errand?`); any other
call runs nothing. A callback runs a script, and the script comes to each of its actions once those in front of it have
returned (`Errand.Reaches`). So the calls of a run are those from outside, and over and over those that an action asks
for within the errand of another (`Occasion.Makes`, `MadeIn`).

- `close_eq`, `display_eq`: closing a prompt and bringing one up are their errands.
- `Up.had`: between two callbacks of a closing, the controller has had those that returned and no others.
- `Sound.reached`, `sound_of_madeIn`: every action is reached, and every call made, on a sound stage.
-/
import Mathlib.Logic.Relation
import LinePrompt.Proofs.Prompt.Callbacks
import LinePrompt.Proofs.Prompt.Circles
import LinePrompt.Proofs.Prompt.Sends

namespace LinePrompt.Prompt

open LinePrompt.Log LinePrompt.Screen

variable {sc : Scene} {st st' last before : Stage} {id depth : Nat} {again : Caller} {r : Request} {s : Surface}
  {o : Outcome} {f : Fault} {cb : Callback} {cbs done rest : List Callback}

/-! ## Computations one after another -/

theorem Ran.andThen_assoc {α β γ : Type} (r : Ran α) (next : α → Stage → Ran β) (next' : β → Stage → Ran γ) :
    (r.andThen next).andThen next' = r.andThen fun a st => (next a st).andThen next' := by
  rcases r with ⟨_ | _, st⟩ <;> rfl

theorem Ran.andThen_done (r : Ran Unit) : (r.andThen fun _ st => ⟨.ok (), st⟩) = r := by
  rcases r with ⟨_ | _, st⟩ <;> rfl

theorem Ran.stage_andThen {α β : Type} (r : Ran α) (b : β) :
    (r.andThen fun _ st => (⟨.ok b, st⟩ : Ran β)).stage = r.stage := by
  unfold Ran.andThen
  split <;> rfl

/-! ## Callbacks in turn -/

/-- the script that a callback runs; what a dialog does is none -/
def Callback.script (sc : Scene) (r : Request) : Callback → Script
  | .surfaceShow (.scripted place) => (sc.surface place).onShow
  | .surfaceClose (.scripted place) => (sc.surface place).onClose
  | cb => (handlerScript r cb).getD []

/-- what a callback runs between its beginning and its end -/
def body (again : Caller) (sc : Scene) (id : Nat) (r : Request) : Callback → Stage → Ran Unit
  | .surfaceShow s => surfaceShow again sc id s
  | .surfaceClose s => surfaceClose again sc id s
  | cb => play again sc ⟨id, handlerText cb⟩ (cb.script sc r)

/-- callbacks of a controller, each after the end of the one before -/
def inTurn (again : Caller) (sc : Scene) (id : Nat) (r : Request) : List Callback → Stage → Ran Unit
  | [], st => ⟨.ok (), st⟩
  | cb :: rest, st => (callback id cb (body again sc id r cb) st).andThen fun _ st => inTurn again sc id r rest st

/-- the marks of callbacks that returned -/
def marksOf (id : Nat) (cbs : List Callback) : List Mark := cbs.flatMap fun cb => [.began id cb, .ended id cb]

@[simp] theorem marksOf_append (id : Nat) (cbs cbs' : List Callback) :
    marksOf id (cbs ++ cbs') = marksOf id cbs ++ marksOf id cbs' := List.flatMap_append

@[simp] theorem marksOf_cons (id : Nat) (cb : Callback) (cbs : List Callback) :
    marksOf id (cb :: cbs) = .began id cb :: .ended id cb :: marksOf id cbs := rfl

/-- is this what a dialog does when its prompt comes up or is closed? -/
def Callback.isDialog : Callback → Bool
  | .surfaceShow (.dialog _) => true
  | .surfaceClose (.dialog _) => true
  | _ => false

theorem body_of_script (h : cb.isDialog = false) :
    body again sc id r cb = play again sc ⟨id, handlerText cb⟩ (cb.script sc r) := by
  cases cb with
  | surfaceShow s => cases s with
    | scripted place => rfl
    | dialog k => cases h
  | surfaceClose s => cases s with
    | scripted place => rfl
    | dialog k => cases h
  | handler o t => rfl
  | onClosed => rfl

/-- what a dialog does needs no script -/
theorem script_of_dialog (h : cb.isDialog) : cb.script sc r = [] := by
  cases cb with
  | surfaceShow s => cases s with
    | scripted place => cases h
    | dialog k => rfl
  | surfaceClose s => cases s with
    | scripted place => cases h
    | dialog k => rfl
  | _ => cases h

/-- what a dialog does never fails -/
theorem body_of_dialog (h : cb.isDialog) : (body again sc id r cb st).answer = .ok () := by
  cases cb with
  | surfaceShow s => cases s with
    | scripted place => cases h
    | dialog k => rfl
  | surfaceClose s => cases s with
    | scripted place => cases h
    | dialog k => rfl
  | _ => cases h

theorem script_ne_nil (h : cb.script sc r ≠ []) : cb.isDialog = false := by
  by_contra hd
  exact h (script_of_dialog (by simpa using hd))

/-- a handler that the request has is run as any callback is, and one that it has not is left out -/
theorem runHandler_eq (hcb : ∀ s, cb ≠ .surfaceShow s ∧ cb ≠ .surfaceClose s) :
    runHandler again sc id r cb st = inTurn again sc id r ([cb].filter fun cb => (handlerScript r cb).isSome) st := by
  unfold runHandler
  cases hscript : handlerScript r cb with
  | none => simp [hscript, inTurn]
  | some script =>
    have hbody : body again sc id r cb = play again sc ⟨id, handlerText cb⟩ script := by
      cases cb with
      | surfaceShow s => exact absurd rfl (hcb s).1
      | surfaceClose s => exact absurd rfl (hcb s).2
      | _ => simp [body, Callback.script, hscript]
    simp only [List.filter_cons, hscript, Option.isSome_some, if_true, List.filter_nil, inTurn, hbody, Ran.andThen_done]

theorem inTurn_append (cbs cbs' : List Callback) (st : Stage) :
    inTurn again sc id r (cbs ++ cbs') st =
      (inTurn again sc id r cbs st).andThen fun _ st => inTurn again sc id r cbs' st := by
  induction cbs generalizing st with
  | nil => rfl
  | cons cb cbs ih => simp only [List.cons_append, inTurn, ih, Ran.andThen_assoc]

theorem callback_eq_error :
    callback id cb (body again sc id r cb) st = ⟨.error f, last⟩ ↔
      body again sc id r cb (st.note (.began id cb)) = ⟨.error f, last⟩ := by
  unfold callback
  rcases body again sc id r cb (st.note (.began id cb)) with ⟨_ | _, st'⟩ <;> simp

/-- Callbacks in turn end by a fault in one of them, once those before it have returned. -/
theorem inTurn_eq_error :
    inTurn again sc id r cbs st = ⟨.error f, last⟩ ↔
      ∃ done cb rest before, cbs = done ++ cb :: rest ∧ inTurn again sc id r done st = ⟨.ok (), before⟩ ∧
        body again sc id r cb (before.note (.began id cb)) = ⟨.error f, last⟩ := by
  constructor
  · intro h
    induction cbs generalizing st with
    | nil => cases h
    | cons cb cbs ih =>
      rcases hcb : callback id cb (body again sc id r cb) st with ⟨f' | _, st'⟩
      · simp only [inTurn, hcb, Ran.andThen_error] at h
        exact ⟨[], cb, cbs, st, rfl, rfl, callback_eq_error.1 (hcb.trans h)⟩
      · simp only [inTurn, hcb, Ran.andThen_ok] at h
        obtain ⟨done, cb', rest, before, rfl, hdone, hbody⟩ := ih h
        exact ⟨cb :: done, cb', rest, before, rfl, by simp only [inTurn, hcb, Ran.andThen_ok, hdone], hbody⟩
  · rintro ⟨done, cb, rest, before, rfl, hdone, hbody⟩
    rw [inTurn_append, hdone, Ran.andThen_ok, inTurn, callback_eq_error.2 hbody, Ran.andThen_error]

/-! ## Errands -/

/-- the callbacks that a call runs, whose they are, and the stage that the first of them finds -/
structure Errand where
  controller : Nat
  request : Request
  callbacks : List Callback
  start : Stage

/-- the errand of bringing a prompt up -/
def showing (sc : Scene) (id : Nat) (s : Surface) (st : Stage) : Errand :=
  ⟨id, st.request sc id, [.surfaceShow s], (st.setPhase id (.shown s)).debug sc id "shown" []⟩

/-- the errand of closing a prompt that is up on a surface -/
def leaving (sc : Scene) (id : Nat) (s : Surface) (o : Outcome) (st : Stage) : Errand :=
  ⟨id, st.request sc id, closing (st.request sc id) s o (st.text id),
    (st.setPhase id (.closed o)).debug sc id "closed via %s" [o.name]⟩

namespace Errand

def run (again : Caller) (sc : Scene) (e : Errand) : Ran Unit :=
  inTurn again sc e.controller e.request e.callbacks e.start

end Errand

theorem display_eq (hp : st.phase id = .created) :
    display again sc id s st = (showing sc id s st).run again sc := by
  unfold display
  simp only [hp, Errand.run, showing, inTurn, body, Ran.andThen_done]

theorem close_eq (hp : st.phase id = .shown s) :
    close again sc id o st = ((leaving sc id s o st).run again sc).andThen fun _ st => ⟨.ok true, st⟩ := by
  have hsplit : closing (st.request sc id) s o (st.text id) =
      [.surfaceClose s] ++ ([.handler o (st.text id)].filter fun cb => (handlerScript (st.request sc id) cb).isSome) ++
        [.onClosed].filter fun cb => (handlerScript (st.request sc id) cb).isSome := by
    rw [List.append_assoc, ← List.filter_append]
    rfl
  unfold close
  simp only [hp, Errand.run, leaving]
  have hhandler (st' : Stage) : runHandler again sc id (st.request sc id) (.handler o (st.text id)) st' = _ :=
    runHandler_eq (by simp)
  have honClosed (st' : Stage) : runHandler again sc id (st.request sc id) .onClosed st' = _ := runHandler_eq (by simp)
  rw [hsplit, inTurn_append, inTurn_append]
  simp only [← hhandler, ← honClosed, inTurn, body, Ran.andThen_done, Ran.andThen_assoc]

/-- the outcome that a verb closes a prompt by; the alternate control does so only where there is a handler for it -/
def Verb.outcome? (r : Request) : Verb → Option Outcome
  | .primary => some .primary
  | .submit => some .primary
  | .alternate => if r.hasAlternate then some .alternate else none
  | .cancel => some .cancel
  | .dismiss => some .dismissed
  | .close o => some o
  | _ => none

/-- what a verb runs on the controller with this number -/
def Verb.errand? (sc : Scene) (name : String) (id : Nat) (st : Stage) (verb : Verb) : Option Errand :=
  match verb, st.phase id with
  | .display place, .created => some (showing sc id (.scripted (place.getD name)) st)
  | verb, .shown s => (verb.outcome? (st.request sc id)).map fun o => leaving sc id s o st
  | _, _ => none

/-- what a call runs; a dialog that comes up runs nothing -/
def Call.errand? (sc : Scene) (st : Stage) : Call → Option Errand
  | .prompt name verb => verb.errand? sc name ((st.ensure sc name).currentId name) (st.ensure sc name)
  | .present _ => none
  | .notice _ => none

/-- Calls that fail by themselves: they nest too deeply, set a field of a request, or bring a prompt up again. The stage
is the one that they leave. -/
inductive Call.Fails (sc : Scene) : Nat → Call → Stage → Fault → Stage → Prop where
  | tooDeep {c : Call} {st : Stage} : Fails sc 0 c st .tooDeep st
  | fixedField {depth : Nat} {name field : String} {st : Stage} :
    Fails sc (depth + 1) (.prompt name (.assign field)) st (.fixedField field) (st.ensure sc name)
  | alreadyShown {depth id : Nat} {name : String} {place : Option String} {st st' : Stage}
    (ensured : st.ensure sc name = st') (stands : st'.currentId name = id) (found : st'.phase id ≠ .created) :
    Fails sc (depth + 1) (.prompt name (.display place)) st
      (.alreadyShown (st'.request sc id).title (st'.phase id).isClosed) st'

theorem Ran.flag_eq_error {x : Ran Bool} : x.flag = ⟨.error f, last⟩ ↔ x = ⟨.error f, last⟩ := by
  rcases x with ⟨_ | _, st⟩ <;> simp [Ran.flag]

theorem Ran.silent_eq_error {x : Ran Unit} : x.silent = ⟨.error f, last⟩ ↔ x = ⟨.error f, last⟩ := by
  rcases x with ⟨_ | _, st⟩ <;> simp [Ran.silent]

theorem Ran.andThen_ok_eq_error {α : Type} {x : Ran Unit} {a : α} :
    (x.andThen fun _ st => (⟨.ok a, st⟩ : Ran α)) = ⟨.error f, last⟩ ↔ x = ⟨.error f, last⟩ := by
  rcases x with ⟨_ | _, st⟩ <;> simp

/-- a trigger fails where its errand does -/
theorem close_eq_error :
    close again sc id o st = ⟨.error f, last⟩ ↔
      ∃ s, st.phase id = .shown s ∧ (leaving sc id s o st).run again sc = ⟨.error f, last⟩ := by
  cases hp : st.phase id with
  | shown s => simp [close_eq hp, Ran.andThen_ok_eq_error]
  | _ => simp [close, hp]

theorem display_eq_error :
    display again sc id s st = ⟨.error f, last⟩ ↔
      (st.phase id = .created ∧ (showing sc id s st).run again sc = ⟨.error f, last⟩) ∨
        st.phase id ≠ .created ∧ f = .alreadyShown (st.request sc id).title (st.phase id).isClosed ∧ last = st := by
  cases hp : st.phase id with
  | created => simp [display_eq hp]
  | _ => simp [display, hp, eq_comm]

/-- a verb that has an outcome closes the prompt by it -/
theorem perform_of_outcome {verb : Verb} (name : String) (h : verb.outcome? (st.request sc id) = some o) :
    perform again sc name id verb st = (close again sc id o st).flag := by
  cases verb with
  | alternate =>
    unfold Verb.outcome? at h
    split_ifs at h with hgranted
    obtain rfl := Option.some.inj h
    simp only [perform, alternate, hgranted, if_true]
  | primary | submit | cancel | dismiss | close =>
    obtain rfl := Option.some.inj h
    rfl
  | _ => cases h

theorem errand?_of_outcome {verb : Verb} (name : String) (h : verb.outcome? (st.request sc id) = some o) :
    verb.errand? sc name id st = match st.phase id with
      | .shown s => some (leaving sc id s o st)
      | _ => none := by
  unfold Verb.errand?
  cases hp : st.phase id <;> cases verb <;> simp_all [Verb.outcome?]

/-- what is not an assignment nor brings a prompt up again fails where its errand does -/
theorem perform_eq_error {verb : Verb} {name : String} :
    perform again sc name id verb st = ⟨.error f, last⟩ ↔
      (∃ e, verb.errand? sc name id st = some e ∧ e.run again sc = ⟨.error f, last⟩) ∨
        (∃ field, verb = .assign field ∧ f = .fixedField field ∧ last = st) ∨
        ∃ place, verb = .display place ∧ st.phase id ≠ .created ∧
          f = .alreadyShown (st.request sc id).title (st.phase id).isClosed ∧ last = st := by
  cases hout : verb.outcome? (st.request sc id) with
  | some o =>
    rw [perform_of_outcome name hout, Ran.flag_eq_error, close_eq_error, errand?_of_outcome name hout]
    have hassign : ∀ field, verb ≠ .assign field := by
      rintro field rfl
      cases hout
    have hdisplay : ∀ place, verb ≠ .display place := by
      rintro place rfl
      cases hout
    cases hp : st.phase id <;> simp [hassign, hdisplay]
  | none =>
    cases verb with
    | display place =>
      simp only [perform, Ran.silent_eq_error, display_eq_error, Verb.errand?]
      cases hp : st.phase id <;> simp [Verb.outcome?]
    | alternate =>
      have hrefused : (st.request sc id).hasAlternate = false := by
        by_contra hgranted
        simp [Verb.outcome?, hgranted] at hout
      simp only [perform, alternate, hrefused, Verb.errand?]
      cases hp : st.phase id <;> simp [Verb.outcome?, hrefused, Ran.flag]
    | primary | submit | cancel | dismiss | close => cases hout
    | assign field =>
      simp only [perform, Verb.errand?]
      cases hp : st.phase id <;> simp [Verb.outcome?, eq_comm]
    | renew | setText | hasAlternate | cancelLabel =>
      simp only [perform, Verb.errand?]
      cases hp : st.phase id <;> simp [Verb.outcome?]

theorem phase_create_self (st : Stage) (sc : Scene) (name : String) :
    (st.create sc name).phase st.controllers.length = .created := by
  rw [Stage.phase, controller_create_self]
  rfl

/-- a dialog comes up without fail -/
theorem present_ok (name : String) (st : Stage) : (present again sc name st).answer = .ok () := by
  have hcreated : ∀ host, ({ st.create sc name with host } : Stage).phase st.controllers.length = .created :=
    fun _ => phase_create_self st sc name
  unfold present
  dsimp only
  rw [display_eq (hcreated _)]
  rfl

/-- A call fails by itself, or where its errand does. -/
theorem exec_eq_error {c : Call} :
    exec sc depth c st = ⟨.error f, last⟩ ↔
      c.Fails sc depth st f last ∨
        ∃ d e, depth = d + 1 ∧ c.errand? sc st = some e ∧ e.run (exec sc d) sc = ⟨.error f, last⟩ := by
  cases depth with
  | zero =>
    constructor
    · intro h
      cases h
      exact Or.inl .tooDeep
    · rintro (h | ⟨d, e, hd, -⟩)
      · cases h
        rfl
      · omega
  | succ d =>
    cases c with
    | prompt name verb =>
      have hperform : exec sc (d + 1) (.prompt name verb) st =
          perform (exec sc d) sc name ((st.ensure sc name).currentId name) verb (st.ensure sc name) := rfl
      rw [hperform, perform_eq_error]
      constructor
      · rintro (⟨e, he, hrun⟩ | ⟨field, rfl, rfl, rfl⟩ | ⟨place, rfl, hp, rfl, rfl⟩)
        · exact Or.inr ⟨d, e, rfl, he, hrun⟩
        · exact Or.inl .fixedField
        · exact Or.inl (.alreadyShown rfl rfl hp)
      · rintro (h | ⟨d', e, hd, he, hrun⟩)
        · cases h with
          | fixedField => exact Or.inr (Or.inl ⟨_, rfl, rfl, rfl⟩)
          | alreadyShown ensured stands found =>
            subst ensured stands
            exact Or.inr (Or.inr ⟨_, rfl, found, rfl, rfl⟩)
        · obtain rfl : d = d' := Nat.succ.inj hd
          exact Or.inl ⟨e, he, hrun⟩
    | present name =>
      have hok : (exec sc (d + 1) (.present name) st).answer = .ok .nothing := by
        show ((present (exec sc d) sc name st).silent).answer = _
        unfold Ran.silent Ran.andThen
        rw [present_ok]
      constructor
      · intro h
        rw [h] at hok
        cases hok
      · rintro (h | ⟨d', e, -, he, -⟩)
        · cases h
        · cases he
    | notice message =>
      constructor
      · intro h
        cases h
      · rintro (h | ⟨d', e, -, he, -⟩)
        · cases h
        · cases he

/-! ## Actions that are reached -/

/-- the call that an action makes -/
def Action.call? : Action → Option Call
  | .call c => some c
  | .attempt action => action.call?
  | _ => none

/-- does a fault of its call end the action? An attempt lets through only that calls nest too deeply. -/
def Action.lets (f : Fault) : Action → Prop
  | .attempt _ => f = .tooDeep
  | _ => True

/-- why an action fails: it raises, or its call fails -/
theorem act_eq_error {cue : Cue} {action : Action} :
    act again sc cue action st = ⟨.error f, last⟩ ↔
      (∃ kind message, action = .raise kind message ∧ f = .raised kind message ∧ last = st) ∨
        ∃ c, action.call? = some c ∧ action.lets f ∧ again c st = ⟨.error f, last⟩ := by
  induction action generalizing f last with
  | call c =>
    have hnoted : (again c st).andThen (fun answer st => (⟨.ok (), st.note (.returned c answer)⟩ : Ran Unit)) =
        ⟨.error f, last⟩ ↔ again c st = ⟨.error f, last⟩ := by
      rcases again c st with ⟨_ | _, st'⟩ <;> simp
    simpa [act, Action.call?, Action.lets] using hnoted
  | raise kind message => simp [act, Action.call?, eq_comm]
  | attempt action ih =>
    have hattempt : act again sc cue (.attempt action) st = ⟨.error f, last⟩ ↔
        f = .tooDeep ∧ act again sc cue action st = ⟨.error .tooDeep, last⟩ := by
      rw [act]
      split <;> rename_i he <;> rw [he]
      · simp
      · simp [eq_comm]
      · rename_i hne
        simp only [Ran.mk.injEq, reduceCtorEq, false_and, Except.error.injEq, false_iff, not_and]
        rintro rfl h
        exact absurd h (by simpa using hne)
    have hlets : ∀ {action : Action}, action.lets .tooDeep := fun {action} => by cases action <;> simp [Action.lets]
    rw [hattempt, ih]
    constructor
    · rintro ⟨rfl, ⟨kind, message, -, hf, -⟩ | ⟨c, hc, -, ha⟩⟩
      · cases hf
      · exact Or.inr ⟨c, hc, rfl, ha⟩
    · rintro (⟨kind, message, he, -⟩ | ⟨c, hc, rfl, ha⟩)
      · cases he
      · exact ⟨rfl, Or.inr ⟨c, hc, hlets, ha⟩⟩
  | keep => simp [act, Action.call?]
  | finish => simp [act, Action.call?]

theorem play_append {cue : Cue} (front back : Script) (st : Stage) :
    play again sc cue (front ++ back) st =
      (play again sc cue front st).andThen fun _ st => play again sc cue back st := by
  induction front generalizing st with
  | nil => rfl
  | cons action front ih => simp only [List.cons_append, play, ih, Ran.andThen_assoc]

/-- a script comes to an action on this stage, when the actions in front of it have returned -/
def ComesTo (again : Caller) (sc : Scene) (cue : Cue) (script : Script) (st : Stage) (action : Action) (st' : Stage) :
    Prop :=
  ∃ front back, script = front ++ action :: back ∧ play again sc cue front st = ⟨.ok (), st'⟩

theorem play_eq_error {cue : Cue} {script : Script} :
    play again sc cue script st = ⟨.error f, last⟩ ↔
      ∃ action st', ComesTo again sc cue script st action st' ∧ act again sc cue action st' = ⟨.error f, last⟩ := by
  constructor
  · intro h
    induction script generalizing st with
    | nil => cases h
    | cons action rest ih =>
      rcases hact : act again sc cue action st with ⟨_ | _, st'⟩
      · simp only [play, hact, Ran.andThen_error] at h
        exact ⟨action, st, ⟨[], rest, rfl, rfl⟩, hact.trans h⟩
      · simp only [play, hact, Ran.andThen_ok] at h
        obtain ⟨action', st'', ⟨front, back, rfl, hfront⟩, hact'⟩ := ih h
        exact ⟨action', st'', ⟨action :: front, back, rfl, by simp only [play, hact, Ran.andThen_ok, hfront]⟩, hact'⟩
  · rintro ⟨action, st', ⟨front, back, rfl, hfront⟩, hact⟩
    rw [play_append, hfront, Ran.andThen_ok, play, hact, Ran.andThen_error]

theorem body_eq_error :
    body again sc id r cb st = ⟨.error f, last⟩ ↔
      ∃ action st', ComesTo again sc ⟨id, handlerText cb⟩ (cb.script sc r) st action st' ∧
        act again sc ⟨id, handlerText cb⟩ action st' = ⟨.error f, last⟩ := by
  cases hd : cb.isDialog with
  | false => rw [body_of_script hd, play_eq_error]
  | true =>
    have hok : (body again sc id r cb st).answer = .ok () := body_of_dialog hd
    rw [script_of_dialog hd]
    constructor
    · intro h
      rw [h] at hok
      cases hok
    · rintro ⟨action, st', ⟨front, back, he, -⟩, -⟩
      simp at he

/-- An errand comes to an action on this stage: the callbacks before it have returned, and so have the actions in front
of it in its own script. -/
def Errand.Reaches (again : Caller) (sc : Scene) (e : Errand) (action : Action) (st : Stage) : Prop :=
  ∃ done cb rest before, e.callbacks = done ++ cb :: rest ∧
    inTurn again sc e.controller e.request done e.start = ⟨.ok (), before⟩ ∧
    ComesTo again sc ⟨e.controller, handlerText cb⟩ (cb.script sc e.request) (before.note (.began e.controller cb))
      action st

/-- An errand fails where an action of it raises or the action's call fails, and on the stage that this leaves. -/
theorem Errand.run_eq_error {e : Errand} :
    e.run again sc = ⟨.error f, last⟩ ↔
      (∃ kind message, e.Reaches again sc (.raise kind message) last ∧ f = .raised kind message) ∨
        ∃ action st c, e.Reaches again sc action st ∧ action.call? = some c ∧ action.lets f ∧
          again c st = ⟨.error f, last⟩ := by
  unfold Errand.run
  simp only [inTurn_eq_error, body_eq_error, act_eq_error]
  constructor
  · rintro ⟨done, cb, rest, before, hcbs, hdone, action, st, hcomes, ⟨kind, message, rfl, rfl, rfl⟩ | ⟨c, hc, hl, ha⟩⟩
    · exact Or.inl ⟨kind, message, ⟨done, cb, rest, before, hcbs, hdone, hcomes⟩, rfl⟩
    · exact Or.inr ⟨action, st, c, ⟨done, cb, rest, before, hcbs, hdone, hcomes⟩, hc, hl, ha⟩
  · rintro (⟨kind, message, ⟨done, cb, rest, before, hcbs, hdone, hcomes⟩, rfl⟩ |
      ⟨action, st, c, ⟨done, cb, rest, before, hcbs, hdone, hcomes⟩, hc, hl, ha⟩)
    · exact ⟨done, cb, rest, before, hcbs, hdone, _, last, hcomes, Or.inl ⟨kind, message, rfl, rfl, rfl⟩⟩
    · exact ⟨done, cb, rest, before, hcbs, hdone, action, st, hcomes, Or.inr ⟨c, hc, hl, ha⟩⟩

/-! ## Prompts that are up -/

/-- A prompt that is up on a surface, as a trigger with this outcome may find it: only a dismissal may find that the
dialog was taken away. -/
structure Up (sc : Scene) (st : Stage) (id : Nat) (s : Surface) (o : Outcome) : Prop where
  rising : Rising sc st.history id s [.began id (.surfaceShow s)] st
  dialog : ∀ k, s = .dialog k → .pushed k ∈ st.history ∧ (st.host.isDetached k → o = .dismissed)

theorem Sound.isUp (hs : Sound sc st) (hp : st.phase id = .shown s) (o : Outcome) : Up sc st id s o := by
  obtain ⟨hu, hd⟩ := hs.up hp
  exact ⟨hu, fun k hk => ⟨(hd k hk).1, fun hdet => absurd (hs.detached k hdet) (hd k hk).2⟩⟩

theorem Up.phase (hu : Up sc st id s o) : st.phase id = .shown s := by
  rw [hu.rising.phase_eq, hu.rising.phase]

theorem marksOf_closing (id : Nat) (r : Request) (s : Surface) (o : Outcome) (t : String) :
    marksOf id (closing r s o t) = .began id (.surfaceClose s) :: .ended id (.surfaceClose s) ::
      (scripted r id (.handler o t) ++ scripted r id .onClosed) := by
  have hline : lifeline r id s o t = .began id (.surfaceShow s) :: marksOf id (closing r s o t) :=
    lifeline_eq r id s o t
  exact (List.cons.inj hline).2.symm

/-- a prompt that is up has all of its closing still to come -/
theorem Up.midway (hu : Up sc st id s o) :
    Midway sc st.history id s o (marksOf id (closing (st.request sc id) s o (st.text id)))
      (leaving sc id s o st).start := by
  rw [marksOf_closing]
  have hlogged := (hu.rising.midway o).log .debug
    fun _ => .about .debug promptLogger ((st.setPhase id (.closed o)).request sc id).title "closed via %s" [o.name]
  exact hlogged

theorem not_surface_of_mem_closing {t : String} (h : closing r s o t = .surfaceClose s :: cbs) (hcb : cb ∈ cbs) :
    ∀ s', cb ≠ .surfaceShow s' ∧ cb ≠ .surfaceClose s' := by
  obtain ⟨-, rfl⟩ := List.cons.inj h
  intro s'
  constructor <;>
  · rintro rfl
    simp at hcb

/-- handlers that have returned are no longer to come -/
theorem Midway.returned (ha : Tame sc again) {h₀ : List Mark}
    (hdone : ∀ cb ∈ done, ∀ s', cb ≠ .surfaceShow s' ∧ cb ≠ .surfaceClose s')
    (hm : Midway sc h₀ id s o (marksOf id (done ++ rest)) st)
    (hrun : inTurn again sc id r done st = ⟨.ok (), before⟩) : Midway sc h₀ id s o (marksOf id rest) before := by
  induction done generalizing st with
  | nil =>
    cases hrun
    exact hm
  | cons cb done ih =>
    have hcb := hdone cb List.mem_cons_self
    have hscript : cb.isDialog = false := by
      cases cb with
      | surfaceShow s' => exact absurd rfl (hcb s').1
      | surfaceClose s' => exact absurd rfl (hcb s').2
      | _ => rfl
    have hfollows : ∀ st, Follows sc st (body again sc id r cb st).stage := fun st => by
      rw [body_of_script hscript]
      exact follows_play ha _ _ st
    have hleads := hm.leads_callback (fun s' => (hcb s').1) (fun k => (hcb (.dialog k)).2) hfollows
    rcases hcall : callback id cb (body again sc id r cb) st with ⟨f | _, st₁⟩
    · simp only [inTurn, hcall, Ran.andThen_error] at hrun
      cases hrun
    · simp only [inTurn, hcall, Ran.andThen_ok] at hrun
      rw [hcall] at hleads
      exact ih (fun cb hcb => hdone cb (List.mem_cons_of_mem _ hcb)) hleads hrun

/-- Between two callbacks of a closing, those that are left are still to come. -/
theorem Up.returned (ha : Tame sc again) (hu : Up sc st id s o)
    (hcbs : closing (st.request sc id) s o (st.text id) = done ++ rest)
    (hrun : inTurn again sc id (st.request sc id) done (leaving sc id s o st).start = ⟨.ok (), before⟩) :
    Midway sc st.history id s o (marksOf id rest) before := by
  cases done with
  | nil =>
    obtain rfl : (leaving sc id s o st).start = before := congrArg Ran.stage hrun
    rw [List.nil_append] at hcbs
    exact hcbs ▸ hu.midway
  | cons first done =>
    obtain ⟨hfirst, hmore⟩ := List.cons.inj hcbs
    have hleads := hu.rising.leads_surfaceClose ha hu.dialog
    have hmarks : scripted (st.request sc id) id (.handler o (st.text id)) ++
        scripted (st.request sc id) id .onClosed = marksOf id (done ++ rest) := by
      have hall := marksOf_closing id (st.request sc id) s o (st.text id)
      rw [hcbs, ← hfirst, List.cons_append, marksOf_cons] at hall
      exact (List.cons.inj (List.cons.inj hall).2).2.symm
    rw [hmarks] at hleads
    subst hfirst
    have hbody : surfaceClose again sc id s = body again sc id (st.request sc id) (.surfaceClose s) := rfl
    rw [hbody] at hleads
    rcases hcall : callback id (.surfaceClose s) (body again sc id (st.request sc id) (.surfaceClose s))
      (leaving sc id s o st).start with ⟨f | _, st₁⟩
    · simp only [inTurn, hcall, Ran.andThen_error] at hrun
      cases hrun
    · simp only [inTurn, hcall, Ran.andThen_ok] at hrun
      have hcall' : callback id (.surfaceClose s) (body again sc id (st.request sc id) (.surfaceClose s))
        ((st.setPhase id (.closed o)).debug sc id "closed via %s" [o.name]) = ⟨.ok (), st₁⟩ := hcall
      rw [hcall'] at hleads
      have hhandlers : ∀ cb ∈ done, ∀ s', cb ≠ .surfaceShow s' ∧ cb ≠ .surfaceClose s' := fun cb hcb =>
        not_surface_of_mem_closing (hcbs.trans (List.cons_append ..)) (List.mem_append_left _ hcb)
      exact Midway.returned ha hhandlers hleads hrun

/-- a callback of a closing that runs a script starts on a sound stage -/
theorem Up.began (ha : Tame sc again) (hu : Up sc st id s o)
    (hcbs : closing (st.request sc id) s o (st.text id) = done ++ cb :: rest)
    (hrun : inTurn again sc id (st.request sc id) done (leaving sc id s o st).start = ⟨.ok (), before⟩)
    (hd : cb.isDialog = false) :
    Midway sc st.history id s o (.ended id cb :: marksOf id rest) (before.note (.began id cb)) ∧
      Sound sc (before.note (.began id cb)) := by
  have hshow : ∀ s', cb ≠ .surfaceShow s' := by
    have hmem : cb ∈ closing (st.request sc id) s o (st.text id) := hcbs ▸ List.mem_append_right _ List.mem_cons_self
    rintro s' rfl
    simp [closing] at hmem
  have hclose : ∀ k, cb ≠ .surfaceClose (.dialog k) := by
    rintro k rfl
    cases hd
  have hbegan := (hu.returned ha hcbs hrun).began hshow
  exact ⟨hbegan, hbegan.sound (Or.inr ⟨cb, _, rfl, hclose⟩)⟩

/-- an errand of a closing comes to its actions on sound stages -/
theorem Up.reached (ha : Tame sc again) (hu : Up sc st id s o) {action : Action}
    (hr : (leaving sc id s o st).Reaches again sc action st') : Sound sc st' := by
  obtain ⟨done, cb, rest, before, hcbs, hdone, front, back, hscript, hfront⟩ := hr
  have hne : cb.script sc (leaving sc id s o st).request ≠ [] := by simp [hscript]
  have hs := (hu.began ha hcbs hdone (script_ne_nil hne)).2
  have hf := (follows_play ha ⟨id, handlerText cb⟩ front (before.note (.began id cb)) hs).1
  have hstage : (play again sc ⟨id, handlerText cb⟩ front (before.note (.began id cb))).stage = st' :=
    congrArg Ran.stage hfront
  rwa [hstage] at hf

/-! ## What a controller has had -/

theorem deeds_log (severity : Severity) (record : Unit → Record) :
    deeds id (st.log sc severity record).history = deeds id st.history := by
  rcases log_eq st sc severity record with he | ⟨r, he⟩ <;> rw [he]
  exact deeds_cons_of_not_isDeedOf rfl

/-- closing a prompt runs none of its callbacks yet -/
theorem deeds_leaving : deeds id (leaving sc id s o st).start.history = deeds id st.history := by
  have hmoved : deeds id (st.setPhase id (.closed o)).history = deeds id st.history := deeds_cons_of_not_isDeedOf rfl
  rw [leaving, Stage.debug, deeds_log, hmoved]

theorem suffix_body (ha : Sending again) (cb : Callback) (st : Stage) :
    st.history <:+ (body again sc id r cb st).stage.history := by
  cases hd : cb.isDialog with
  | false =>
    rw [body_of_script hd]
    exact (sends_play ha _ _ st : Sends False _ _).suffix
  | true =>
    cases cb with
    | surfaceShow s => cases s with
      | scripted place => cases hd
      | dialog k => exact (posts_push k : Posts False st (st.push k)).suffix
    | surfaceClose s => cases s with
      | scripted place => cases hd
      | dialog k => exact (sends_closeDialog id k st : Sends False st (closeDialog sc id k st)).suffix
    | _ => cases hd

theorem suffix_inTurn (ha : Sending again) (cbs : List Callback) (st : Stage) :
    st.history <:+ (inTurn again sc id r cbs st).stage.history := by
  induction cbs generalizing st with
  | nil => exact List.suffix_refl _
  | cons cb cbs ih =>
    have hbody : st.history <:+ (body again sc id r cb (st.note (.began id cb))).stage.history :=
      (List.suffix_cons _ _).trans (suffix_body ha cb (st.note (.began id cb)))
    simp only [inTurn, callback]
    rcases hb : body again sc id r cb (st.note (.began id cb)) with ⟨f | _, st'⟩
    · rw [hb] at hbody
      exact hbody
    · rw [hb] at hbody
      exact (hbody.trans (List.suffix_cons _ _)).trans (ih (st'.note (.ended id cb)))

/-- Between two callbacks of a closing, the controller has had those that returned; its request and its text are those
that the trigger found. -/
theorem Up.had (ha : Tame sc again) (hsend : Sending again) (hu : Up sc st id s o)
    (hcbs : closing (st.request sc id) s o (st.text id) = done ++ rest)
    (hrun : inTurn again sc id (st.request sc id) done (leaving sc id s o st).start = ⟨.ok (), before⟩) :
    deeds id before.history = deeds id st.history ++ marksOf id done := by
  have hstart := hu.midway
  have hm := hu.returned ha hcbs hrun
  have hgrows : (leaving sc id s o st).start.history <:+ before.history := by
    have h : (leaving sc id s o st).start.history <:+
        (inTurn again sc id (st.request sc id) done (leaving sc id s o st).start).stage.history :=
      suffix_inTurn hsend done _
    rwa [hrun] at h
  have hlt : id < (controllersAt sc (leaving sc id s o st).start.history).length :=
    lt_of_phaseAt_ne_created (by simp [hstart.closed])
  have hline := hm.rest
  rw [requestAt_of_lt hgrows hlt, hm.legal.textAt_closed hgrows hstart.closed, ← hstart.rest, hcbs, marksOf_append,
    ← List.append_assoc] at hline
  rw [List.append_cancel_right hline, deeds_leaving]

/-! ## Calls that are made in a run -/

/-- the errand of bringing a prompt up comes to its actions on sound stages -/
theorem Sound.reached_showing (ha : Tame sc again) (hs : Sound sc st) (hp : st.phase id = .created)
    (hid : id < st.controllers.length) {place : String} {action : Action}
    (hr : (showing sc id (.scripted place) st).Reaches again sc action st') : Sound sc st' := by
  obtain ⟨done, cb, rest, before, hcbs, hdone, front, back, -, hfront⟩ := hr
  have hfirst : done = [] ∧ cb = .surfaceShow (.scripted place) := by
    rcases done with _ | ⟨first, done⟩
    · exact ⟨rfl, (List.cons.inj hcbs).1.symm⟩
    · have hlength := congrArg List.length hcbs
      simp [showing] at hlength
  obtain ⟨rfl, rfl⟩ := hfirst
  obtain rfl : (showing sc id (.scripted place) st).start = before := congrArg Ran.stage hdone
  have hrising := ((hs.rising hp hid (.scripted place)).log .debug fun _ =>
    .about .debug promptLogger ((st.setPhase id (.shown (.scripted place))).request sc id).title "shown"
      []).began trivial
  have hsound : Sound sc
      ((showing sc id (.scripted place) st).start.note (.began id (.surfaceShow (.scripted place)))) :=
    hrising.sound (by simp)
  have hf := (follows_play ha ⟨id, ""⟩ front _ hsound).1
  have hstage : (play again sc ⟨id, ""⟩ front
      ((showing sc id (.scripted place) st).start.note (.began id (.surfaceShow (.scripted place))))).stage = st' :=
    congrArg Ran.stage hfront
  rwa [hstage] at hf

/-- a verb that runs anything brings a prompt up or closes one -/
theorem errand?_eq_some {verb : Verb} {name : String} {e : Errand} (h : verb.errand? sc name id st = some e) :
    (∃ place, verb = .display place ∧ st.phase id = .created ∧ e = showing sc id (.scripted (place.getD name)) st) ∨
      ∃ s o, verb.outcome? (st.request sc id) = some o ∧ st.phase id = .shown s ∧ e = leaving sc id s o st := by
  unfold Verb.errand? at h
  split at h
  · rename_i place hp
    exact Or.inl ⟨place, rfl, hp, (Option.some.inj h).symm⟩
  · rename_i _ _ s hp
    obtain ⟨o, ho, he⟩ := Option.map_eq_some_iff.1 h
    exact Or.inr ⟨s, o, ho, hp, he.symm⟩
  · cases h

/-- a call on a sound stage comes to the actions of its errand on sound stages -/
theorem Sound.reached (ha : Tame sc again) (hs : Sound sc st) {c : Call} {e : Errand} {action : Action}
    (he : c.errand? sc st = some e) (hr : e.Reaches again sc action st') : Sound sc st' := by
  cases c with
  | prompt name verb =>
    have hensured := (follows_ensure name hs).1
    rcases errand?_eq_some he with ⟨place, rfl, hp, rfl⟩ | ⟨s, o, -, hp, rfl⟩
    · exact hensured.reached_showing ha hp (currentId_ensure_lt hs name) hr
    · exact (hensured.isUp hp o).reached ha hr
  | present name => cases he
  | notice message => cases he

/-- a call at the moment when it is made, and how deeply others may nest inside of it -/
structure Occasion where
  depth : Nat
  call : Call
  stage : Stage

namespace Occasion

/-- what comes of the call -/
def ran (sc : Scene) (m : Occasion) : Ran Answer := exec sc m.depth m.call m.stage

/-- the second call is made by an action that the errand of the first comes to -/
def Makes (sc : Scene) (m m' : Occasion) : Prop :=
  m.depth = m'.depth + 1 ∧ ∃ e action, m.call.errand? sc m.stage = some e ∧
    e.Reaches (exec sc m'.depth) sc action m'.stage ∧ action.call? = some m'.call

end Occasion

/-- a call that is made in a run of calls from outside: one of them, or one made inside of one of them -/
def MadeIn (sc : Scene) (depth : Nat) (calls : List Call) (m : Occasion) : Prop :=
  ∃ front c back, calls = front ++ c :: back ∧
    Relation.ReflTransGen (Occasion.Makes sc) ⟨depth, c, runWithin sc depth front .empty⟩ m

/-- every call of a run is made on a sound stage -/
theorem sound_of_madeIn {calls : List Call} {m : Occasion} (hm : MadeIn sc depth calls m) : Sound sc m.stage := by
  obtain ⟨front, c, back, -, hmakes⟩ := hm
  induction hmakes with
  | refl => exact sound_runWithin sc depth front
  | tail _ hmakes ih =>
    obtain ⟨-, e, action, he, hr, -⟩ := hmakes
    exact ih.reached (tame_exec sc _) he hr

/-! ## What calls leave in the history -/

theorem suffix_exec (c : Call) (st : Stage) : st.history <:+ (exec sc depth c st).stage.history :=
  (sending_exec sc depth c st).suffix

theorem suffix_runWithin (calls : List Call) (st : Stage) : st.history <:+ (runWithin sc depth calls st).history := by
  induction calls generalizing st with
  | nil => exact List.suffix_refl _
  | cons c calls ih => exact (suffix_exec c st).trans (ih (exec sc depth c st).stage)

theorem suffix_act {cue : Cue} {action : Action} {c : Call} (hc : action.call? = some c) :
    (again c st).stage.history <:+ (act again sc cue action st).stage.history := by
  induction action with
  | call c' =>
    obtain rfl : c' = c := Option.some.inj hc
    simp only [act]
    rcases again c' st with ⟨_ | _, st'⟩
    · exact List.suffix_refl _
    · exact List.suffix_cons _ _
  | attempt action ih =>
    refine (ih hc).trans ?_
    rcases hact : act again sc cue action st with ⟨f | _, st'⟩
    · cases f <;> simp only [act, hact] <;> first | exact List.suffix_refl _ | exact List.suffix_cons _ _
    · simp only [act, hact]
      exact List.suffix_refl _
  | _ => cases hc

theorem ComesTo.suffix (ha : Sending again) {cue : Cue} {script : Script} {action : Action} {c : Call}
    (hr : ComesTo again sc cue script st action st') (hc : action.call? = some c) :
    (again c st').stage.history <:+ (play again sc cue script st).stage.history := by
  obtain ⟨front, back, rfl, hfront⟩ := hr
  rw [play_append, hfront, Ran.andThen_ok, play]
  have hact : (again c st').stage.history <:+ (act again sc cue action st').stage.history := suffix_act hc
  refine hact.trans ?_
  rcases act again sc cue action st' with ⟨_ | _, st''⟩
  · exact List.suffix_refl _
  · exact (sends_play ha cue back st'' : Sends False _ _).suffix

/-- the history of an errand goes on from what the calls of its actions leave -/
theorem Errand.Reaches.suffix (ha : Sending again) {e : Errand} {action : Action} {c : Call}
    (hr : e.Reaches again sc action st) (hc : action.call? = some c) :
    (again c st).stage.history <:+ (e.run again sc).stage.history := by
  obtain ⟨done, cb, rest, before, hcbs, hdone, hcomes⟩ := hr
  have hscript : cb.isDialog = false := by
    obtain ⟨front, back, hscript, -⟩ := hcomes
    have hne : cb.script sc e.request ≠ [] := by simp [hscript]
    exact script_ne_nil hne
  have hbody := hcomes.suffix ha hc
  rw [← body_of_script hscript] at hbody
  unfold Errand.run
  rw [hcbs, inTurn_append, hdone, Ran.andThen_ok, inTurn, callback]
  rcases hb : body again sc e.controller e.request cb (before.note (.began e.controller cb)) with ⟨_ | _, st'⟩
  · rwa [hb] at hbody
  · rw [hb] at hbody
    exact (hbody.trans (List.suffix_cons _ _)).trans (suffix_inTurn ha rest (st'.note (.ended e.controller cb)))

theorem stage_perform_of_errand {verb : Verb} {name : String} {e : Errand}
    (he : verb.errand? sc name id st = some e) :
    (perform again sc name id verb st).stage = (e.run again sc).stage := by
  rcases errand?_eq_some he with ⟨place, rfl, hp, rfl⟩ | ⟨s, o, ho, hp, rfl⟩
  · rw [perform, display_eq hp, Ran.silent, Ran.stage_andThen]
  · rw [perform_of_outcome name ho, close_eq hp, Ran.flag, Ran.andThen_assoc]
    exact Ran.stage_andThen _ _

/-- the second call ends within the first -/
theorem Occasion.Makes.suffix {m m' : Occasion} (hm : m.Makes sc m') :
    (m'.ran sc).stage.history <:+ (m.ran sc).stage.history := by
  obtain ⟨hdepth, e, action, he, hr, hc⟩ := hm
  have hrun : (m.ran sc).stage = (e.run (exec sc m'.depth) sc).stage := by
    unfold Occasion.ran
    rw [hdepth]
    cases hcall : m.call with
    | prompt name verb =>
      rw [hcall] at he
      exact stage_perform_of_errand he
    | present name => simp [hcall, Call.errand?] at he
    | notice message => simp [hcall, Call.errand?] at he
  rw [hrun]
  exact hr.suffix (sending_exec sc m'.depth) hc

/-- the history of a run goes on from what each call of it leaves -/
theorem suffix_of_madeIn {calls : List Call} {m : Occasion} (hm : MadeIn sc depth calls m) :
    (m.ran sc).stage.history <:+ (runWithin sc depth calls .empty).history := by
  obtain ⟨front, c, back, rfl, hmakes⟩ := hm
  have hcall : (exec sc depth c (runWithin sc depth front .empty)).stage.history <:+
      (runWithin sc depth (front ++ c :: back) .empty).history := by
    have hsplit : runWithin sc depth (front ++ c :: back) .empty =
        runWithin sc depth back (exec sc depth c (runWithin sc depth front .empty)).stage := List.foldl_append
    rw [hsplit]
    exact suffix_runWithin back _
  refine List.IsSuffix.trans ?_ hcall
  induction hmakes with
  | refl => exact List.suffix_refl _
  | tail _ hmakes ih => exact hmakes.suffix.trans ih

end LinePrompt.Prompt
