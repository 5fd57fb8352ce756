/-
The log as an account of the calls.

While a call runs, its scripts call others, and these again others. Listening to all of them gives the calls in the
order in which they reach their prompts, each with the phase that it finds, and between them the callbacks as they begin
(`hearing`). What the log owes each call is told by that phase alone (`Visit.message?`).

- `log_accounts`: the records of a run are those owed to the calls heard, in their order and no others, and each stands
  in front of the callbacks that its call runs. This is so for all scripts, however they raise and swallow faults.
- So the log says how every prompt ends, as long as titles are distinct and no controller is replaced: `told` reads it.
-/
import Mathlib.Data.Set.Insert
import LinePrompt.CommandLine.Run
import LinePrompt.Proofs.Log.Formatting
import LinePrompt.Proofs.Prompt.Sights

namespace LinePrompt.Prompt

open LinePrompt.Log LinePrompt.Screen LinePrompt.CommandLine

variable {C : Circle} {sc : Scene} {st st' : Stage} {id : Nat} {name : String} {α β : Type}

/-! ## Listening to calls -/

/-- what a call may ask of a prompt that is not granted always -/
inductive Demand where
  | show
  /-- the alternate control, which is there only with its handler -/
  | alternate
  | close (outcome : Outcome)
deriving DecidableEq, Repr

def Verb.demand? : Verb → Option Demand
  | .display _ => some .show
  | .primary => some (.close .primary)
  | .submit => some (.close .primary)
  | .alternate => some .alternate
  | .cancel => some (.close .cancel)
  | .dismiss => some (.close .dismissed)
  | .close outcome => some (.close outcome)
  | _ => none

/-- a call as it reaches a prompt, and the phase in which it finds it -/
structure Visit where
  name : String
  demand : Demand
  found : Phase

/-- what is heard of a run -/
inductive Happening where
  | visit (visit : Visit)
  | began (controller : Nat) (callback : Callback)

/-- what is heard of a call -/
abbrev Listener := Call → Stage → List Happening

/-- what is heard after a computation, unless a fault ended it -/
def Ran.thenHeard (r : Ran α) (next : Stage → List Happening) : List Happening :=
  match r.answer with
  | .ok _ => next r.stage
  | .error _ => []

section Listening

variable (sc) (again : Caller) (heard : Listener)

def heardAct : Action → Stage → List Happening
  | .call c, st => heard c st
  | .attempt action, st => heardAct action st
  | _, _ => []

def heardPlay (cue : Cue) : Script → Stage → List Happening
  | [], _ => []
  | action :: rest, st =>
    heardAct heard action st ++ (act again sc cue action st).thenHeard (heardPlay cue rest)

def heardCallback (id : Nat) (cb : Callback) (body : Stage → List Happening) (st : Stage) : List Happening :=
  .began id cb :: body (st.note (.began id cb))

def heardShow (id : Nat) : Surface → Stage → List Happening
  | .scripted place => heardPlay sc again heard ⟨id, ""⟩ (sc.surface place).onShow
  | .dialog _ => fun _ => []

def heardHide (id : Nat) : Surface → Stage → List Happening
  | .scripted place => heardPlay sc again heard ⟨id, ""⟩ (sc.surface place).onClose
  | .dialog _ => fun _ => []

def heardDisplay (id : Nat) (s : Surface) (st : Stage) : List Happening :=
  match st.phase id with
  | .created =>
    heardCallback id (.surfaceShow s) (heardShow sc again heard id s)
      ((st.setPhase id (.shown s)).debug sc id "shown" [])
  | _ => []

def heardHandler (id : Nat) (r : Request) (cb : Callback) (st : Stage) : List Happening :=
  match handlerScript r cb with
  | none => []
  | some script => heardCallback id cb (heardPlay sc again heard ⟨id, handlerText cb⟩ script) st

def heardClose (id : Nat) (outcome : Outcome) (st : Stage) : List Happening :=
  match st.phase id with
  | .shown s =>
    let r := st.request sc id
    let handler := .handler outcome (st.text id)
    let st := (st.setPhase id (.closed outcome)).debug sc id "closed via %s" [outcome.name]
    heardCallback id (.surfaceClose s) (heardHide sc again heard id s) st ++
      (callback id (.surfaceClose s) (surfaceClose again sc id s) st).thenHeard fun st =>
        heardHandler sc again heard id r handler st ++
          (runHandler again sc id r handler st).thenHeard (heardHandler sc again heard id r .onClosed)
  | _ => []

/-- what is heard of a demand that has reached its prompt -/
def heardDemand (id : Nat) (s : Surface) (st : Stage) : Demand → List Happening
  | .show => heardDisplay sc again heard id s st
  | .alternate => if (st.request sc id).hasAlternate then heardClose sc again heard id .alternate st else []
  | .close outcome => heardClose sc again heard id outcome st

/-- the surface that a verb brings a prompt up on -/
def Verb.surface (name : String) : Verb → Surface
  | .display surface => .scripted (surface.getD name)
  | _ => .scripted name

def heardPerform (name : String) (id : Nat) (verb : Verb) (st : Stage) : List Happening :=
  match verb.demand? with
  | some demand => .visit ⟨name, demand, st.phase id⟩ :: heardDemand sc again heard id (verb.surface name) st demand
  | none => []

def heardCall : Listener
  | .prompt name verb, st =>
    let st := st.ensure sc name
    heardPerform sc again heard name (st.currentId name) verb st
  | _, _ => []

end Listening

/-- what is heard of a call and of all that it causes, nesting at most to the given depth -/
def hearing (sc : Scene) : Nat → Listener
  | 0, _, _ => []
  | depth + 1, c, st => heardCall sc (exec sc depth) (hearing sc depth) c st

/-- what is heard of calls from outside, call by call -/
def hearingAll (sc : Scene) (depth : Nat) : List Call → Stage → List (List Happening)
  | [], _ => []
  | c :: rest, st => hearing sc depth c st :: hearingAll sc depth rest (exec sc depth c st).stage

/-! ## What the log owes -/

/-- what is to be told of a trigger that finds the prompt in a phase -/
def triggerMessage (outcome : Outcome) (found : Phase) : String :=
  if found.isOpen then "closed via " ++ outcome.name
  else outcome.name ++ " trigger ignored: prompt is " ++ found.name

/-- what is to be told of a call: a fresh prompt was shown, a trigger closed a prompt or was ignored -/
def Visit.message? (sc : Scene) (v : Visit) : Option String :=
  match v.demand, v.found with
  | .show, .created => some "shown"
  | .show, _ => none
  | .alternate, found =>
    if (sc.request v.name).hasAlternate then some (triggerMessage .alternate found)
    else some "alternate trigger ignored: no alternate handler"
  | .close outcome, found => some (triggerMessage outcome found)

/-- a controller's record with a message -/
def saying (title message : String) : Record := ⟨.debug, promptLogger, .ok (tagged title message)⟩

def Visit.record? (sc : Scene) (v : Visit) : Option Record :=
  (v.message? sc).map (saying (sc.request v.name).title)

/-- a record, or the beginning of a callback -/
inductive Entry where
  | record (record : Record)
  | began (controller : Nat) (callback : Callback)

def Entry.record? : Entry → Option Record
  | .record r => some r
  | .began _ _ => none

def Mark.entry? : Mark → Option Entry
  | .logged r => some (.record r)
  | .began id cb => some (.began id cb)
  | _ => none

/-- the entry that is owed to what is heard -/
def Happening.entry? (sc : Scene) : Happening → Option Entry
  | .visit v => (v.record? sc).map .record
  | .began id cb => some (.began id cb)

/-- the record that is owed to what is heard -/
def Happening.record? (sc : Scene) : Happening → Option Record
  | .visit v => v.record? sc
  | .began _ _ => none

/-- the entries of a stage's history, oldest first -/
def Stage.entries (st : Stage) : List Entry := st.history.reverse.filterMap Mark.entry?

/-! ## Reading the log -/

/-- how a prompt stands, wherever it is shown -/
inductive Standing where
  | created
  | shown
  | closed (outcome : Outcome)
deriving DecidableEq, Repr

def Phase.standing : Phase → Standing
  | .created => .created
  | .shown _ => .shown
  | .closed o => .closed o

def outcomes : List Outcome := [.primary, .alternate, .cancel, .dismissed]

/-- how the prompt with this title stands after one more record -/
def Standing.after (title : String) (s : Standing) (r : Record) : Standing :=
  match r.message with
  | .ok text =>
    if text = tagged title "shown" then .shown
    else
      match outcomes.find? fun o => text = tagged title ("closed via " ++ o.name) with
      | some o => .closed o
      | none => s
  | .error _ => s

/-- how the prompt with this title stands, by the records alone -/
def told (title : String) (log : List Record) : Standing := log.foldl (Standing.after title) .created

theorem after_other {title title' : String} (h : title' ≠ title) (s : Standing) (message : String) :
    s.after title (saying title' message) = s := by
  simp [Standing.after, saying, tagged_inj, h, outcomes]

theorem after_shown (title : String) (s : Standing) : s.after title (saying title "shown") = .shown := by
  simp [Standing.after, saying]

theorem after_closed (title : String) (s : Standing) (o : Outcome) :
    s.after title (saying title ("closed via " ++ o.name)) = .closed o := by
  simp only [Standing.after, saying, tagged_inj, true_and]
  cases o <;> rfl

theorem after_ignored (title : String) (s : Standing) (o : Outcome) (p : Phase) :
    s.after title (saying title (o.name ++ " trigger ignored: prompt is " ++ p.name)) = s := by
  simp only [Standing.after, saying, tagged_inj, true_and]
  cases o <;> cases p <;> rfl

theorem after_refused (title : String) (s : Standing) :
    s.after title (saying title "alternate trigger ignored: no alternate handler") = s := by
  simp only [Standing.after, saying, tagged_inj, true_and]
  rfl

/-! ## Stages that the log tells -/

/-- calls on prompts and scripted surfaces alone, logged in full, under titles that take no part in the formatting -/
structure Verbose (C : Circle) (sc : Scene) : Prop where
  within : sc.Within C
  screens : ¬ C.screens
  debug : sc.threshold ≤ Severity.debug.rank
  plain : ∀ n ∈ C.names, '%' ∉ (sc.request n).title.toList

/-- titles tell prompts apart, and no controller is replaced -/
structure Distinct (C : Circle) (sc : Scene) : Prop where
  titles : Set.InjOn (fun n => (sc.request n).title) C.names
  renewals : ¬ C.renewals

/-- a prompt that is up is so on a scripted surface of the circle -/
def Phase.Placed (C : Circle) (p : Phase) : Prop := ∀ s, p = .shown s → ∃ place ∈ C.places, s = .scripted place

/-- names stand for their controllers, no prompt is up as a dialog, and the records tell how prompts stand -/
structure Onstage (C : Circle) (sc : Scene) (st : Stage) : Prop where
  tidy : Tidy st
  placed : ∀ id, (st.phase id).Placed C
  standing : Distinct C sc → ∀ n ∈ C.names,
    (st.prompt sc n).phase.standing = told (sc.request n).title (recordsOf st.history.reverse)

theorem onstage_empty (C : Circle) (sc : Scene) : Onstage C sc .empty where
  tidy := tidy_empty
  placed id s := by simp [Stage.phase, Stage.controller, Stage.empty, Controller.blank]
  standing _ n _ := rfl

theorem recordsOf_note_of_entry {m : Mark} (hm : ∀ r, m ≠ .logged r) (st : Stage) :
    recordsOf (st.note m).history.reverse = recordsOf st.history.reverse := by
  cases m with
  | logged r => exact absurd rfl (hm r)
  | _ => simp [recordsOf, Stage.note]

theorem told_note (title : String) (r : Record) (st : Stage) :
    told title (recordsOf (st.note (.logged r)).history.reverse) =
      (told title (recordsOf st.history.reverse)).after title r := by
  simp [told, recordsOf, Stage.note]

/-- neither controllers nor records change -/
theorem Onstage.still (h : Onstage C sc st) (hcon : st'.controllers = st.controllers)
    (hcur : st'.current = st.current) (hrec : recordsOf st'.history.reverse = recordsOf st.history.reverse) :
    Onstage C sc st' where
  tidy := by
    unfold Tidy Stage.current? Stage.controller
    rw [hcon, hcur]
    exact h.tidy
  placed id := by
    unfold Stage.phase Stage.controller
    rw [hcon]
    exact h.placed id
  standing hd n hn := by
    have hprompt : st'.prompt sc n = st.prompt sc n := by
      unfold Stage.prompt Stage.current? Stage.controller
      rw [hcon, hcur]
    rw [hprompt, hrec]
    exact h.standing hd n hn

theorem Onstage.note (h : Onstage C sc st) {m : Mark} (hm : ∀ r, m ≠ .logged r) : Onstage C sc (st.note m) :=
  h.still rfl rfl (recordsOf_note_of_entry hm st)

theorem phase_create (st : Stage) (sc : Scene) (name : String) (i : Nat) :
    (st.create sc name).phase i = st.phase i := by
  unfold Stage.phase
  rcases Nat.lt_trichotomy i st.controllers.length with hlt | rfl | hgt
  · rw [controller_create i hlt]
  · rw [controller_create_self]
    simp [Stage.controller, Controller.fresh, Controller.blank]
  · simp only [Stage.controller, Stage.create, Stage.note]
    rw [List.getD_eq_default _ _ (by simp; omega), List.getD_eq_default _ _ (by omega)]

/-- a controller made where there was none, or one that replaces another -/
theorem Onstage.create (h : Onstage C sc st) (hnew : C.renewals ∨ st.current? name = none) :
    Onstage C sc (st.create sc name) where
  tidy := h.tidy.create
  placed i := by
    rw [phase_create]
    exact h.placed i
  standing hd n hn := by
    have hfree : st.current? name = none := hnew.resolve_left hd.renewals
    have hprompt : ((st.create sc name).prompt sc n).phase = (st.prompt sc n).phase := by
      rw [h.tidy.prompt_create]
      split_ifs with hsame
      · rw [hsame, Stage.prompt, hfree]
      · rfl
    have hrec : recordsOf (st.create sc name).history.reverse = recordsOf st.history.reverse :=
      recordsOf_note_of_entry (by simp) _
    rw [hprompt, hrec]
    exact h.standing hd n hn

theorem Onstage.ensure (h : Onstage C sc st) (name : String) : Onstage C sc (st.ensure sc name) := by
  unfold Stage.ensure
  split_ifs with hthere
  · exact h
  · exact h.create (Or.inr (Option.not_isSome_iff_eq_none.1 hthere))

theorem phase_update_text (st : Stage) (id i : Nat) (text : String) :
    (st.update id ({ · with text })).phase i = st.phase i := by
  unfold Stage.phase
  rw [controller_update]
  split_ifs <;> rfl

theorem Onstage.setText (h : Onstage C sc st) (hid : st.current? name = some id) (text : String) :
    Onstage C sc (st.setText id text) where
  tidy := h.tidy.setText id text
  placed i := by
    have hphase : (st.setText id text).phase i = st.phase i := by
      unfold Stage.setText
      split
      · rfl
      · exact phase_update_text st id i text
    rw [hphase]
    exact h.placed i
  standing hd n hn := by
    have hprompt : ((st.setText id text).prompt sc n).phase = (st.prompt sc n).phase := by
      rw [h.tidy.prompt_setText hid, Controller.withText]
      split_ifs <;> rfl
    have hrec : recordsOf (st.setText id text).history.reverse = recordsOf st.history.reverse := by
      have hhistory := (setText_frame st id text).1
      rw [hhistory]
      exact recordsOf_note_of_entry (by simp) st
    rw [hprompt, hrec]
    exact h.standing hd n hn

/-- a record that says nothing about how its prompt stands -/
theorem Onstage.refuses (h : Onstage C sc st) {message : String} (hn : name ∈ C.names)
    (hafter : ∀ s : Standing, s.after (sc.request name).title (saying (sc.request name).title message) = s) :
    Onstage C sc (st.note (.logged (saying (sc.request name).title message))) where
  tidy := h.tidy
  placed := h.placed
  standing hd n hmem := by
    have hprompt : (st.note (.logged (saying (sc.request name).title message))).prompt sc n = st.prompt sc n := rfl
    rw [told_note, ← h.standing hd n hmem, hprompt]
    by_cases hsame : n = name
    · rw [hsame, hafter]
    · rw [after_other fun htitle => hsame (hd.titles hmem hn htitle.symm)]

/-- a prompt moves to a phase, and its record says so -/
theorem Onstage.moves (h : Onstage C sc st) {phase : Phase} {message : String} (hid : st.current? name = some id)
    (hn : name ∈ C.names) (hphase : phase.Placed C)
    (hafter : ∀ s : Standing,
      s.after (sc.request name).title (saying (sc.request name).title message) = phase.standing) :
    Onstage C sc ((st.setPhase id phase).note (.logged (saying (sc.request name).title message))) where
  tidy := h.tidy.setPhase id phase
  placed i := by
    have hmoved : (st.setPhase id phase).phase i = phase ∨ (st.setPhase id phase).phase i = st.phase i := by
      have hcontroller : (st.setPhase id phase).controller i = (st.update id ({ · with phase })).controller i := rfl
      unfold Stage.phase
      rw [hcontroller, controller_update]
      split_ifs
      · exact Or.inl rfl
      · exact Or.inr rfl
    show ((st.setPhase id phase).phase i).Placed C
    rcases hmoved with hnew | hold
    · rw [hnew]
      exact hphase
    · rw [hold]
      exact h.placed i
  standing hd n hmem := by
    have hrec : recordsOf (st.setPhase id phase).history.reverse = recordsOf st.history.reverse :=
      recordsOf_note_of_entry (by simp) _
    have hprompt : (((st.setPhase id phase).note (.logged (saying (sc.request name).title message))).prompt sc n) =
        if n = name then { st.prompt sc n with phase } else st.prompt sc n := h.tidy.prompt_setPhase hid phase n
    rw [told_note, hrec, ← h.standing hd n hmem, hprompt]
    by_cases hsame : n = name
    · rw [if_pos hsame, hsame, hafter]
    · rw [if_neg hsame, after_other fun htitle => hsame (hd.titles hmem hn htitle.symm)]

/-- a controller's record says what is meant -/
theorem debug_eq (hv : Verbose C sc) (hn : name ∈ C.names) (hname : (st.controller id).name = name)
    {message text : String} {args : List String}
    (hr : Remark (sc.request name).title (.about .debug promptLogger (sc.request name).title message args)
      (tagged (sc.request name).title text)) :
    st.debug sc id message args = st.note (.logged (saying (sc.request name).title text)) := by
  have hrequest : st.request sc id = sc.request name := by rw [Stage.request, hname]
  have hmessage : finish (tagged (sc.request name).title message) args = .ok (tagged (sc.request name).title text) :=
    hr.message.resolve_right fun hpercent => hv.plain name hn hpercent.1
  unfold Stage.debug Stage.log
  rw [if_pos hv.debug, hrequest]
  unfold Record.about saying
  rw [hmessage]

/-! ## Computations -/

/-- a computation adds to the entries what is owed to what is heard of it -/
structure Accounts (C : Circle) (sc : Scene) (st : Stage) (r : Ran α) (heard : List Happening) : Prop where
  onstage : Onstage C sc r.stage
  tells : r.stage.entries = st.entries ++ heard.filterMap (Happening.entry? sc)

theorem entries_note {m : Mark} (st : Stage) : (st.note m).entries = st.entries ++ (m.entry?).toList := by
  cases hm : m.entry? <;> simp [Stage.entries, Stage.note, hm]

theorem entries_setPhase (st : Stage) (id : Nat) (phase : Phase) : (st.setPhase id phase).entries = st.entries := by
  unfold Stage.setPhase
  rw [entries_note]
  exact List.append_nil _

theorem entries_create (name : String) : (st.create sc name).entries = st.entries := by
  unfold Stage.create
  rw [entries_note]
  exact List.append_nil _

theorem entries_ensure (name : String) : (st.ensure sc name).entries = st.entries := by
  unfold Stage.ensure
  split_ifs
  · rfl
  · exact entries_create name

theorem entries_setText (text : String) : (st.setText id text).entries = st.entries := by
  have hhistory : (st.setText id text).entries = (st.note (.texted id text)).entries := by
    unfold Stage.entries
    rw [(setText_frame st id text).1]
    rfl
  rw [hhistory, entries_note]
  exact List.append_nil _

/-- a prompt moves and says so -/
theorem Onstage.debug_moves (h : Onstage C sc st) (hv : Verbose C sc) {phase : Phase} {message text : String}
    {args : List String} (hid : st.current? name = some id) (hn : name ∈ C.names) (hphase : phase.Placed C)
    (hr : Remark (sc.request name).title (.about .debug promptLogger (sc.request name).title message args)
      (tagged (sc.request name).title text))
    (hafter : ∀ s : Standing, s.after (sc.request name).title (saying (sc.request name).title text) = phase.standing) :
    Onstage C sc ((st.setPhase id phase).debug sc id message args) ∧
      ((st.setPhase id phase).debug sc id message args).entries =
        st.entries ++ [.record (saying (sc.request name).title text)] := by
  rw [debug_eq hv hn ((h.tidy.setPhase id phase) name id hid).2 hr, entries_note, entries_setPhase]
  exact ⟨h.moves hid hn hphase hafter, rfl⟩

/-- a prompt says that a call is refused -/
theorem Onstage.debug_refuses (h : Onstage C sc st) (hv : Verbose C sc) {message text : String} {args : List String}
    (hid : st.current? name = some id) (hn : name ∈ C.names)
    (hr : Remark (sc.request name).title (.about .debug promptLogger (sc.request name).title message args)
      (tagged (sc.request name).title text))
    (hafter : ∀ s : Standing, s.after (sc.request name).title (saying (sc.request name).title text) = s) :
    Onstage C sc (st.debug sc id message args) ∧
      (st.debug sc id message args).entries = st.entries ++ [.record (saying (sc.request name).title text)] := by
  rw [debug_eq hv hn (h.tidy name id hid).2 hr, entries_note]
  exact ⟨h.refuses hn hafter, rfl⟩

/-- nothing is heard, and nothing is told -/
theorem Accounts.quiet (h : Onstage C sc st') (he : st'.entries = st.entries) (answer : Except Fault α) :
    Accounts C sc st ⟨answer, st'⟩ [] := ⟨h, by simp [he]⟩

theorem Accounts.note {r : Ran α} {heard : List Happening} (h : Accounts C sc st r heard) {m : Mark}
    (hm : m.entry? = none) (answer : Except Fault β) : Accounts C sc st ⟨answer, r.stage.note m⟩ heard where
  onstage := h.onstage.note (by rintro r rfl; cases hm)
  tells := by rw [entries_note, hm, h.tells, Option.toList_none, List.append_nil]

theorem Accounts.andThen {r : Ran α} {next : α → Stage → Ran β} {heard : List Happening}
    {later : Stage → List Happening} (hr : Accounts C sc st r heard)
    (hn : ∀ a st, Onstage C sc st → Accounts C sc st (next a st) (later st)) :
    Accounts C sc st (r.andThen next) (heard ++ r.thenHeard later) := by
  obtain ⟨answer, st'⟩ := r
  cases answer with
  | ok a =>
    have hnext := hn a st' hr.onstage
    refine ⟨hnext.onstage, ?_⟩
    rw [Ran.andThen_ok, hnext.tells, hr.tells, List.append_assoc, ← List.filterMap_append]
    rfl
  | error f =>
    refine ⟨hr.onstage, ?_⟩
    rw [Ran.andThen_error, hr.tells]
    simp [Ran.thenHeard]

/-- nothing is heard of what comes after -/
theorem Accounts.quietly {r : Ran α} {next : α → Stage → Ran β} {heard : List Happening}
    (hr : Accounts C sc st r heard) (hn : ∀ a st, Onstage C sc st → Accounts C sc st (next a st) []) :
    Accounts C sc st (r.andThen next) heard := by
  have hboth : Accounts C sc st (r.andThen next) (heard ++ r.thenHeard fun _ => []) := hr.andThen hn
  have hnothing : r.thenHeard (fun _ => []) = [] := by
    unfold Ran.thenHeard
    split <;> rfl
  rwa [hnothing, List.append_nil] at hboth

/-- what is told first -/
theorem Accounts.after {r : Ran α} {heard : List Happening} {x : Happening} {e : Entry}
    (he : st'.entries = st.entries ++ [e]) (hx : x.entry? sc = some e) (h : Accounts C sc st' r heard) :
    Accounts C sc st r (x :: heard) where
  onstage := h.onstage
  tells := by rw [h.tells, he, List.filterMap_cons_some hx, List.append_assoc]; rfl

/-! ## Scripts -/

/-- a meaning of the calls inside a script under which the log accounts for what is heard of them -/
def Accountable (C : Circle) (sc : Scene) (again : Caller) (heard : Listener) : Prop :=
  ∀ c, c.Within C → ∀ st, Onstage C sc st → Accounts C sc st (again c st) (heard c st)

section Scripts

variable {again : Caller} {heard : Listener} (ha : Accountable C sc again heard)

include ha

theorem accounts_act (cue : Cue) {action : Action} (hw : action.Within C) (h : Onstage C sc st) :
    Accounts C sc st (act again sc cue action st) (heardAct heard action st) := by
  induction action with
  | call c => exact (ha c hw st h).quietly fun answer st' h' => (Accounts.quiet h' rfl (.ok ())).note rfl _
  | raise kind message => exact .quiet h rfl _
  | attempt action ih =>
    have hr := ih hw
    unfold act heardAct
    revert hr
    obtain ⟨answer, st'⟩ := act again sc cue action st
    intro hr
    cases answer with
    | ok a => exact hr
    | error f =>
      cases f with
      | tooDeep => exact hr
      | _ => exact hr.note rfl _
  | keep => exact hw.elim
  | finish => exact hw.elim

theorem accounts_play (cue : Cue) {script : Script} (hw : Script.Within C script) (h : Onstage C sc st) :
    Accounts C sc st (play again sc cue script st) (heardPlay sc again heard cue script st) := by
  induction script generalizing st with
  | nil => exact .quiet h rfl _
  | cons action rest ih =>
    have hrest : Script.Within C rest := fun a ha => hw a (List.mem_cons_of_mem _ ha)
    exact (accounts_act ha cue (hw action List.mem_cons_self) h).andThen fun _ st' h' => ih hrest h'

omit ha in
theorem accounts_callback (id : Nat) (cb : Callback) {body : Stage → Ran Unit} {heard : Stage → List Happening}
    (hb : ∀ st, Onstage C sc st → Accounts C sc st (body st) (heard st)) (h : Onstage C sc st) :
    Accounts C sc st (callback id cb body st) (heardCallback id cb heard st) := by
  have hbegan : Onstage C sc (st.note (.began id cb)) := h.note (by simp)
  have hentries : (st.note (.began id cb)).entries = st.entries ++ [.began id cb] := entries_note st
  refine Accounts.after hentries rfl ?_
  unfold callback
  have hbody := hb _ hbegan
  revert hbody
  generalize body (st.note (.began id cb)) = r
  intro hbody
  obtain ⟨answer, st'⟩ := r
  cases answer with
  | ok a => exact hbody.note rfl _
  | error f => exact hbody

theorem accounts_handler (id : Nat) {r : Request} (cb : Callback)
    (hw : ∀ script, handlerScript r cb = some script → Script.Within C script) (h : Onstage C sc st) :
    Accounts C sc st (runHandler again sc id r cb st) (heardHandler sc again heard id r cb st) := by
  unfold runHandler heardHandler
  cases hscript : handlerScript r cb with
  | none => exact .quiet h rfl _
  | some script => exact accounts_callback id cb (fun _ h' => accounts_play ha _ (hw script hscript) h') h

/-! ## Controllers -/

variable (hv : Verbose C sc)

include hv

/-- a display of a fresh prompt: the record first, and then the surface comes up -/
theorem accounts_display {place : String} (h : Onstage C sc st) (hid : st.current? name = some id)
    (hn : name ∈ C.names) (hplace : place ∈ C.places) :
    Accounts C sc st (display again sc id (.scripted place) st)
      (.visit ⟨name, .show, st.phase id⟩ :: heardDisplay sc again heard id (.scripted place) st) := by
  have hplaced : Phase.Placed C (.shown (.scripted place)) := fun s hs => ⟨place, hplace, (Phase.shown.inj hs).symm⟩
  have hscript := hv.within.onShow place hplace
  unfold display heardDisplay
  cases hphase : st.phase id with
  | created =>
    obtain ⟨hshown, hentries⟩ := h.debug_moves hv hid hn hplaced .shown (after_shown _)
    exact .after hentries rfl (accounts_callback id _ (fun _ h' => accounts_play ha _ hscript h') hshown)
  | shown s => exact ⟨h, by simp [Happening.entry?, Visit.record?, Visit.message?]⟩
  | closed o => exact ⟨h, by simp [Happening.entry?, Visit.record?, Visit.message?]⟩

omit ha in
/-- a trigger that finds the prompt fresh or closed is ignored -/
theorem accounts_ignored (h : Onstage C sc st) (hid : st.current? name = some id) (hn : name ∈ C.names)
    (o : Outcome) {d : Demand} {p : Phase} (hopen : p.isOpen = false)
    (hd : Visit.message? sc ⟨name, d, p⟩ = some (triggerMessage o p)) (answer : Except Fault Bool) :
    Accounts C sc st ⟨answer, st.debug sc id "%s trigger ignored: prompt is %s" [o.name, p.name]⟩
      [.visit ⟨name, d, p⟩] := by
  obtain ⟨hsaid, hentries⟩ := h.debug_refuses hv hid hn (.ignored o p) (after_ignored _ · o p)
  have hentry : Happening.entry? sc (.visit ⟨name, d, p⟩) =
      some (.record (saying (sc.request name).title (o.name ++ " trigger ignored: prompt is " ++ p.name))) := by
    rw [Happening.entry?, Visit.record?, hd, triggerMessage, hopen]
    rfl
  exact .after hentries hentry (.quiet hsaid rfl _)

/-- a trigger that finds the prompt shown: its record stands before the surface's and the handlers' callbacks -/
theorem accounts_close (h : Onstage C sc st) (hid : st.current? name = some id) (hn : name ∈ C.names)
    (o : Outcome) {d : Demand}
    (hd : Visit.message? sc ⟨name, d, st.phase id⟩ = some (triggerMessage o (st.phase id))) :
    Accounts C sc st (close again sc id o st)
      (.visit ⟨name, d, st.phase id⟩ :: heardClose sc again heard id o st) := by
  have hrequest : st.request sc id = sc.request name := h.tidy.request_eq hid
  have hhandlers (cb : Callback) {st' : Stage} (h' : Onstage C sc st') :
      Accounts C sc st' (runHandler again sc id (st.request sc id) cb st')
        (heardHandler sc again heard id (st.request sc id) cb st') := by
    rw [hrequest]
    exact accounts_handler ha id cb (hv.within.handler name hn cb) h'
  unfold close heardClose
  cases hphase : st.phase id with
  | created => exact accounts_ignored hv h hid hn o rfl (hphase ▸ hd) _
  | closed o' => exact accounts_ignored hv h hid hn o rfl (hphase ▸ hd) _
  | shown s =>
    obtain ⟨place, hplace, rfl⟩ := h.placed id s hphase
    have hscript := hv.within.onClose place hplace
    have hgone : Phase.Placed C (.closed o) := fun s hs => by cases hs
    obtain ⟨hclosed, hentries⟩ := h.debug_moves hv hid hn hgone (.closed o) (after_closed _ · o)
    have hentry : Happening.entry? sc (.visit ⟨name, d, .shown (.scripted place)⟩) =
        some (.record (saying (sc.request name).title ("closed via " ++ o.name))) := by
      rw [Happening.entry?, Visit.record?, ← hphase, hd, hphase]
      rfl
    refine .after hentries hentry ?_
    have hsurface := accounts_callback id (.surfaceClose (.scripted place))
      (fun _ h' => accounts_play ha ⟨id, ""⟩ hscript h') hclosed
    refine hsurface.andThen fun _ st₁ h₁ => ?_
    refine (hhandlers (.handler o (st.text id)) h₁).andThen fun _ st₂ h₂ => ?_
    exact (hhandlers .onClosed h₂).quietly fun _ st₃ h₃ => .quiet h₃ rfl _

theorem accounts_alternate (h : Onstage C sc st) (hid : st.current? name = some id) (hn : name ∈ C.names)
    (s : Surface) :
    Accounts C sc st (alternate again sc id st)
      (.visit ⟨name, .alternate, st.phase id⟩ :: heardDemand sc again heard id s st .alternate) := by
  have hrequest : st.request sc id = sc.request name := h.tidy.request_eq hid
  have hthere {there : Bool} (hhas : (sc.request name).hasAlternate = there) :
      Visit.message? sc ⟨name, .alternate, st.phase id⟩ =
        if there then some (triggerMessage .alternate (st.phase id))
        else some "alternate trigger ignored: no alternate handler" := by
    rw [Visit.message?, hhas]
  unfold alternate heardDemand
  rw [hrequest]
  cases hhas : (sc.request name).hasAlternate with
  | true => exact accounts_close ha hv h hid hn .alternate (hthere hhas)
  | false =>
    obtain ⟨hsaid, hentries⟩ := h.debug_refuses hv hid hn .refused (after_refused _)
    have hentry : Happening.entry? sc (.visit ⟨name, .alternate, st.phase id⟩) =
        some (.record (saying (sc.request name).title "alternate trigger ignored: no alternate handler")) := by
      rw [Happening.entry?, Visit.record?, hthere hhas]
      rfl
    exact .after hentries hentry (.quiet hsaid rfl _)

theorem accounts_perform (h : Onstage C sc st) (hid : st.current? name = some id) (hn : name ∈ C.names) {verb : Verb}
    (hw : verb.Within C name) :
    Accounts C sc st (perform again sc name id verb st) (heardPerform sc again heard name id verb st) := by
  have htrigger (o : Outcome) : Accounts C sc st (close again sc id o st).flag
      (.visit ⟨name, .close o, st.phase id⟩ :: heardClose sc again heard id o st) :=
    (accounts_close ha hv h hid hn o rfl).quietly fun _ _ h' => .quiet h' rfl _
  cases verb with
  | renew => exact .quiet (h.create (Or.inl hw)) (entries_create _) _
  | display place => exact (accounts_display ha hv h hid hn hw).quietly fun _ _ h' => .quiet h' rfl _
  | setText text => exact .quiet (h.setText hid text) (entries_setText _) _
  | primary => exact htrigger .primary
  | submit => exact htrigger .primary
  | alternate => exact (accounts_alternate ha hv h hid hn _).quietly fun _ _ h' => .quiet h' rfl _
  | cancel => exact htrigger .cancel
  | dismiss => exact htrigger .dismissed
  | close o => exact htrigger o
  | hasAlternate => exact .quiet h rfl _
  | cancelLabel default => exact .quiet h rfl _
  | assign field => exact .quiet h rfl _

/-! ## Calls -/

theorem accountable_call : Accountable C sc (call again sc) (heardCall sc again heard) := by
  intro c hw st h
  cases c with
  | prompt name verb =>
    obtain ⟨hperform, hentries⟩ : Accounts C sc (st.ensure sc name)
        (perform again sc name ((st.ensure sc name).currentId name) verb (st.ensure sc name))
        (heardPerform sc again heard name ((st.ensure sc name).currentId name) verb (st.ensure sc name)) :=
      accounts_perform ha hv (h.ensure name) (current?_ensure st sc name) hw.1 hw.2
    rw [entries_ensure] at hentries
    exact ⟨hperform, hentries⟩
  | present name => exact absurd hw.2.2 hv.screens
  | notice message => exact absurd hw hv.screens

end Scripts

/-- **The log accounts for every call**, whatever the bound on nesting. -/
theorem accountable_exec (hv : Verbose C sc) (depth : Nat) :
    Accountable C sc (exec sc depth) (hearing sc depth) := by
  induction depth with
  | zero => exact fun c _ st h => .quiet h rfl _
  | succ depth ih => exact accountable_call ih hv

/-! ## Runs -/

/-- what the log tells during one call from outside: the records that are owed, each in front of the callbacks that its
call runs -/
structure Told (sc : Scene) (heard : List Happening) (r : Report) : Prop where
  order : r.marks.filterMap Mark.entry? = heard.filterMap (Happening.entry? sc)
  records : recordsOf r.marks = heard.filterMap (Happening.record? sc)

/-- the records among reports -/
def recordsIn (reports : List Report) : List Record := reports.flatMap (recordsOf ·.marks)

theorem recordsOf_eq (marks : List Mark) : recordsOf marks = (marks.filterMap Mark.entry?).filterMap Entry.record? := by
  rw [List.filterMap_filterMap]
  refine List.filterMap_congr fun m _ => ?_
  cases m <;> rfl

theorem Happening.record?_eq (sc : Scene) (x : Happening) : x.record? sc = (x.entry? sc).bind Entry.record? := by
  cases x with
  | visit v => cases hv : v.record? sc <;> simp [Happening.record?, Happening.entry?, hv, Entry.record?]
  | began id cb => rfl

theorem told_of_accounts {r : Ran Answer} {heard : List Happening} (h : Accounts C sc st r heard)
    (hs : st.history <:+ r.stage.history) : Told sc heard ⟨r.answer, st.marksSince r.stage, r.stage⟩ := by
  obtain ⟨ms, hms⟩ := hs
  have hentries : (st.marksSince r.stage).filterMap Mark.entry? = heard.filterMap (Happening.entry? sc) := by
    have htells := h.tells
    rw [Stage.entries, ← hms, List.reverse_append, List.filterMap_append] at htells
    rw [marksSince_eq hms.symm]
    exact List.append_cancel_left htells
  refine ⟨hentries, ?_⟩
  have howed : heard.filterMap (Happening.record? sc) =
      (heard.filterMap (Happening.entry? sc)).filterMap Entry.record? := by
    rw [List.filterMap_filterMap]
    exact List.filterMap_congr fun x _ => x.record?_eq sc
  rw [howed, ← hentries]
  exact recordsOf_eq _

theorem told_reports (hv : Verbose C sc) (depth : Nat) {calls : List Call} (hw : ∀ c ∈ calls, c.Within C)
    (hs : Sound sc st) (h : Onstage C sc st) :
    List.Forall₂ (Told sc) (hearingAll sc depth calls st) (reportsWithin sc depth calls st) ∧
      Onstage C sc (runWithin sc depth calls st) ∧
      recordsOf (runWithin sc depth calls st).history.reverse =
        recordsOf st.history.reverse ++ recordsIn (reportsWithin sc depth calls st) := by
  induction calls generalizing st with
  | nil => exact ⟨.nil, h, (List.append_nil _).symm⟩
  | cons c rest ih =>
    obtain ⟨hsound, hextends⟩ := tame_exec sc depth c st hs
    have haccounts := accountable_exec hv depth c (hw c List.mem_cons_self) st h
    obtain ⟨hrest, honstage, hrecords⟩ := ih (fun c hc => hw c (List.mem_cons_of_mem _ hc)) hsound haccounts.onstage
    refine ⟨.cons (told_of_accounts haccounts hextends.suffix) hrest, honstage, ?_⟩
    obtain ⟨ms, hms⟩ := hextends.suffix
    have hcall : recordsOf (exec sc depth c st).stage.history.reverse =
        recordsOf st.history.reverse ++ recordsOf (st.marksSince (exec sc depth c st).stage) := by
      rw [marksSince_eq hms.symm, ← hms, List.reverse_append]
      exact List.filterMap_append
    calc recordsOf (runWithin sc depth (c :: rest) st).history.reverse
        = recordsOf (runWithin sc depth rest (exec sc depth c st).stage).history.reverse := rfl
      _ = recordsOf st.history.reverse ++ recordsOf (st.marksSince (exec sc depth c st).stage) ++
            recordsIn (reportsWithin sc depth rest (exec sc depth c st).stage) := by rw [hrecords, hcall]
      _ = recordsOf st.history.reverse ++ recordsIn (reportsWithin sc depth (c :: rest) st) := by
        rw [List.append_assoc]
        rfl

/-- the log of a run as an account of it -/
structure Accounted (C : Circle) (sc : Scene) (depth : Nat) (calls : List Call) : Prop where
  /-- call by call from outside -/
  reports : List.Forall₂ (Told sc) (hearingAll sc depth calls .empty) (reportsWithin sc depth calls .empty)
  /-- how every prompt stands in the end can be read off the log alone -/
  standing : Distinct C sc → ∀ n ∈ C.names,
    ((runWithin sc depth calls .empty).prompt sc n).phase.standing =
      told (sc.request n).title (recordsIn (reportsWithin sc depth calls .empty))

/-- **The log is an account of the run**: for every scene whose titles hold no percent sign, every sequence of calls on
prompts and every bound on how deeply they nest. -/
theorem log_accounts (hv : Verbose C sc) (depth : Nat) {calls : List Call} (hcalls : ∀ c ∈ calls, c.Within C) :
    Accounted C sc depth calls := by
  obtain ⟨htold, honstage, hrecords⟩ := told_reports hv depth hcalls sound_empty (onstage_empty C sc)
  refine ⟨htold, fun hd n hn => ?_⟩
  rw [honstage.standing hd n hn, hrecords]
  rfl

/-- one prompt's handler brings up the other, cancels its own prompt, which is closed by then, and fails -/
def quarrel : Scene where
  request name := { Request.titled name with
    onPrimary := [.call (.prompt "b" (.display none)), .attempt (.call (.prompt "a" .cancel)), .raise .value "no"] }
  surface _ := ⟨[], [.call (.prompt "b" .alternate)]⟩
  threshold := 10
  cancelLabel := "Cancel"
  escapeDismisses := true

/-- two prompts, each with a surface of its name -/
def couple : Circle := ⟨{"a", "b"}, {"a", "b"}, False, False⟩

theorem verbose_quarrel : Verbose couple quarrel where
  within := {
    handler := by
      intro name _ cb script hs
      have hscript : script = (quarrel.request name).onPrimary := by
        cases cb with
        | handler o text => cases o <;> simp_all [handlerScript, Request.handlerFor, quarrel, Request.titled]
        | _ => simp [handlerScript, quarrel, Request.titled] at hs
      rw [hscript]
      simp [Script.Within, Action.Within, Call.Within, Verb.Within, couple, quarrel]
    onShow := by simp [Script.Within, quarrel]
    onClose := by simp [Script.Within, Action.Within, Call.Within, Verb.Within, couple, quarrel] }
  screens := id
  debug := Nat.le_refl _
  plain := by
    rintro n (rfl | rfl) <;> decide

theorem distinct_quarrel : Distinct couple quarrel where
  titles _ _ _ _ h := h
  renewals := id

theorem log_accounts_quarrel :
    Accounted couple quarrel 9 [.prompt "a" (.display none), .prompt "a" .primary] ∧
      told "a" (recordsIn (reportsWithin quarrel 9 [.prompt "a" (.display none), .prompt "a" .primary] .empty)) =
        .closed .primary ∧
      told "b" (recordsIn (reportsWithin quarrel 9 [.prompt "a" (.display none), .prompt "a" .primary] .empty)) =
        .shown := by
  have h : Accounted couple quarrel 9 [.prompt "a" (.display none), .prompt "a" .primary] :=
    log_accounts verbose_quarrel 9 (by simp [Call.Within, Verb.Within, couple])
  exact ⟨h, (h.standing distinct_quarrel "a" (Or.inl rfl)).symm, (h.standing distinct_quarrel "b" (Or.inr rfl)).symm⟩

end LinePrompt.Prompt
