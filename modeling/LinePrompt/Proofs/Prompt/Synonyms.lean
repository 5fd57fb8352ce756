/-
Calls by other names, and calls that do nothing.

Some calls are two names for one thing: `submit` is `primary`, both close with the primary outcome, `cancel` and
`dismiss` close with theirs, and so does `alternate` where there is an alternate handler. The plain form of a call
(`Call.plain`) is the one name for them all, and the plain form of a scene has every call of its scripts in plain form.
`exec_plain` says that a call does what its plain form does, at any depth of any scripts, up to the names of the calls
that the history repeats. So scenes and calls with the same plain forms cannot be told apart otherwise.

Where there is no alternate handler, `alternate` is refused, and whether it is called can be seen from the record and
the answer of that call alone: the runs with and without it are in step.
-/
import LinePrompt.Proofs.Prompt.Lockstep

namespace LinePrompt.Prompt

open LinePrompt.Log LinePrompt.Screen

variable {sc : Scene} {st st' : Stage} {id : Nat} {name : String} {alt : String → Bool} {α β : Type}

/-! ## Plain forms -/

/-- the plain form of a verb on a prompt with or without an alternate handler -/
def Verb.plain (alt : Bool) : Verb → Verb
  | .primary => .close .primary
  | .submit => .close .primary
  | .alternate => if alt then .close .alternate else .alternate
  | .cancel => .close .cancel
  | .dismiss => .close .dismissed
  | verb => verb

def Call.plain (alt : String → Bool) : Call → Call
  | .prompt name verb => .prompt name (verb.plain (alt name))
  | c => c

def Action.plain (alt : String → Bool) : Action → Action
  | .call c => .call (c.plain alt)
  | .attempt action => .attempt (action.plain alt)
  | action => action

def Script.plain (alt : String → Bool) (script : Script) : Script := script.map (Action.plain alt)

def Request.plain (alt : String → Bool) (r : Request) : Request :=
  { r with
    onPrimary := Script.plain alt r.onPrimary
    onAlternate := r.onAlternate.map (Script.plain alt)
    onCancel := r.onCancel.map (Script.plain alt)
    onClosed := r.onClosed.map (Script.plain alt) }

/-- the prompts that have an alternate handler -/
def Scene.alternates (sc : Scene) (name : String) : Bool := (sc.request name).hasAlternate

def Scene.plain (sc : Scene) : Scene :=
  { sc with
    request := fun name => (sc.request name).plain sc.alternates
    surface := fun place =>
      ⟨Script.plain sc.alternates (sc.surface place).onShow, Script.plain sc.alternates (sc.surface place).onClose⟩ }

/-- a mark with the call that it repeats in plain form -/
def Mark.plain (alt : String → Bool) : Mark → Mark
  | .returned call answer => .returned (call.plain alt) answer
  | m => m

def Stage.plain (alt : String → Bool) (st : Stage) : Stage := { st with history := st.history.map (Mark.plain alt) }

def Report.plain (alt : String → Bool) (r : Report) : Report :=
  { r with marks := r.marks.map (Mark.plain alt), stage := r.stage.plain alt }

@[simp] theorem alternates_plain (sc : Scene) : sc.plain.alternates = sc.alternates := by
  funext name
  simp [Scene.alternates, Scene.plain, Request.plain, Request.hasAlternate]

theorem handlerScript_plain (r : Request) (cb : Callback) :
    handlerScript (r.plain alt) cb = (handlerScript r cb).map (Script.plain alt) := by
  cases cb with
  | handler o text => cases o <;> rfl
  | _ => rfl

/-! ## Changes of a stage -/

theorem log_plain (st : Stage) (sc : Scene) (severity : Severity) (record : Unit → Record) :
    (st.plain alt).log sc.plain severity record = (st.log sc severity record).plain alt := by
  unfold Stage.log
  rw [show sc.plain.threshold = sc.threshold from rfl]
  split_ifs <;> rfl

theorem setPhase_plain (st : Stage) (id : Nat) (phase : Phase) :
    (st.plain alt).setPhase id phase = (st.setPhase id phase).plain alt := rfl

theorem setText_plain (st : Stage) (id : Nat) (text : String) :
    (st.plain alt).setText id text = (st.setText id text).plain alt := by
  unfold Stage.setText
  rw [show (st.plain alt).phase id = st.phase id from rfl]
  split <;> rfl

theorem ensure_plain (st : Stage) (name : String) :
    (st.plain alt).ensure sc.plain name = (st.ensure sc name).plain alt := by
  unfold Stage.ensure
  rw [show (st.plain alt).current? name = st.current? name from rfl]
  split_ifs <;> rfl

theorem pop_plain (st : Stage) (why : Departure) : (st.plain alt).pop why = (st.pop why).plain alt := by
  unfold Stage.pop
  rw [show (st.plain alt).host = st.host from rfl]
  split <;> rfl

theorem debug_plain (st : Stage) (sc : Scene) (id : Nat) (message : String) (args : List String) :
    (st.plain alt).debug sc.plain id message args = (st.debug sc id message args).plain alt :=
  log_plain st sc .debug _

theorem report_plain (st : Stage) (sc : Scene) (id : Nat) (severity : Severity) (logger after : String) :
    (st.plain alt).report sc.plain id severity logger after = (st.report sc id severity logger after).plain alt :=
  log_plain st sc severity _

theorem finishWith_plain (cue : Cue) (st : Stage) :
    finishWith sc.plain cue (st.plain alt) = (finishWith sc cue st).plain alt := by
  have hphase : (st.plain alt).phase cue.controller = st.phase cue.controller := rfl
  have htext : (st.plain alt).text cue.controller = st.text cue.controller := rfl
  have hthreshold : sc.plain.threshold = sc.threshold := rfl
  simp only [finishWith, Stage.report, Stage.log, hphase, htext, hthreshold]
  split_ifs <;> rfl

theorem closeDialog_plain (id screen : Nat) (st : Stage) :
    closeDialog sc.plain id screen (st.plain alt) = (closeDialog sc id screen st).plain alt := by
  unfold closeDialog
  rw [show (st.plain alt).host = st.host from rfl]
  split_ifs
  · rfl
  · exact pop_plain st _
  · exact report_plain st sc _ _ _ _

theorem Tidy.finishWith (ht : Tidy st) (sc : Scene) (cue : Cue) : Tidy (finishWith sc cue st) := by
  have hkept (kept : String) : Tidy { st with kept } := ht
  exact (hkept _).log _ _

theorem Tidy.closeDialog (ht : Tidy st) (sc : Scene) (id screen : Nat) : Tidy (closeDialog sc id screen st) := by
  unfold Prompt.closeDialog
  split_ifs
  · exact ht
  · unfold Stage.pop
    split <;> exact ht
  · exact ht.log _ _

/-! ## Computations -/

/-- a computation on the plain stage gives what the other gives, on its stage's plain form; names stay in order -/
structure Tells (alt : String → Bool) (r r' : Ran α) : Prop where
  tidy : Tidy r.stage
  same : r' = ⟨r.answer, r.stage.plain alt⟩

theorem Tells.of_tidy (ht : Tidy st) (answer : Except Fault α) : Tells alt ⟨answer, st⟩ ⟨answer, st.plain alt⟩ :=
  ⟨ht, rfl⟩

theorem tells_debug (ht : Tidy st) (answer : Except Fault α) (id : Nat) (message : String) (args : List String) :
    Tells alt ⟨answer, st.debug sc id message args⟩ ⟨answer, (st.plain alt).debug sc.plain id message args⟩ := by
  rw [debug_plain]
  exact .of_tidy (ht.log _ _) _

theorem Tells.andThen {r r' : Ran α} {next next' : α → Stage → Ran β} (hr : Tells alt r r')
    (hn : ∀ a st, Tidy st → Tells alt (next a st) (next' a (st.plain alt))) :
    Tells alt (r.andThen next) (r'.andThen next') := by
  obtain ⟨answer, st⟩ := r
  obtain ⟨ht, rfl⟩ := hr
  cases answer with
  | ok a => exact hn a st ht
  | error f => exact .of_tidy ht _

/-- calls that do what their plain forms do -/
def Plainly (alt : String → Bool) (again again' : Caller) : Prop :=
  ∀ c st, Tidy st → Tells alt (again c st) (again' (c.plain alt) (st.plain alt))

section Scripts

variable {again again' : Caller} (ha : Plainly sc.alternates again again')

include ha

theorem tells_act (cue : Cue) (action : Action) (ht : Tidy st) :
    Tells sc.alternates (act again sc cue action st)
      (act again' sc.plain cue (action.plain sc.alternates) (st.plain sc.alternates)) := by
  induction action with
  | call c => exact (ha c st ht).andThen fun answer st' ht' => ⟨ht', rfl⟩
  | raise kind message => exact .of_tidy ht _
  | attempt action ih =>
    obtain ⟨ht', he⟩ := ih
    rw [Action.plain, act, act, he]
    revert ht'
    obtain ⟨answer, st'⟩ := act again sc cue action st
    intro ht'
    cases answer with
    | ok a => exact .of_tidy ht' _
    | error f => cases f <;> exact ⟨ht', rfl⟩
  | keep => exact ⟨ht, rfl⟩
  | finish => exact ⟨ht.finishWith sc cue, congrArg (Ran.mk _) (finishWith_plain cue st)⟩

theorem tells_play (cue : Cue) (script : Script) (ht : Tidy st) :
    Tells sc.alternates (play again sc cue script st)
      (play again' sc.plain cue (Script.plain sc.alternates script) (st.plain sc.alternates)) := by
  induction script generalizing st with
  | nil => exact .of_tidy ht _
  | cons action rest ih => exact (tells_act ha cue action ht).andThen fun _ _ ht' => ih ht'

omit ha in
theorem tells_callback (id : Nat) (cb : Callback) {body body' : Stage → Ran Unit}
    (hb : ∀ st, Tidy st → Tells alt (body st) (body' (st.plain alt))) (ht : Tidy st) :
    Tells alt (callback id cb body st) (callback id cb body' (st.plain alt)) :=
  (hb (st.note (.began id cb)) ht).andThen fun _ _ ht' => ⟨ht', rfl⟩

/-! ## Controllers -/

theorem tells_surfaceShow (id : Nat) (s : Surface) (ht : Tidy st) :
    Tells sc.alternates (surfaceShow again sc id s st) (surfaceShow again' sc.plain id s (st.plain sc.alternates)) := by
  cases s with
  | scripted place => exact tells_play ha _ _ ht
  | dialog k => exact ⟨ht, rfl⟩

theorem tells_surfaceClose (id : Nat) (s : Surface) (ht : Tidy st) :
    Tells sc.alternates (surfaceClose again sc id s st)
      (surfaceClose again' sc.plain id s (st.plain sc.alternates)) := by
  cases s with
  | scripted place => exact tells_play ha _ _ ht
  | dialog k => exact ⟨ht.closeDialog sc id k, congrArg (Ran.mk _) (closeDialog_plain id k st)⟩

theorem tells_display (id : Nat) (s : Surface) (ht : Tidy st) :
    Tells sc.alternates (display again sc id s st) (display again' sc.plain id s (st.plain sc.alternates)) := by
  unfold display
  rw [show (st.plain sc.alternates).phase id = st.phase id from rfl]
  cases st.phase id with
  | created =>
    have h1 : Tidy ((st.setPhase id (.shown s)).debug sc id "shown" []) := (ht.setPhase id _).log _ _
    simp only [setPhase_plain, debug_plain]
    exact tells_callback id (.surfaceShow s) (fun st' ht' => tells_surfaceShow ha id s ht') h1
  | shown s => exact ⟨ht, rfl⟩
  | closed o => exact ⟨ht, rfl⟩

theorem tells_runHandler (id : Nat) (r : Request) (cb : Callback) (ht : Tidy st) :
    Tells sc.alternates (runHandler again sc id r cb st)
      (runHandler again' sc.plain id (r.plain sc.alternates) cb (st.plain sc.alternates)) := by
  unfold runHandler
  rw [handlerScript_plain]
  cases handlerScript r cb with
  | none => exact ⟨ht, rfl⟩
  | some script => exact tells_callback id cb (fun st' ht' => tells_play ha _ script ht') ht

theorem tells_close (id : Nat) (o : Outcome) (ht : Tidy st) :
    Tells sc.alternates (close again sc id o st) (close again' sc.plain id o (st.plain sc.alternates)) := by
  unfold close
  rw [show (st.plain sc.alternates).phase id = st.phase id from rfl]
  cases st.phase id with
  | shown s =>
    have h1 : Tidy ((st.setPhase id (.closed o)).debug sc id "closed via %s" [o.name]) := (ht.setPhase id _).log _ _
    have hreq : (st.plain sc.alternates).request sc.plain id = (st.request sc id).plain sc.alternates := rfl
    have htext : (st.plain sc.alternates).text id = st.text id := rfl
    simp only [hreq, htext, setPhase_plain, debug_plain]
    have h2 := tells_callback id (.surfaceClose s) (fun st' ht' => tells_surfaceClose ha id s ht') h1
    refine h2.andThen fun _ _ h3 => ?_
    refine (tells_runHandler ha id (st.request sc id) (.handler o (st.text id)) h3).andThen fun _ _ h4 => ?_
    refine (tells_runHandler ha id (st.request sc id) .onClosed h4).andThen fun _ _ h5 => ?_
    exact .of_tidy h5 _
  | created => exact tells_debug ht _ id _ _
  | closed o' => exact tells_debug ht _ id _ _

theorem tells_alternate (id : Nat) (ht : Tidy st) :
    Tells sc.alternates (alternate again sc id st) (alternate again' sc.plain id (st.plain sc.alternates)) := by
  have halt : ((st.plain sc.alternates).request sc.plain id).hasAlternate = (st.request sc id).hasAlternate :=
    congrFun (alternates_plain sc) _
  unfold alternate
  rw [halt]
  split_ifs
  · exact tells_close ha id .alternate ht
  · exact tells_debug ht _ id _ _

/-! ## Calls -/

omit ha in
theorem Tells.flag {r r' : Ran Bool} (hr : Tells alt r r') : Tells alt r.flag r'.flag :=
  hr.andThen fun _ _ ht => ⟨ht, rfl⟩

omit ha in
theorem Tells.silent {r r' : Ran Unit} (hr : Tells alt r r') : Tells alt r.silent r'.silent :=
  hr.andThen fun _ _ ht => ⟨ht, rfl⟩

/-- a verb does what its plain form does, on a controller of the prompt -/
theorem tells_perform (hid : st.current? name = some id) (verb : Verb) (ht : Tidy st) :
    Tells sc.alternates (perform again sc name id verb st)
      (perform again' sc.plain name id (verb.plain (sc.alternates name)) (st.plain sc.alternates)) := by
  cases verb with
  | renew => exact ⟨ht.create, rfl⟩
  | display place => exact (tells_display ha id _ ht).silent
  | setText text => exact ⟨ht.setText id text, congrArg (Ran.mk _) (setText_plain st id text)⟩
  | primary => exact (tells_close ha id .primary ht).flag
  | submit => exact (tells_close ha id .primary ht).flag
  | alternate =>
    have hreq : (st.request sc id).hasAlternate = sc.alternates name :=
      congrArg Request.hasAlternate (ht.request_eq hid)
    unfold Verb.plain
    split_ifs with halt
    · have hclose : alternate again sc id st = close again sc id .alternate st := by
        rw [alternate, hreq, if_pos halt]
      rw [perform, hclose]
      exact (tells_close ha id .alternate ht).flag
    · exact (tells_alternate ha id ht).flag
  | cancel => exact (tells_close ha id .cancel ht).flag
  | dismiss => exact (tells_close ha id .dismissed ht).flag
  | close outcome => exact (tells_close ha id outcome ht).flag
  | hasAlternate =>
    have halt : ((st.plain sc.alternates).request sc.plain id).hasAlternate = (st.request sc id).hasAlternate :=
      congrFun (alternates_plain sc) _
    refine ⟨ht, ?_⟩
    exact congrArg (fun b => Ran.mk (.ok (Answer.flag b)) (st.plain sc.alternates)) halt
  | cancelLabel default => exact ⟨ht, rfl⟩
  | assign field => exact ⟨ht, rfl⟩

/-- a call does what its plain form does, if the calls inside of its scripts do -/
theorem plainly_call : Plainly sc.alternates (call again sc) (call again' sc.plain) := by
  intro c st ht
  cases c with
  | prompt name verb =>
    unfold call
    simp only [Call.plain, ensure_plain]
    exact tells_perform ha (current?_ensure st sc name) verb ht.ensure
  | present name =>
    have hmade : Tidy (st.create sc name) := ht.create
    have h1 (host : Host) : Tidy { st.create sc name with host } := hmade
    exact (tells_display ha st.controllers.length (.dialog st.host.screens.length) (h1 _)).silent
  | notice message => exact ⟨ht, rfl⟩

end Scripts

/-- **A call does what its plain form does**, at any depth of any scripts. -/
theorem exec_plain (sc : Scene) (depth : Nat) : Plainly sc.alternates (exec sc depth) (exec sc.plain depth) := by
  induction depth with
  | zero => exact fun _ _ ht => ⟨ht, rfl⟩
  | succ depth ih => exact plainly_call ih

/-! ## Runs in plain form -/

theorem marksSince_plain (alt : String → Bool) (st st' : Stage) :
    (st.plain alt).marksSince (st'.plain alt) = (st.marksSince st').map (Mark.plain alt) := by
  simp [Stage.marksSince, Stage.plain, List.map_take]

/-- the reports of a run are those of its plain form, up to the names of the calls that they repeat -/
theorem reportsWithin_plain (sc : Scene) (depth : Nat) (calls : List Call) (ht : Tidy st) :
    (reportsWithin sc depth calls st).map (Report.plain sc.alternates) =
      reportsWithin sc.plain depth (calls.map (Call.plain sc.alternates)) (st.plain sc.alternates) := by
  induction calls generalizing st with
  | nil => rfl
  | cons c rest ih =>
    obtain ⟨ht', he⟩ := exec_plain sc depth c st ht
    rw [reportsWithin, List.map_cons, List.map_cons, reportsWithin, he, ih ht', marksSince_plain]
    rfl

/-! ## Runs without refused calls -/

/-- Two runs seen beside each other, from where the prompts of the second stand as given. Every call of the second is
one of the first: both give the same, the same is seen of them but for refused calls inside of their scripts, and all
prompts stand alike after them. The other calls of the first run are refused, and no prompt notices. -/
inductive Answered (sc : Scene) (muted : Set String) : (String → Controller) → List Seen → List Seen → Prop where
  | nil {prompts : String → Controller} : Answered sc muted prompts [] []
  | kept {prompts : String → Controller} {x y : Seen} {rest rest' : List Seen} (call : y.call = x.call)
    (answer : y.answer = x.answer) (sights : Faded sc muted x.sights y.sights) (prompt : y.prompt = x.prompt)
    (later : Answered sc muted y.prompt rest rest') : Answered sc muted prompts (x :: rest) (y :: rest')
  | leftOut {prompts : String → Controller} {x : Seen} {rest rest' : List Seen} (name : String) (refused : name ∈ muted)
    (call : x.call = .prompt name .alternate) (answer : x.answer = .ok (.flag false))
    (sights : x.sights = sc.refusal name) (prompt : x.prompt = prompts)
    (later : Answered sc muted prompts rest rest') : Answered sc muted prompts (x :: rest) rest'

theorem Twins.Alike.prompt_eq {P : Twins} {a b : Stage} (hall : P.circle = .everything) (h : P.Alike a b) :
    b.prompt P.thin = a.prompt P.full := by
  funext n
  refine h.prompts n ?_
  rw [hall]
  trivial

/-- twins that keep to no narrower circle answer alike, call by call, until a call nests too deeply -/
theorem answered_of_alike {P : Twins} {a b : Stage} {depth : Nat} {calls calls' : List Call}
    (hall : P.circle = .everything) (ht : Without (Call.Mutes P.muted) calls calls') (h : P.Alike a b)
    (hdeep : ∀ x ∈ seen P.full depth calls a, x.answer ≠ .error .tooDeep) :
    Answered P.full P.muted (b.prompt P.thin) (seen P.full depth calls a) (seen P.thin depth calls' b) := by
  have hwithin (c : Call) : c.Within P.circle := by
    rw [hall]
    cases c with
    | prompt name verb => cases verb <;> simp [Call.Within, Verb.Within, Circle.everything]
    | _ => simp [Call.Within, Circle.everything]
  induction ht generalizing a b with
  | nil => exact .nil
  | keep c _ ih =>
    rw [seen_cons] at hdeep ⊢
    rw [seen_cons]
    rcases P.lock_exec depth c (hwithin c) a b h with ⟨hf, -⟩ | ⟨hanswer, hs⟩
    · exact absurd hf (hdeep _ List.mem_cons_self)
    · exact .kept rfl hanswer hs.seen (hs.alike.prompt_eq hall)
        (ih hs.alike fun x hx => hdeep x (List.mem_cons_of_mem _ hx))
  | @drop c _ _ hm _ ih =>
    obtain ⟨n, hn, rfl⟩ := Call.eq_alternate hm
    rw [seen_cons] at hdeep ⊢
    rcases P.refuses_exec depth n hn (hwithin (.prompt n .alternate)).1 a h.left with hf | ⟨a', he, hp⟩
    · exact absurd hf (hdeep _ List.mem_cons_self)
    · rw [he] at hdeep ⊢
      have h' := hp.alike h
      exact .leftOut n hn rfl rfl hp.turns.seen (h'.prompt_eq hall).symm
        (ih h' fun x hx => hdeep x (List.mem_cons_of_mem _ hx))

/-! ## Every run -/

/-- **Synonyms cannot be told apart, and refused calls change nothing.** Two scenes and two sequences of calls with the
same plain forms give the same reports, up to the names of the calls that these repeat. And if some calls of the
alternate control of prompts that have none are left out, from scripts or from the calls, the others go as before. -/
theorem synonyms_and_refusals (sc : Scene) (depth : Nat) (calls : List Call) :
    (∀ sc' calls', sc'.plain = sc.plain →
      calls'.map (Call.plain sc'.alternates) = calls.map (Call.plain sc.alternates) →
      (reportsWithin sc' depth calls' .empty).map (Report.plain sc.alternates) =
        (reportsWithin sc depth calls .empty).map (Report.plain sc.alternates)) ∧
    ∀ muted sc' calls', (∀ n ∈ muted, sc.alternates n = false) → sc.Within .everything → sc.Thins muted sc' →
      Without (Call.Mutes muted) calls calls' → (∀ x ∈ seen sc depth calls .empty, x.answer ≠ .error .tooDeep) →
      Answered sc muted (Controller.fresh sc) (seen sc depth calls .empty) (seen sc' depth calls' .empty) := by
  constructor
  · intro sc' calls' hsc hcalls
    have halt : sc'.alternates = sc.alternates := by rw [← alternates_plain, hsc, alternates_plain]
    have h' := reportsWithin_plain sc' depth calls' tidy_empty
    rw [hcalls, hsc, halt] at h'
    rw [h', reportsWithin_plain sc depth calls tidy_empty]
  · intro muted sc' calls' hmuted hwithin hthins hcalls hdeep
    let P : Twins := ⟨.everything, muted, sc, sc', hthins, hwithin, hmuted⟩
    have hprompt : Stage.empty.prompt sc' = Controller.fresh sc := P.alike_empty.prompt_eq rfl
    have hall := answered_of_alike (P := P) rfl hcalls P.alike_empty hdeep
    exact hprompt ▸ hall

/-- prompts whose handlers confirm another prompt by its keyboard, and ask in vain for its alternate control -/
def chatty : Scene where
  request name := { Request.titled name with
    onPrimary := [.call (.prompt "b" .submit), .attempt (.call (.prompt "b" .alternate))] }
  surface _ := ⟨[], []⟩
  threshold := 10
  cancelLabel := "Cancel"
  escapeDismisses := true

/-- the same by other names -/
def frank : Scene := { chatty with
  request := fun name => { Request.titled name with
    onPrimary := [.call (.prompt "b" (.close .primary)), .attempt (.call (.prompt "b" .alternate))] } }

/-- the same without asking in vain -/
def quiet : Scene := { chatty with
  request := fun name => { Request.titled name with onPrimary := [.call (.prompt "b" .submit)] } }

theorem within_chatty : chatty.Within .everything where
  handler name _ cb script hs := by
    have hscript : script = [] ∨ script = (chatty.request name).onPrimary := by
      cases cb with
      | handler o text => cases o <;> simp_all [handlerScript, Request.handlerFor, chatty, Request.titled]
      | _ => simp [handlerScript, chatty, Request.titled] at hs
    rcases hscript with rfl | rfl <;>
      simp [Script.Within, Action.Within, Call.Within, Verb.Within, Circle.everything, chatty]
  onShow place _ := by simp [Script.Within, chatty]
  onClose place _ := by simp [Script.Within, chatty]

theorem thins_quiet : chatty.Thins {"b"} quiet where
  request name := {
    title := rfl
    initialValue := rfl
    cancelLabel := rfl
    handler := by
      rintro (s | s | ⟨o, text⟩ | _)
      · exact .none
      · exact .none
      · cases o with
        | primary => exact .some (.keep _ (.drop rfl .nil))
        | _ => exact .none
      · exact .none }
  onShow place := .nil
  onClose place := .nil
  threshold := rfl

theorem chatty_frank_quiet :
    (reportsWithin frank 9 [.prompt "a" (.display none), .prompt "b" .alternate, .prompt "a" .primary] .empty).map
        (Report.plain chatty.alternates) =
      (reportsWithin chatty 9 [.prompt "a" (.display none), .prompt "b" .alternate, .prompt "a" .submit] .empty).map
        (Report.plain chatty.alternates) ∧
    Answered chatty {"b"} (Controller.fresh chatty)
      (seen chatty 9 [.prompt "a" (.display none), .prompt "b" .alternate, .prompt "a" .submit] .empty)
      (seen quiet 9 [.prompt "a" (.display none), .prompt "a" .submit] .empty) := by
  have h := synonyms_and_refusals chatty 9 [.prompt "a" (.display none), .prompt "b" .alternate, .prompt "a" .submit]
  have hanswers : (seen chatty 9 [.prompt "a" (.display none), .prompt "b" .alternate, .prompt "a" .submit] .empty).map
      (·.answer) = [.ok .nothing, .ok (.flag false), .ok (.flag true)] := rfl
  refine ⟨h.1 frank _ rfl rfl, h.2 {"b"} quiet _ (fun _ _ => rfl) within_chatty thins_quiet ?_ ?_⟩
  · exact .keep _ (.drop rfl (.keep _ .nil))
  · intro x hx
    have hmem := List.mem_map_of_mem (f := (·.answer)) hx
    rw [hanswers] at hmem
    rintro he
    simp [he] at hmem

end LinePrompt.Prompt
