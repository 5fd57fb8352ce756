/-
Every call comes to an end.

Scripts may call each other and themselves back without end to it in the text: the handler of one prompt closes
another, whose handler shows the first. What runs out is the prompts. Each comes up once and closes once, and a script
runs only when one of these happens, so the number of both still to come (`toCome`) falls before each script begins,
and no fault brings it back. `SureAt` says this of one computation, beside what follows from it: once calls may nest
more deeply than there is something to come, the bound on their nesting is never met and makes no difference.

- `sure_exec`: a call under a large enough bound returns or faults, but never nests too deeply.
- `Legal.length_openAt_le`: at no moment are more than two callbacks of each controller under way.
- `Legal.length_started_le`: each controller has at most four callbacks in all.
- `scripts_run_out`: so for every sequence of calls on finitely many prompts.
-/
import Mathlib.Algebra.Order.BigOperators.Ring.Finset
import Mathlib.Data.Finset.Prod
import LinePrompt.Proofs.Prompt.Callbacks
import LinePrompt.Proofs.Prompt.Circles

namespace LinePrompt.Prompt

open LinePrompt.Log LinePrompt.Screen

variable {sc : Scene} {st st' : Stage} {id : Nat} {name : String} {names : Finset String} {places : Set String}

/-! ## What is still to come -/

/-- how often a prompt can still come up or close -/
def Phase.toCome : Phase → Nat
  | .created => 2
  | .shown _ => 1
  | .closed _ => 0

/-- how often the prompts of these names can still come up or close -/
def toCome (sc : Scene) (names : Finset String) (st : Stage) : Nat := ∑ n ∈ names, (st.prompt sc n).phase.toCome

theorem toCome_le (sc : Scene) (names : Finset String) (st : Stage) : toCome sc names st ≤ 2 * names.card := by
  have hle : ∀ n ∈ names, (st.prompt sc n).phase.toCome ≤ 2 := fun n _ => by
    cases (st.prompt sc n).phase <;> simp [Phase.toCome]
  calc toCome sc names st ≤ ∑ _n ∈ names, 2 := Finset.sum_le_sum hle
    _ = 2 * names.card := by rw [Finset.sum_const_nat fun _ _ => rfl, Nat.mul_comm]

theorem toCome_congr (he : ∀ n, st'.prompt sc n = st.prompt sc n) : toCome sc names st' = toCome sc names st :=
  Finset.sum_congr rfl fun n _ => by rw [he n]

/-- a prompt that goes on to its next phase has less to come -/
theorem toCome_setPhase_lt {phase : Phase} (ht : Tidy st) (hid : st.current? name = some id) (hn : name ∈ names)
    (hp : phase.toCome < (st.phase id).toCome) : toCome sc names (st.setPhase id phase) < toCome sc names st := by
  have hphase : (st.prompt sc name).phase = st.phase id := by rw [prompt_eq hid, Stage.phase]
  refine Finset.sum_lt_sum (fun n _ => ?_) ⟨name, hn, ?_⟩
  · rw [ht.prompt_setPhase hid]
    split_ifs with hname
    · subst hname
      rw [hphase]
      exact Nat.le_of_lt hp
    · exact Nat.le_refl _
  · rw [ht.prompt_setPhase hid, if_pos rfl, hphase]
    exact hp

/-! ## Stages with one controller for each prompt -/

/-- prompts and surfaces, without renewals and dialogs: each prompt has the one controller that its first call makes -/
def Circle.lasting (names : Finset String) (places : Set String) : Circle := ⟨↑names, places, False, False⟩

/-- each controller is what its prompt's name stands for, and prompts are up only on the circle's surfaces -/
structure Housed (sc : Scene) (names : Finset String) (places : Set String) (st : Stage) : Prop where
  tidy : Tidy st
  current : ∀ id < st.controllers.length,
    st.current? (st.controller id).name = some id ∧ (st.controller id).name ∈ names
  placed : ∀ n s, (st.prompt sc n).phase = .shown s → (Circle.lasting names places).Holds s

theorem housed_empty : Housed sc names places .empty where
  tidy := tidy_empty
  current id hid := by simp [Stage.empty] at hid
  placed n s hs := by simp [Stage.prompt, Stage.current?, Stage.empty, Controller.fresh] at hs

/-- there are no more controllers than prompts -/
theorem Housed.length_le (hh : Housed sc names places st) : st.controllers.length ≤ names.card := by
  have hinj : Set.InjOn (fun id => (st.controller id).name) (Finset.range st.controllers.length) := by
    intro i hi j hj he
    have hcur := (hh.current i (Finset.mem_range.1 hi)).1
    rw [show (st.controller i).name = (st.controller j).name from he] at hcur
    exact Option.some.inj (hcur.symm.trans (hh.current j (Finset.mem_range.1 hj)).1)
  calc st.controllers.length = (Finset.range st.controllers.length).card := (Finset.card_range _).symm
    _ ≤ names.card := Finset.card_le_card_of_injOn _ (fun i hi => (hh.current i (Finset.mem_range.1 hi)).2) hinj

/-- a change that leaves every prompt as it is -/
theorem Housed.congr (hh : Housed sc names places st) (hcon : st'.controllers = st.controllers)
    (hcur : st'.current = st.current) : Housed sc names places st' where
  tidy := by
    unfold Tidy Stage.current? Stage.controller
    rw [hcon, hcur]
    exact hh.tidy
  current := by
    unfold Stage.current? Stage.controller
    rw [hcon, hcur]
    exact hh.current
  placed := by
    unfold Stage.prompt Stage.current? Stage.controller
    rw [hcon, hcur]
    exact hh.placed

theorem Housed.log (hh : Housed sc names places st) (severity : Severity) (record : Unit → Record) :
    Housed sc names places (st.log sc severity record) := by
  rcases log_eq st sc severity record with he | ⟨r, he⟩ <;> rw [he]
  · exact hh
  · exact hh.congr rfl rfl

theorem Housed.update {f : Controller → Controller} (hh : Housed sc names places st)
    (hid : st.current? name = some id) (hname : ∀ c, (f c).name = c.name)
    (hphase : ∀ s, (f (st.prompt sc name)).phase = .shown s → (Circle.lasting names places).Holds s) :
    Housed sc names places (st.update id f) where
  tidy := hh.tidy.update id hname
  current i hi := by
    have hi' : i < st.controllers.length := by simpa [Stage.update] using hi
    have hn : ((st.update id f).controller i).name = (st.controller i).name := by
      rw [controller_update]
      split_ifs
      · rw [hname]
      · rfl
    rw [hn]
    exact hh.current i hi'
  placed n s hs := by
    rw [hh.tidy.prompt_update hid] at hs
    split_ifs at hs with hn
    · subst hn
      exact hphase s hs
    · exact hh.placed n s hs

theorem Housed.setPhase {phase : Phase} (hh : Housed sc names places st) (hid : st.current? name = some id)
    (hp : ∀ s, phase = .shown s → (Circle.lasting names places).Holds s) :
    Housed sc names places (st.setPhase id phase) := by
  have hu : Housed sc names places (st.update id ({ · with phase })) := hh.update hid (fun _ => rfl) hp
  exact hu.congr rfl rfl

/-- a prompt that goes on to its next phase, which is recorded -/
theorem Housed.goes (hh : Housed sc names places st) (hid : st.current? name = some id) (hn : name ∈ names)
    (phase : Phase) (hlt : phase.toCome < (st.phase id).toCome)
    (hp : ∀ s, phase = .shown s → (Circle.lasting names places).Holds s) (message : String) (args : List String) :
    Housed sc names places ((st.setPhase id phase).debug sc id message args) ∧
      toCome sc names ((st.setPhase id phase).debug sc id message args) < toCome sc names st := by
  refine ⟨(hh.setPhase hid hp).log _ _, ?_⟩
  have he : toCome sc names ((st.setPhase id phase).debug sc id message args) =
      toCome sc names (st.setPhase id phase) := toCome_congr fun n => prompt_log _ _ n
  rw [he]
  exact toCome_setPhase_lt hh.tidy hid hn hlt

theorem Housed.setText (hh : Housed sc names places st) (hid : st.current? name = some id) (text : String) :
    Housed sc names places (st.setText id text) := by
  unfold Stage.setText
  split
  · exact hh.congr rfl rfl
  · have hu : Housed sc names places (st.update id ({ · with text })) :=
      hh.update hid (fun _ => rfl) (hh.placed name)
    exact hu.congr rfl rfl

theorem Housed.ensure (hh : Housed sc names places st) (hn : name ∈ names) :
    Housed sc names places (st.ensure sc name) where
  tidy := hh.tidy.ensure
  placed n s hs := hh.placed n s (by rwa [hh.tidy.prompt_ensure] at hs)
  current i hi := by
    unfold Stage.ensure at hi ⊢
    split_ifs at hi ⊢ with hc
    · exact hh.current i hi
    · rw [current?_create]
      rw [length_create] at hi
      rcases Nat.lt_succ_iff_lt_or_eq.1 hi with hi | rfl
      · obtain ⟨hcur, hmem⟩ := hh.current i hi
        rw [controller_create i hi]
        refine ⟨?_, hmem⟩
        rw [if_neg, hcur]
        intro he
        rw [he] at hcur
        simp [hcur] at hc
      · rw [controller_create_self]
        exact ⟨if_pos rfl, hn⟩

/-! ## Computations that spend what is to come -/

variable {α β : Type} {bound : Nat} {again again' : Caller}

/-- A computation brings nothing back that was spent. If less is to come than the bound, it does not nest too deeply,
and gives the same as the computation `r'`, in which calls may nest more deeply. -/
structure SureAt (sc : Scene) (names : Finset String) (places : Set String) (bound : Nat) (st : Stage) (r r' : Ran α) :
    Prop where
  housed : Housed sc names places r.stage
  spent : toCome sc names r.stage ≤ toCome sc names st
  same : toCome sc names st < bound → r' = r ∧ r.answer ≠ .error .tooDeep

/-- calls within the circle that are sure at every stage -/
def Sure (sc : Scene) (names : Finset String) (places : Set String) (bound : Nat) (again again' : Caller) : Prop :=
  ∀ c, c.Within (Circle.lasting names places) → ∀ st, Housed sc names places st →
    SureAt sc names places bound st (again c st) (again' c st)

/-- a step that runs no script -/
theorem SureAt.of_quiet {answer : Except Fault α} (hh : Housed sc names places st')
    (he : ∀ n, st'.prompt sc n = st.prompt sc n) (ha : answer ≠ .error .tooDeep) :
    SureAt sc names places bound st ⟨answer, st'⟩ ⟨answer, st'⟩ :=
  ⟨hh, Nat.le_of_eq (toCome_congr he), fun _ => ⟨rfl, ha⟩⟩

theorem SureAt.andThen {r r' : Ran α} {next next' : α → Stage → Ran β} (hr : SureAt sc names places bound st r r')
    (hn : ∀ a st', Housed sc names places st' → SureAt sc names places bound st' (next a st') (next' a st')) :
    SureAt sc names places bound st (r.andThen next) (r'.andThen next') := by
  obtain ⟨answer, st₁⟩ := r
  obtain ⟨hh, hspent, hsame⟩ := hr
  cases answer with
  | error f =>
    refine ⟨hh, hspent, fun hlt => ?_⟩
    obtain ⟨rfl, hf⟩ := hsame hlt
    refine ⟨rfl, fun he => hf ?_⟩
    rw [Ran.andThen_error] at he
    exact congrArg Except.error (Except.error.inj he)
  | ok a =>
    have h2 := hn a st₁ hh
    refine ⟨h2.housed, h2.spent.trans hspent, fun hlt => ?_⟩
    obtain ⟨rfl, -⟩ := hsame hlt
    exact h2.same (Nat.lt_of_le_of_lt hspent hlt)

/-- what follows a change that spends something may nest one call less deeply -/
theorem SureAt.after {r r' : Ran α} (hr : SureAt sc names places bound st' r r')
    (hlt : toCome sc names st' < toCome sc names st) : SureAt sc names places (bound + 1) st r r' where
  housed := hr.housed
  spent := hr.spent.trans (Nat.le_of_lt hlt)
  same hb := hr.same (Nat.lt_of_lt_of_le hlt (Nat.le_of_lt_succ hb))

/-! ## Scripts -/

theorem sureAt_act (ha : Sure sc names places bound again again') (cue : Cue) {action : Action}
    (hw : action.Within (Circle.lasting names places)) (hh : Housed sc names places st) :
    SureAt sc names places bound st (act again sc cue action st) (act again' sc cue action st) := by
  induction action with
  | call c =>
    exact (ha c hw st hh).andThen fun answer st' h' => .of_quiet (h'.congr rfl rfl) (fun _ => rfl) (by simp)
  | raise kind message => exact .of_quiet hh (fun _ => rfl) (by simp)
  | attempt action ih =>
    obtain ⟨hh', hspent, hsame⟩ := ih hw
    rw [act, act]
    refine ⟨?_, ?_, fun hlt => ?_⟩
    · split <;> rename_i he <;> rw [he] at hh'
      · exact hh'
      · exact hh'
      · exact hh'.congr rfl rfl
    · split <;> rename_i he <;> rw [he] at hspent <;> exact hspent
    · obtain ⟨he, hf⟩ := hsame hlt
      rw [he]
      refine ⟨rfl, ?_⟩
      split <;> rename_i he' <;> rw [he'] at hf
      · simp
      · exact absurd rfl hf
      · simp
  | keep => exact hw.elim
  | finish => exact hw.elim

theorem sureAt_play (ha : Sure sc names places bound again again') (cue : Cue) {script : Script}
    (hw : Script.Within (Circle.lasting names places) script) (hh : Housed sc names places st) :
    SureAt sc names places bound st (play again sc cue script st) (play again' sc cue script st) := by
  induction script generalizing st with
  | nil => exact .of_quiet hh (fun _ => rfl) (by simp)
  | cons action rest ih =>
    exact (sureAt_act ha cue (hw action List.mem_cons_self) hh).andThen fun _ st' h' =>
      ih (fun a h => hw a (List.mem_cons_of_mem _ h)) h'

theorem sureAt_callback (cb : Callback) {body body' : Stage → Ran Unit}
    (hb : ∀ st, Housed sc names places st → SureAt sc names places bound st (body st) (body' st))
    (hh : Housed sc names places st) :
    SureAt sc names places bound st (callback id cb body st) (callback id cb body' st) := by
  have h1 := hb (st.note (.began id cb)) (hh.congr rfl rfl)
  exact SureAt.andThen ⟨h1.housed, h1.spent, h1.same⟩ fun _ st' h' =>
    .of_quiet (h'.congr rfl rfl) (fun _ => rfl) (by simp)

/-! ## Controllers -/

section Controllers

variable (hsc : sc.Within (Circle.lasting names places)) (ha : Sure sc names places bound again again')

include hsc ha

theorem sureAt_display {place : String} (hh : Housed sc names places st) (hid : st.current? name = some id)
    (hn : name ∈ names) (hp : place ∈ places) :
    SureAt sc names places (bound + 1) st (display again sc id (.scripted place) st)
      (display again' sc id (.scripted place) st) := by
  unfold display
  cases hphase : st.phase id with
  | created =>
    obtain ⟨h1, hlt⟩ := hh.goes hid hn (.shown (.scripted place)) (by simp [hphase, Phase.toCome])
      (by rintro s ⟨⟩; exact hp) "shown" []
    exact (sureAt_callback _ (fun st' h' => sureAt_play ha _ (hsc.onShow place hp) h') h1).after hlt
  | shown s => exact .of_quiet hh (fun _ => rfl) (by simp)
  | closed o => exact .of_quiet hh (fun _ => rfl) (by simp)

theorem sureAt_runHandler (hn : name ∈ names) (cb : Callback) (hh : Housed sc names places st) :
    SureAt sc names places bound st (runHandler again sc id (sc.request name) cb st)
      (runHandler again' sc id (sc.request name) cb st) := by
  unfold runHandler
  cases hscript : handlerScript (sc.request name) cb with
  | none => exact .of_quiet hh (fun _ => rfl) (by simp)
  | some script =>
    exact sureAt_callback cb (fun st' h' => sureAt_play ha _ (hsc.handler name hn cb script hscript) h') hh

theorem sureAt_close (hh : Housed sc names places st) (hid : st.current? name = some id) (hn : name ∈ names)
    (o : Outcome) :
    SureAt sc names places (bound + 1) st (close again sc id o st) (close again' sc id o st) := by
  unfold close
  cases hphase : st.phase id with
  | shown s =>
    have hprompt : (st.prompt sc name).phase = .shown s := by rw [prompt_eq hid, ← hphase, Stage.phase]
    have hs := hh.placed name s hprompt
    cases s with
    | dialog k => exact hs.elim
    | scripted place =>
      obtain ⟨h1, hlt⟩ := hh.goes hid hn (.closed o) (by simp [hphase, Phase.toCome]) (by simp)
        "closed via %s" [o.name]
      have hreq : st.request sc id = sc.request name := hh.tidy.request_eq hid
      simp only [hreq]
      refine SureAt.after ?_ hlt
      refine (sureAt_callback _ (fun st' h' => sureAt_play ha _ (hsc.onClose place hs) h') h1).andThen fun _ _ h2 => ?_
      refine (sureAt_runHandler hsc ha hn _ h2).andThen fun _ _ h3 => ?_
      refine (sureAt_runHandler hsc ha hn _ h3).andThen fun _ _ h4 => ?_
      exact .of_quiet h4 (fun _ => rfl) (by simp)
  | created => exact .of_quiet (hh.log _ _) (fun n => prompt_log _ _ n) (by simp)
  | closed o' => exact .of_quiet (hh.log _ _) (fun n => prompt_log _ _ n) (by simp)

theorem sureAt_alternate (hh : Housed sc names places st) (hid : st.current? name = some id) (hn : name ∈ names) :
    SureAt sc names places (bound + 1) st (alternate again sc id st) (alternate again' sc id st) := by
  unfold alternate
  split_ifs
  · exact sureAt_close hsc ha hh hid hn .alternate
  · exact .of_quiet (hh.log _ _) (fun n => prompt_log _ _ n) (by simp)

/-! ## Calls -/

omit hsc ha in
theorem SureAt.flag {r r' : Ran Bool} (hr : SureAt sc names places bound st r r') :
    SureAt sc names places bound st r.flag r'.flag :=
  hr.andThen fun _ _ h => .of_quiet h (fun _ => rfl) (by simp)

omit hsc ha in
theorem SureAt.silent {r r' : Ran Unit} (hr : SureAt sc names places bound st r r') :
    SureAt sc names places bound st r.silent r'.silent :=
  hr.andThen fun _ _ h => .of_quiet h (fun _ => rfl) (by simp)

theorem sureAt_perform {verb : Verb} (hh : Housed sc names places st) (hid : st.current? name = some id)
    (hn : name ∈ names) (hw : verb.Within (Circle.lasting names places) name) :
    SureAt sc names places (bound + 1) st (perform again sc name id verb st) (perform again' sc name id verb st) := by
  cases verb with
  | renew => exact hw.elim
  | display place => exact (sureAt_display hsc ha hh hid hn hw).silent
  | setText text =>
    refine ⟨hh.setText hid text, ?_, fun _ => ⟨rfl, by simp [perform]⟩⟩
    refine Finset.sum_le_sum fun n _ => Nat.le_of_eq ?_
    show (((st.setText id text).prompt sc n).phase).toCome = _
    rw [hh.tidy.prompt_setText hid]
    split_ifs
    · unfold Controller.withText
      split_ifs <;> rfl
    · rfl
  | primary => exact (sureAt_close hsc ha hh hid hn .primary).flag
  | submit => exact (sureAt_close hsc ha hh hid hn .primary).flag
  | alternate => exact (sureAt_alternate hsc ha hh hid hn).flag
  | cancel => exact (sureAt_close hsc ha hh hid hn .cancel).flag
  | dismiss => exact (sureAt_close hsc ha hh hid hn .dismissed).flag
  | close outcome => exact (sureAt_close hsc ha hh hid hn outcome).flag
  | hasAlternate => exact .of_quiet hh (fun _ => rfl) (by simp)
  | cancelLabel default => exact .of_quiet hh (fun _ => rfl) (by simp)
  | assign field => exact .of_quiet hh (fun _ => rfl) (by simp)

theorem sure_call : Sure sc names places (bound + 1) (call again sc) (call again' sc) := by
  intro c hc st hh
  cases c with
  | prompt name verb =>
    have h1 := sureAt_perform hsc ha (hh.ensure hc.1) (current?_ensure st sc name) hc.1 hc.2
    have he : toCome sc names (st.ensure sc name) = toCome sc names st := toCome_congr hh.tidy.prompt_ensure
    exact ⟨h1.housed, he ▸ h1.spent, fun hlt => h1.same (he ▸ hlt)⟩
  | present name => exact hc.2.1.elim
  | notice message => exact hc.elim

end Controllers

/-- **What is still to come bounds how deeply calls nest.** -/
theorem sure_exec (hsc : sc.Within (Circle.lasting names places)) (depth more : Nat) :
    Sure sc names places depth (exec sc depth) (exec sc (depth + more)) := by
  induction depth with
  | zero => exact fun c _ st hh => ⟨hh, Nat.le_refl _, fun hlt => absurd hlt (Nat.not_lt_zero _)⟩
  | succ depth ih =>
    rw [Nat.succ_add]
    exact sure_call hsc ih

/-! ## Callbacks -/

/-- what a callback is for -/
inductive Role where
  | surfaceShow
  | surfaceClose
  | handler
  | onClosed
deriving DecidableEq, Repr

instance : Fintype Role where
  elems := {.surfaceShow, .surfaceClose, .handler, .onClosed}
  complete role := by cases role <;> simp

def Callback.role : Callback → Role
  | .surfaceShow _ => .surfaceShow
  | .surfaceClose _ => .surfaceClose
  | .handler _ _ => .handler
  | .onClosed => .onClosed

/-- the controller and the role of a callback, if its beginning is what the mark tells -/
def Mark.started? : Mark → Option (Nat × Role)
  | .began id cb => some (id, cb.role)
  | _ => none

/-- the callbacks that have begun, the latest first -/
def started (h : List Mark) : List (Nat × Role) := h.filterMap Mark.started?

variable {h : List Mark}

theorem nodup_started_lifeline (r : Request) (id : Nat) (s : Surface) (o : Outcome) (text : String) :
    ((lifeline r id s o text).filterMap Mark.started?).Nodup := by
  unfold lifeline scripted
  split_ifs <;> simp [List.filterMap_cons, Mark.started?, Callback.role]

theorem began_of_mem_started {role : Role} (hm : (id, role) ∈ started h) :
    ∃ cb, cb.role = role ∧ .began id cb ∈ h := by
  obtain ⟨m, hm, he⟩ := List.mem_filterMap.1 hm
  cases m with
  | began i cb =>
    simp only [Mark.started?, Option.some.injEq, Prod.mk.injEq] at he
    exact ⟨cb, he.2, he.1 ▸ hm⟩
  | _ => simp [Mark.started?] at he

/-- no controller has two callbacks of one role -/
theorem Legal.nodup_started (hl : Legal sc h) : (started h).Nodup := by
  induction h with
  | nil => exact List.nodup_nil
  | cons m h ih =>
    cases m with
    | began id cb =>
      refine List.nodup_cons.2 ⟨fun hin => ?_, ih hl.2⟩
      obtain ⟨cb', hrole, hb⟩ := began_of_mem_started hin
      -- both begin on the lifeline of the controller, which has one callback for each role
      obtain ⟨s, o, t, hp, -⟩ := hl.deeds_prefix id
      have hn := (nodup_started_lifeline (requestAt sc (.began id cb :: h) id) id s o t).sublist
        (hp.sublist.filterMap Mark.started?)
      rw [deeds_cons_of_isDeedOf (by simp [Mark.isDeedOf]), List.filterMap_append] at hn
      refine List.disjoint_of_nodup_append hn (a := (id, cb.role)) ?_ (by simp [Mark.started?])
      exact List.mem_filterMap.2 ⟨_, mem_deeds_of_began hb, by simp [Mark.started?, hrole]⟩
    | _ => exact ih hl.2

/-- marks of callbacks are about controllers that were made -/
theorem Legal.lt_of_began {cb : Callback} (hl : Legal sc h) (hb : .began id cb ∈ h) :
    id < (controllersAt sc h).length := by
  obtain ⟨h₀, hs⟩ := exists_moment hb
  have hd : Due sc h₀ id (.began id cb) := hl.may hs
  have hlt : id < (controllersAt sc h₀).length := by
    refine lt_of_phaseAt_ne_created fun hp => ?_
    unfold Due at hd
    simp only [hp] at hd
  exact (controllerAt_name ((List.suffix_cons _ _).trans hs) hlt).1

theorem length_le_of_nodup_pairs {γ : Type} [Fintype γ] [DecidableEq γ] {l : List (Nat × γ)} {n : Nat} (hn : l.Nodup)
    (hlt : ∀ x ∈ l, x.1 < n) : l.length ≤ n * Fintype.card γ := by
  calc l.length = l.toFinset.card := (List.toFinset_card_of_nodup hn).symm
    _ ≤ (Finset.range n ×ˢ Finset.univ (α := γ)).card := Finset.card_le_card fun x hx => by
        simpa using hlt x (List.mem_toFinset.1 hx)
    _ = n * Fintype.card γ := by rw [Finset.card_product, Finset.card_range, Finset.card_univ]

/-- each controller has at most four callbacks over the whole run -/
theorem Legal.length_started_le (hl : Legal sc h) : (started h).length ≤ (controllersAt sc h).length * 4 := by
  refine length_le_of_nodup_pairs hl.nodup_started fun x hx => ?_
  obtain ⟨cb, -, hb⟩ := began_of_mem_started hx
  exact hl.lt_of_began hb

/-! ## Callbacks under way -/

theorem ended_of_flatMap_eq {cb cb' : Callback} {had rest : List Mark} {cbs : List Callback}
    (he : had ++ .began id cb' :: rest = cbs.flatMap fun cb => [.began id cb, .ended id cb])
    (hb : .began id cb ∈ had) : .ended id cb ∈ had := by
  induction cbs generalizing had with
  | nil => simp at he
  | cons c cbs ih =>
    rcases had with _ | ⟨a, _ | ⟨b, had⟩⟩
    · simp at hb
    · simp at he
    · simp only [List.flatMap_cons, List.cons_append, List.nil_append, List.cons.injEq] at he
      obtain ⟨rfl, rfl, he⟩ := he
      simp only [List.mem_cons, Mark.began.injEq, true_and, reduceCtorEq, false_or] at hb
      rcases hb with rfl | hb
      · simp
      · exact List.mem_cons_of_mem _ (List.mem_cons_of_mem _ (ih he hb))

/-- on a lifeline each callback ends before the next begins -/
theorem ended_of_lifeline_eq {r : Request} {s : Surface} {o : Outcome} {t : String} {cb cb' : Callback}
    {had rest : List Mark} (he : had ++ .began id cb' :: rest = lifeline r id s o t) (hb : .began id cb ∈ had)
    (hcb : ∀ s, cb ≠ .surfaceShow s) : .ended id cb ∈ had := by
  rw [lifeline_eq] at he
  rcases had with _ | ⟨a, had⟩
  · simp at hb
  · obtain ⟨rfl, hrest⟩ := List.cons.inj he
    rcases List.mem_cons.1 hb with heq | hb
    · cases heq
      exact absurd rfl (hcb s)
    · exact List.mem_cons_of_mem _ (ended_of_flatMap_eq hrest hb)

/-- a callback that ended is not under way -/
theorem Legal.not_open_of_ended {cb : Callback} (hl : Legal sc h) (he : .ended id cb ∈ h) : (id, cb) ∉ openAt h := by
  induction h with
  | nil => simp at he
  | cons m h ih =>
    have hn := hl.nodup_openAt
    rcases List.mem_cons.1 he with rfl | hin
    · -- what its end leaves open was open when it began
      obtain ⟨h₀, hb, hopen⟩ := hl.nested (List.suffix_refl _)
      rw [hopen]
      have hl₀ : Legal sc (.began id cb :: h₀) := hl.2.of_suffix hb
      exact fun ho => hl₀.not_mem_of_isDeedOf (i := id) (by simp [Mark.isDeedOf]) (began_of_mem_openAt ho)
    · have hout := ih hl.2 hin
      cases m with
      | began i c =>
        intro ho
        rcases List.mem_cons.1 ho with heq | ho
        · cases heq
          obtain ⟨h₀, hs⟩ := exists_moment hin
          obtain ⟨h₁, hb, -⟩ := hl.2.nested hs
          have hbegan : .began id cb ∈ h := (hb.trans ((List.suffix_cons _ _).trans hs)).subset List.mem_cons_self
          exact hl.not_mem_of_isDeedOf (i := id) (by simp [Mark.isDeedOf]) hbegan
        · exact hout ho
      | ended i c => exact fun ho => hout ((List.dropWhile_suffix _).subset ((List.tail_suffix _).subset ho))
      | _ => exact hout

/-- while one callback of a closing prompt is under way no other is -/
theorem Legal.one_closing {cb cb' : Callback} (hl : Legal sc h) (ho : (id, cb) ∈ openAt h) (ho' : (id, cb') ∈ openAt h)
    (hcb : ∀ s, cb ≠ .surfaceShow s) (hcb' : ∀ s, cb' ≠ .surfaceShow s) : cb = cb' := by
  -- the later one began when the earlier was on the lifeline, and so had ended
  have later {cb cb' : Callback} {rest : List (Nat × Callback)} (hs : (id, cb') :: rest <:+ openAt h)
      (hin : (id, cb) ∈ rest) (hcb : ∀ s, cb ≠ .surfaceShow s) (hcb' : ∀ s, cb' ≠ .surfaceShow s) : False := by
    obtain ⟨h₀, hb, rfl⟩ := openAt_below hs
    have hl₀ : Legal sc h₀ := (hl.of_suffix hb).2
    obtain ⟨s, o, after, -, -, heq⟩ := hl.began_closing hb hcb'
    refine hl₀.not_open_of_ended ?_ hin
    have hdeed : .began id cb ∈ deeds id h₀ := mem_deeds_of_began (began_of_mem_openAt hin)
    exact (mem_deeds.1 (ended_of_lifeline_eq heq hdeed hcb)).1
  obtain ⟨inner, rest, he⟩ := List.append_of_mem ho
  have hs : (id, cb) :: rest <:+ openAt h := ⟨inner, he.symm⟩
  rw [he] at ho'
  rcases List.mem_append.1 ho' with hin | hin
  · exfalso
    obtain ⟨inner', rest', rfl⟩ := List.append_of_mem hin
    have hs' : (id, cb') :: (rest' ++ (id, cb) :: rest) <:+ openAt h := ⟨inner', by rw [he]; simp⟩
    exact later hs' (by simp) hcb hcb'
  · rcases List.mem_cons.1 hin with heq | hin
    · cases heq
      rfl
    · exact (later hs hin hcb' hcb).elim

def Callback.isShow : Callback → Bool
  | .surfaceShow _ => true
  | _ => false

theorem Callback.isShow_iff {cb : Callback} : cb.isShow = false ↔ ∀ s, cb ≠ .surfaceShow s := by
  cases cb <;> simp [Callback.isShow]

/-- at most two callbacks of each controller are under way: its coming up, and one of its closing -/
theorem Legal.length_openAt_le (hl : Legal sc h) : (openAt h).length ≤ (controllersAt sc h).length * 2 := by
  have hinj : ∀ x ∈ openAt h, ∀ y ∈ openAt h, (x.1, x.2.isShow) = (y.1, y.2.isShow) → x = y := by
    rintro ⟨i, cb⟩ hx ⟨j, cb'⟩ hy he
    obtain ⟨rfl, hshow⟩ : i = j ∧ cb.isShow = cb'.isShow := Prod.mk.inj he
    suffices hcb : cb = cb' by rw [hcb]
    cases hs : cb.isShow with
    | false => exact hl.one_closing hx hy (Callback.isShow_iff.1 hs) (Callback.isShow_iff.1 (hshow ▸ hs))
    | true =>
      have hs' : cb'.isShow := hshow ▸ hs
      cases cb with
      | surfaceShow s =>
        cases cb' with
        | surfaceShow s' => rw [hl.surface_unique (began_of_mem_openAt hx) (began_of_mem_openAt hy)]
        | _ => simp [Callback.isShow] at hs'
      | _ => simp [Callback.isShow] at hs
  have hn : ((openAt h).map fun x => (x.1, x.2.isShow)).Nodup := hl.nodup_openAt.map_on hinj
  rw [← List.length_map (fun x : Nat × Callback => (x.1, x.2.isShow))]
  refine length_le_of_nodup_pairs hn fun x hx => ?_
  obtain ⟨y, hy, rfl⟩ := List.mem_map.1 hx
  exact hl.lt_of_began (began_of_mem_openAt hy)

/-! ## Every run -/

/-- each call of a run finds one controller for each prompt, and keeps to the bound on what is to come -/
theorem sure_reportsWithin (hsc : sc.Within (Circle.lasting names places)) (more : Nat) {calls : List Call}
    (hcalls : ∀ c ∈ calls, c.Within (Circle.lasting names places)) (hh : Housed sc names places st) :
    let depth := 2 * names.card + 1
    reportsWithin sc (depth + more) calls st = reportsWithin sc depth calls st ∧
      ∀ r ∈ reportsWithin sc depth calls st, r.answer ≠ .error .tooDeep := by
  induction calls generalizing st with
  | nil => simp [reportsWithin]
  | cons c rest ih =>
    have h1 := sure_exec hsc (2 * names.card + 1) more c (hcalls c List.mem_cons_self) st hh
    obtain ⟨hsame, hf⟩ := h1.same (Nat.lt_succ_of_le (toCome_le sc names st))
    obtain ⟨hrest, hall⟩ := ih (fun c hc => hcalls c (List.mem_cons_of_mem _ hc)) h1.housed
    simp only [reportsWithin, hsame] at hrest hall ⊢
    refine ⟨by rw [hrest], ?_⟩
    intro r hr
    rcases List.mem_cons.1 hr with rfl | hr
    · exact hf
    · exact hall r hr

theorem housed_runWithin (hsc : sc.Within (Circle.lasting names places)) (depth : Nat) {calls : List Call}
    (hcalls : ∀ c ∈ calls, c.Within (Circle.lasting names places)) (hh : Housed sc names places st) :
    Housed sc names places (runWithin sc depth calls st) := by
  induction calls generalizing st with
  | nil => exact hh
  | cons c rest ih =>
    have h1 := sure_exec hsc depth 0 c (hcalls c List.mem_cons_self) st hh
    exact ih (fun c hc => hcalls c (List.mem_cons_of_mem _ hc)) h1.housed

/-- **Every call comes to an end**, on any prompts whose scripts call only each other and make no new controller. -/
theorem scripts_run_out (sc : Scene) (names : Finset String) (places : Set String)
    (hsc : sc.Within (Circle.lasting names places)) (calls : List Call)
    (hcalls : ∀ c ∈ calls, c.Within (Circle.lasting names places)) :
    (∀ depth, 2 * names.card < depth →
      reportsWithin sc depth calls .empty = reportsWithin sc (2 * names.card + 1) calls .empty ∧
        ∀ r ∈ reportsWithin sc depth calls .empty, r.answer ≠ .error .tooDeep) ∧
    ∀ depth, (∀ h, h <:+ (runWithin sc depth calls .empty).history → (openAt h).length ≤ 2 * names.card) ∧
      (started (runWithin sc depth calls .empty).history).Nodup ∧
      (started (runWithin sc depth calls .empty).history).length ≤ 4 * names.card := by
  constructor
  · intro depth hd
    obtain ⟨more, rfl⟩ := Nat.exists_eq_add_of_le hd
    obtain ⟨he, hf⟩ := sure_reportsWithin hsc more hcalls housed_empty
    exact ⟨he, fun r hr => hf r (he ▸ hr)⟩
  · intro depth
    have hs := sound_runWithin sc depth calls
    have hh : Housed sc names places (runWithin sc depth calls .empty) := housed_runWithin hsc depth hcalls housed_empty
    have hlen := hh.length_le
    rw [hs.controllers] at hlen
    refine ⟨fun h hsuf => ?_, hs.legal.nodup_started, ?_⟩
    · have hmade : (controllersAt sc h).length ≤ _ := length_controllersAt_le hsuf
      calc (openAt h).length ≤ (controllersAt sc h).length * 2 := (hs.legal.of_suffix hsuf).length_openAt_le
        _ ≤ 2 * names.card := by omega
    · calc _ ≤ (controllersAt sc (runWithin sc depth calls .empty).history).length * 4 := hs.legal.length_started_le
        _ ≤ 4 * names.card := by omega

/-- two prompts that bring each other up and close each other as they come, go and close -/
def entangled : Scene where
  request title := { Request.titled title with
    onPrimary := [.attempt (.call (.prompt "a" .cancel)), .call (.prompt "b" .primary)]
    onClosed := some [.call (.prompt "a" .submit), .raise .runtime "again"] }
  surface _ := ⟨[.call (.prompt "b" (.display none)), .call (.prompt "a" .primary)], [.call (.prompt "b" .dismiss)]⟩
  threshold := 10
  cancelLabel := "Cancel"
  escapeDismisses := true

theorem within_entangled : entangled.Within (Circle.lasting {"a", "b"} Set.univ) where
  handler name _ cb script hs := by
    have hscript : script = (entangled.request name).onPrimary ∨ some script = (entangled.request name).onClosed := by
      cases cb with
      | handler o text => cases o <;> simp_all [handlerScript, Request.handlerFor, entangled, Request.titled]
      | onClosed => exact Or.inr hs.symm
      | _ => simp [handlerScript] at hs
    rcases hscript with rfl | hs
    · simp [Script.Within, Action.Within, Call.Within, Verb.Within, Circle.lasting, entangled]
    · obtain rfl := Option.some.inj hs
      simp [Script.Within, Action.Within, Call.Within, Verb.Within, Circle.lasting]
  onShow place _ := by simp [Script.Within, Action.Within, Call.Within, Verb.Within, Circle.lasting, entangled]
  onClose place _ := by simp [Script.Within, Action.Within, Call.Within, Verb.Within, Circle.lasting, entangled]

theorem entangled_runs_out :
    (∀ r ∈ reportsWithin entangled 5 [.prompt "a" (.display none), .prompt "b" .cancel] .empty,
      r.answer ≠ .error .tooDeep) ∧
    (started (runWithin entangled 5 [.prompt "a" (.display none), .prompt "b" .cancel] .empty).history).length ≤ 8 := by
  have h := scripts_run_out entangled {"a", "b"} Set.univ within_entangled
    [.prompt "a" (.display none), .prompt "b" .cancel]
    (by simp [Call.Within, Verb.Within, Circle.lasting])
  exact ⟨(h.1 5 (by decide)).2, (h.2 5).2.2⟩

end LinePrompt.Prompt
