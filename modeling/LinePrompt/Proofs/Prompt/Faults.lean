/-
Faults in callbacks.

A fault ends what it arises in, and everything around it, up to the call from outside or to an attempt that swallows it.
It changes nothing on its way: the stage that is left is the one on which it arose (`Breaks`, `run_eq_error_iff`). So a
trigger runs a beginning of the callbacks of its closing, up to the first that faults; what they did stays done, and the
prompt stays closed by this trigger's outcome (`Settled`).

Faults come from scripts that raise and from prompts that are brought up twice. Where neither happens no call of a run
fails, other than by nesting too deeply, and on finitely many prompts without renewals none fails at all.
-/
import LinePrompt.Proofs.Prompt.Ending
import LinePrompt.Proofs.Prompt.Errands

namespace LinePrompt.Prompt

open LinePrompt.Log LinePrompt.Screen

variable {sc : Scene} {st last before : Stage} {id depth : Nat} {again : Caller} {s : Surface} {o : Outcome} {f : Fault}
  {verb : Verb} {name : String} {e : Errand} {calls : List Call} {m m' : Occasion}

/-! ## Where a fault arises -/

/-- An errand breaks by a fault that arises on this stage: an action of its scripts raises there, or a call that they
make fails by itself, or the errand of that call breaks. Nothing around it swallows the fault. -/
inductive Breaks (sc : Scene) : Nat → Errand → Fault → Stage → Prop where
  | raised {depth : Nat} {e : Errand} {kind : Kind} {message : String} {last : Stage}
    (reached : e.Reaches (exec sc depth) sc (.raise kind message) last) : Breaks sc depth e (.raised kind message) last
  | failed {depth : Nat} {e : Errand} {action : Action} {st last : Stage} {c : Call} {f : Fault}
    (reached : e.Reaches (exec sc depth) sc action st) (asks : action.call? = some c) (lets : action.lets f)
    (fails : c.Fails sc depth st f last) : Breaks sc depth e f last
  | passed {depth : Nat} {e e' : Errand} {action : Action} {st last : Stage} {c : Call} {f : Fault}
    (reached : e.Reaches (exec sc (depth + 1)) sc action st) (asks : action.call? = some c) (lets : action.lets f)
    (runs : c.errand? sc st = some e') (breaks : Breaks sc depth e' f last) : Breaks sc (depth + 1) e f last

/-- An errand ends by a fault just where it breaks, and on the stage on which the fault arose. -/
theorem run_eq_error_iff : e.run (exec sc depth) sc = ⟨.error f, last⟩ ↔ Breaks sc depth e f last := by
  constructor
  · intro h
    induction depth generalizing e f last with
    | zero =>
      rcases Errand.run_eq_error.1 h with ⟨kind, message, hr, rfl⟩ | ⟨action, st, c, hr, hc, hl, hexec⟩
      · exact .raised hr
      · rcases exec_eq_error.1 hexec with hfails | ⟨d, e', hd, -, -⟩
        · exact .failed hr hc hl hfails
        · omega
    | succ depth ih =>
      rcases Errand.run_eq_error.1 h with ⟨kind, message, hr, rfl⟩ | ⟨action, st, c, hr, hc, hl, hexec⟩
      · exact .raised hr
      · rcases exec_eq_error.1 hexec with hfails | ⟨d, e', hd, he', hrun⟩
        · exact .failed hr hc hl hfails
        · obtain rfl : depth = d := Nat.succ.inj hd
          exact .passed hr hc hl he' (ih hrun)
  · intro h
    induction h with
    | raised reached => exact Errand.run_eq_error.2 (Or.inl ⟨_, _, reached, rfl⟩)
    | failed reached asks lets fails =>
      exact Errand.run_eq_error.2 (Or.inr ⟨_, _, _, reached, asks, lets, exec_eq_error.2 (Or.inl fails)⟩)
    | passed reached asks lets runs _ ih =>
      have hexec := exec_eq_error.2 (Or.inr ⟨_, _, rfl, runs, ih⟩)
      exact Errand.run_eq_error.2 (Or.inr ⟨_, _, _, reached, asks, lets, hexec⟩)

/-! ## Closings that are cut short -/

/-- The callbacks of a closing, which all return, or up to the first that faults. What a callback had done when the
fault arose is done, and the fault is what the trigger gives. -/
inductive Unwound (sc : Scene) (depth : Nat) (st : Stage) (id : Nat) (s : Surface) (o : Outcome) :
    Ran Answer → Prop where
  | returned {last : Stage} (run : (leaving sc id s o st).run (exec sc depth) sc = ⟨.ok (), last⟩)
    (had : deeds id last.history =
      deeds id st.history ++ marksOf id (closing (st.request sc id) s o (st.text id))) :
    Unwound sc depth st id s o ⟨.ok (.flag true), last⟩
  | cut {done rest : List Callback} {cb : Callback} {before last : Stage} {f : Fault}
    (order : closing (st.request sc id) s o (st.text id) = done ++ cb :: rest)
    (returned : inTurn (exec sc depth) sc id (st.request sc id) done (leaving sc id s o st).start = ⟨.ok (), before⟩)
    (faults : body (exec sc depth) sc id (st.request sc id) cb (before.note (.began id cb)) = ⟨.error f, last⟩)
    (arises : Breaks sc depth (leaving sc id s o st) f last)
    (kept : .began id cb :: before.history <:+ last.history)
    (had : deeds id last.history = deeds id st.history ++ marksOf id done ++ [.began id cb]) :
    Unwound sc depth st id s o ⟨.error f, last⟩

/-- a verb that asks for the end of a prompt -/
def Verb.isTrigger : Verb → Bool
  | .primary | .submit | .alternate | .cancel | .dismiss | .close _ => true
  | _ => false

/-- what becomes of a prompt by a trigger that finds it up -/
structure Settled (sc : Scene) (depth : Nat) (st : Stage) (id : Nat) (s : Surface) (o : Outcome) (x : Ran Answer) :
    Prop where
  unwound : Unwound sc depth st id s o x
  closed : x.stage.phase id = .closed o
  /-- every later trigger is refused, and does no more than to make a record of it -/
  refused : ∀ later, Recorded sc later → x.stage.history <:+ later.history → ∀ depth name verb, verb.isTrigger →
    ∃ after, perform (exec sc depth) sc name id verb later = ⟨.ok (.flag false), after⟩ ∧
      (after = later ∨ ∃ record, after = later.note (.logged record))

theorem Ran.stage_flag (x : Ran Bool) : x.flag.stage = x.stage := by
  rcases x with ⟨_ | _, st⟩ <;> rfl

theorem debug_cases (st : Stage) (sc : Scene) (id : Nat) (message : String) (args : List String) :
    st.debug sc id message args = st ∨ ∃ record, st.debug sc id message args = st.note (.logged record) :=
  log_eq st sc .debug _

/-- a closed prompt refuses every trigger -/
theorem close_of_closed (hp : st.phase id = .closed o) (o' : Outcome) :
    ∃ after, close again sc id o' st = ⟨.ok false, after⟩ ∧
      (after = st ∨ ∃ record, after = st.note (.logged record)) := by
  unfold close
  simp only [hp]
  exact ⟨_, rfl, debug_cases st sc id _ _⟩

theorem perform_of_closed (hp : st.phase id = .closed o) (name : String) (hverb : verb.isTrigger) :
    ∃ after, perform again sc name id verb st = ⟨.ok (.flag false), after⟩ ∧
      (after = st ∨ ∃ record, after = st.note (.logged record)) := by
  have hclose : ∀ o', ∃ after, (close again sc id o' st).flag = ⟨.ok (.flag false), after⟩ ∧
      (after = st ∨ ∃ record, after = st.note (.logged record)) := by
    intro o'
    obtain ⟨after, hafter, hstage⟩ : ∃ after, close again sc id o' st = ⟨.ok false, after⟩ ∧ _ := close_of_closed hp o'
    exact ⟨after, by rw [hafter]; rfl, hstage⟩
  cases verb with
  | primary => exact hclose .primary
  | submit => exact hclose .primary
  | alternate =>
    show ∃ after, (alternate again sc id st).flag = _ ∧ _
    unfold alternate
    split_ifs with hgranted
    · exact hclose .alternate
    · exact ⟨_, rfl, debug_cases st sc id _ _⟩
  | cancel => exact hclose .cancel
  | dismiss => exact hclose .dismissed
  | close o' => exact hclose o'
  | _ => cases hverb

/-- the callbacks that a closing runs are on record, with the one that was cut short -/
theorem Up.unwound (hu : Up sc st id s o) :
    Unwound sc depth st id s o (close (exec sc depth) sc id o st).flag := by
  have ha := tame_exec sc depth
  have hsend := sending_exec sc depth
  rw [close_eq hu.phase]
  rcases hrun : (leaving sc id s o st).run (exec sc depth) sc with ⟨f | _, last⟩
  · obtain ⟨done, cb, rest, before, hcbs, hdone, hbody⟩ := inTurn_eq_error.1 hrun
    change body (exec sc depth) sc id (st.request sc id) cb (before.note (.began id cb)) = ⟨.error f, last⟩ at hbody
    have hd : cb.isDialog = false := by
      by_contra hd
      have hok : (body (exec sc depth) sc id (st.request sc id) cb (before.note (.began id cb))).answer = .ok () :=
        body_of_dialog (by simpa using hd)
      rw [hbody] at hok
      cases hok
    obtain ⟨hbegan, hs⟩ := hu.began ha hcbs hdone hd
    have hplay : play (exec sc depth) sc ⟨id, handlerText cb⟩ (cb.script sc (st.request sc id))
        (before.note (.began id cb)) = ⟨.error f, last⟩ := body_of_script hd ▸ hbody
    have hf := (follows_play ha ⟨id, handlerText cb⟩ (cb.script sc (st.request sc id)) _ hs).2
    rw [hplay] at hf
    -- what the cut callback did has left this controller's callbacks alone
    have hleft := (hf.still id trivial (by rw [hbegan.closed]; rfl)).deeds
    have hhad : deeds id last.history = deeds id st.history ++ marksOf id done ++ [.began id cb] := by
      rw [hleft, ← hu.had ha hsend hcbs hdone]
      exact deeds_cons_of_isDeedOf (by simp [Mark.isDeedOf])
    exact .cut hcbs hdone hbody (run_eq_error_iff.1 hrun) hf.suffix hhad
  · exact .returned hrun (hu.had ha hsend (List.append_nil _).symm hrun)

/-- the outcome of the first trigger stays -/
theorem Up.settled (hu : Up sc st id s o) :
    Settled sc depth st id s o (close (exec sc depth) sc id o st).flag := by
  have hclosed : ∀ later, Recorded sc later → (close (exec sc depth) sc id o st).flag.stage.history <:+ later.history →
      later.phase id = .closed o := by
    intro later hr hsuf
    have hmoved := moved_close sc (sending_exec sc depth) hu.phase o
    have hlt : id < (controllersAt sc st.history).length := lt_of_phaseAt_ne_created (by simp [hu.rising.phase])
    rw [Ran.stage_flag] at hsuf
    rw [hr.phase_eq]
    refine hr.legal.phaseAt_closed (hmoved.trans hsuf) ?_
    rw [phaseAt_moved, if_pos ⟨rfl, hlt⟩]
  refine ⟨hu.unwound, ?_, ?_⟩
  · have hlanded := (hu.rising.leads_close (tame_exec sc depth) hu.dialog).stage
    rw [← Ran.stage_flag] at hlanded
    exact hclosed _ hlanded.1.toRecorded (List.suffix_refl _)
  · intro later hr hsuf depth' name verb hverb
    exact perform_of_closed (hclosed later hr hsuf) name hverb

/-! ## Where nothing raises -/

/-- a call that sets no field of a request, which always fails -/
def Call.Calm : Call → Prop
  | .prompt _ (.assign _) => False
  | _ => True

/-- an action that raises nothing -/
def Action.Calm : Action → Prop
  | .call c => c.Calm
  | .raise _ _ => False
  | .attempt action => action.Calm
  | _ => True

/-- no script raises -/
structure Scene.Calm (sc : Scene) : Prop where
  handler : ∀ name cb script, handlerScript (sc.request name) cb = some script → ∀ action ∈ script, action.Calm
  onShow : ∀ place, ∀ action ∈ (sc.surface place).onShow, action.Calm
  onClose : ∀ place, ∀ action ∈ (sc.surface place).onClose, action.Calm

/-- if the call brings a prompt up, then for the first time -/
def Occasion.Fresh (sc : Scene) (m : Occasion) : Prop :=
  ∀ depth name place, m.depth = depth + 1 → m.call = .prompt name (.display place) →
    (m.stage.ensure sc name).phase ((m.stage.ensure sc name).currentId name) = .created

/-- what a callback runs stands in a handler's script or in a surface's -/
theorem mem_script {cb : Callback} {r : Request} {action : Action} (hin : action ∈ cb.script sc r) :
    (∃ script, handlerScript r cb = some script ∧ action ∈ script) ∨
      ∃ place, action ∈ (sc.surface place).onShow ∨ action ∈ (sc.surface place).onClose := by
  have hhandler : action ∈ (handlerScript r cb).getD [] →
      ∃ script, handlerScript r cb = some script ∧ action ∈ script := by
    intro hin
    cases hscript : handlerScript r cb with
    | none => simp [hscript] at hin
    | some script => exact ⟨script, rfl, by simpa [hscript] using hin⟩
  cases cb with
  | surfaceShow s => cases s with
    | scripted place => exact Or.inr ⟨place, Or.inl hin⟩
    | dialog k => cases hin
  | surfaceClose s => cases s with
    | scripted place => exact Or.inr ⟨place, Or.inr hin⟩
    | dialog k => cases hin
  | handler o t => exact Or.inl (hhandler hin)
  | onClosed => exact Or.inl (hhandler hin)

theorem Scene.Calm.script (hsc : sc.Calm) (cb : Callback) (name : String) :
    ∀ action ∈ cb.script sc (sc.request name), action.Calm := by
  intro action hin
  rcases mem_script hin with ⟨script, hscript, hin⟩ | ⟨place, hin | hin⟩
  · exact hsc.handler name cb script hscript action hin
  · exact hsc.onShow place action hin
  · exact hsc.onClose place action hin

/-- an errand is run for the request of a prompt -/
theorem request_of_errand {c : Call} (he : c.errand? sc st = some e) : ∃ name, e.request = sc.request name := by
  cases c with
  | prompt name verb =>
    rcases errand?_eq_some he with ⟨place, -, -, rfl⟩ | ⟨s, o, -, -, rfl⟩
    · exact ⟨_, rfl⟩
    · exact ⟨_, rfl⟩
  | present name => cases he
  | notice message => cases he

/-- what an errand comes to stands in a script -/
theorem mem_script_of_reaches {c : Call} {action : Action} (he : c.errand? sc st = some e)
    (hr : e.Reaches again sc action last) :
    ∃ (cb : Callback) (name : String), action ∈ cb.script sc (sc.request name) := by
  obtain ⟨name, hname⟩ := request_of_errand he
  obtain ⟨done, cb, rest, before, -, -, front, back, hscript, -⟩ := hr
  rw [hname] at hscript
  exact ⟨cb, name, hscript ▸ List.mem_append_right _ List.mem_cons_self⟩

theorem Scene.Calm.reached (hsc : sc.Calm) {c : Call} {action : Action} (he : c.errand? sc st = some e)
    (hr : e.Reaches again sc action last) : action.Calm := by
  obtain ⟨cb, name, hin⟩ := mem_script_of_reaches he hr
  exact hsc.script cb name action hin

theorem Action.Calm.call {action : Action} {c : Call} (h : action.Calm) (hc : action.call? = some c) : c.Calm := by
  induction action with
  | call c' => exact Option.some.inj hc ▸ h
  | attempt action ih => exact ih h hc
  | _ => cases hc

theorem calm_of_madeIn (hsc : sc.Calm) (hcalls : ∀ c ∈ calls, c.Calm) (hm : MadeIn sc depth calls m) : m.call.Calm := by
  obtain ⟨front, c, back, rfl, hmakes⟩ := hm
  induction hmakes with
  | refl => exact hcalls c (List.mem_append_right _ List.mem_cons_self)
  | tail _ hmakes _ =>
    obtain ⟨-, e, action, he, hr, hc⟩ := hmakes
    exact (hsc.reached he hr).call hc

theorem MadeIn.tail (hm : MadeIn sc depth calls m) (hmakes : m.Makes sc m') : MadeIn sc depth calls m' := by
  obtain ⟨front, c, back, hcalls, hbefore⟩ := hm
  exact ⟨front, c, back, hcalls, hbefore.tail hmakes⟩

/-- Without raises, and with each prompt brought up once, calls fail by nesting too deeply alone. -/
theorem tooDeep_of_calm (hsc : sc.Calm) (hcalls : ∀ c ∈ calls, c.Calm)
    (hfresh : ∀ m, MadeIn sc depth calls m → m.Fresh sc) (hm : MadeIn sc depth calls m)
    (hfault : (m.ran sc).answer = .error f) : f = .tooDeep := by
  obtain ⟨within, c, st⟩ := m
  have hran : exec sc within c st = ⟨.error f, (exec sc within c st).stage⟩ := by rw [← hfault]; rfl
  generalize (exec sc within c st).stage = last at hran
  clear hfault
  induction within generalizing c st f last with
  | zero =>
    cases hran
    rfl
  | succ d ih =>
    rcases exec_eq_error.1 hran with hfails | ⟨d', e, hd, he, hrun⟩
    · cases hfails with
      | fixedField => exact (calm_of_madeIn hsc hcalls hm).elim
      | alreadyShown ensured stands found =>
        subst ensured stands
        exact absurd (hfresh _ hm d _ _ rfl rfl) found
    · obtain rfl : d = d' := Nat.succ.inj hd
      rcases Errand.run_eq_error.1 hrun with ⟨kind, message, hr, -⟩ | ⟨action, st', c', hr, hc, -, hexec⟩
      · exact (hsc.reached he hr).elim
      · exact ih c' st' (hm.tail ⟨rfl, e, action, he, hr, hc⟩) last hexec

/-- nesting too deeply is what no attempt swallows: it reaches the call from outside -/
theorem tooDeep_makes (hmakes : Relation.ReflTransGen (Occasion.Makes sc) m m')
    (hfault : (m'.ran sc).answer = .error .tooDeep) : (m.ran sc).answer = .error .tooDeep := by
  induction hmakes using Relation.ReflTransGen.head_induction_on with
  | refl => exact hfault
  | @head m m₁ hmakes _ ih =>
    obtain ⟨hd, e, action, he, hr, hc⟩ := hmakes
    have hlets : action.lets .tooDeep := by cases action <;> simp [Action.lets]
    have hran : exec sc m₁.depth m₁.call m₁.stage = ⟨.error .tooDeep, (m₁.ran sc).stage⟩ := by
      rw [← ih]
      rfl
    have hrun := Errand.run_eq_error.2 (Or.inr ⟨action, _, _, hr, hc, hlets, hran⟩)
    exact congrArg Ran.answer (exec_eq_error.2 (Or.inr ⟨_, e, hd, he, hrun⟩))

/-- where no new controllers are made, calls return -/
theorem returns_of_calm {names : Finset String} {places : Set String}
    (hlasting : sc.Within (Circle.lasting names places)) (hwithin : ∀ c ∈ calls, c.Within (Circle.lasting names places))
    (hdepth : 2 * names.card < depth) (hsc : sc.Calm) (hcalls : ∀ c ∈ calls, c.Calm)
    (hfresh : ∀ m, MadeIn sc depth calls m → m.Fresh sc) (hm : MadeIn sc depth calls m) :
    ∃ answer, (m.ran sc).answer = .ok answer := by
  cases hfault : (m.ran sc).answer with
  | ok answer => exact ⟨answer, rfl⟩
  | error f =>
    obtain rfl := tooDeep_of_calm hsc hcalls hfresh hm hfault
    obtain ⟨front, c, back, rfl, hmakes⟩ := hm
    have houtside := tooDeep_makes hmakes hfault
    have hhoused := housed_runWithin hlasting depth (fun c hc => hwithin c (List.mem_append_left _ hc)) housed_empty
    have hsure := sure_exec hlasting depth 0 c (hwithin c (List.mem_append_right _ List.mem_cons_self)) _ hhoused
    exact absurd houtside (hsure.same (Nat.lt_of_le_of_lt (toCome_le sc names _) hdepth)).2

/-- **Faults cut closings short and change nothing else.** A trigger that finds its prompt up runs the callbacks of its
closing, up to the first that faults; whoever makes it, the prompt is closed by it for good. Where no script raises and
each prompt is brought up once, no call faults, unless prompts are renewed so often that calls nest too deeply. -/
theorem faults_cut_short (sc : Scene) :
    (∀ depth st id s o, Up sc st id s o → Settled sc depth st id s o (close (exec sc depth) sc id o st).flag) ∧
    (∀ depth calls m within name verb s o, MadeIn sc depth calls m → m.depth = within + 1 →
      m.call = .prompt name verb →
      let found := m.stage.ensure sc name
      let id := found.currentId name
      found.phase id = .shown s → verb.outcome? (found.request sc id) = some o →
        Up sc found id s o ∧ Settled sc within found id s o (m.ran sc)) ∧
    (sc.Calm → ∀ depth calls, (∀ c ∈ calls, c.Calm) → (∀ m, MadeIn sc depth calls m → m.Fresh sc) →
      ∀ m, MadeIn sc depth calls m →
        (∀ f, (m.ran sc).answer = .error f → f = .tooDeep) ∧
        ∀ names places, sc.Within (Circle.lasting names places) →
          (∀ c ∈ calls, c.Within (Circle.lasting names places)) → 2 * names.card < depth →
            ∃ answer, (m.ran sc).answer = .ok answer) := by
  refine ⟨fun depth st id s o hu => hu.settled, ?_, ?_⟩
  · rintro depth calls ⟨_, _, stage⟩ within name verb s o hm rfl rfl found id hp hout
    have hensured : Sound sc found := (follows_ensure name (sound_of_madeIn hm)).1
    have hu := hensured.isUp hp o
    have hran : Occasion.ran sc ⟨within + 1, .prompt name verb, stage⟩ = (close (exec sc within) sc id o found).flag :=
      perform_of_outcome name hout
    exact ⟨hu, hran ▸ hu.settled⟩
  · intro hsc depth calls hcalls hfresh m hm
    exact ⟨fun f => tooDeep_of_calm hsc hcalls hfresh hm, fun names places hlasting hwithin hdepth =>
      returns_of_calm hlasting hwithin hdepth hsc hcalls hfresh hm⟩

/-- a prompt whose handler closes a second one, whose handler runs this script -/
def relay (script : Script) : Scene where
  request title := { Request.titled title with
    onPrimary := if title = "a" then [.call (.prompt "b" .primary)] else script
    onClosed := some [] }
  surface _ := ⟨[], []⟩
  threshold := 10
  cancelLabel := "Cancel"
  escapeDismisses := true

theorem handlerScript_relay {cb : Callback} {script : Script}
    (h : handlerScript ((relay []).request name) cb = some script) :
    script = [] ∨ script = [.call (.prompt "b" .primary)] := by
  cases cb with
  | handler o t =>
    cases o with
    | primary =>
      have hscript : (if name = "a" then [.call (.prompt "b" .primary)] else []) = script := Option.some.inj h
      split_ifs at hscript
      · exact Or.inr hscript.symm
      · exact Or.inl hscript.symm
    | _ => cases h
  | onClosed => exact Or.inl (Option.some.inj h).symm
  | _ => cases h

theorem calm_relay : (relay []).Calm where
  handler name cb script hs action hin := by
    rcases handlerScript_relay hs with rfl | rfl
    · cases hin
    · obtain rfl := List.mem_singleton.1 hin
      trivial
  onShow place action hin := by cases hin
  onClose place action hin := by cases hin

theorem within_relay : (relay []).Within (Circle.lasting {"a", "b"} Set.univ) where
  handler name _ cb script hs := by
    rcases handlerScript_relay hs with rfl | rfl <;>
      simp [Script.Within, Action.Within, Call.Within, Verb.Within, Circle.lasting]
  onShow place _ := by simp [Script.Within, relay]
  onClose place _ := by simp [Script.Within, relay]

/-- in a relay only calls from outside bring prompts up -/
theorem fresh_relay (hm : MadeIn (relay []) 5 [.prompt "a" (.display none), .prompt "a" .primary] m) :
    m.Fresh (relay []) := by
  intro d name place hd hcall
  obtain ⟨front, c, back, hcalls, hmakes⟩ := hm
  rcases hmakes.cases_tail with rfl | ⟨m', -, -, e, action, he, hr, hc⟩
  · obtain rfl : front = [] := by
      rcases front with _ | ⟨first, front⟩
      · rfl
      · rcases front with _ | ⟨second, front⟩ <;> simp_all
    obtain rfl : c = .prompt name (.display place) := hcall
    obtain rfl : "a" = name := by
      obtain ⟨rfl, -⟩ := (Call.prompt.injEq ..).mp (List.cons.inj hcalls).1
      rfl
    rfl
  · obtain ⟨cb, name, hin⟩ := mem_script_of_reaches he hr
    rcases mem_script hin with ⟨script, hscript, hin⟩ | ⟨place, hin | hin⟩
    · rcases handlerScript_relay hscript with rfl | rfl
      · cases hin
      · obtain rfl := List.mem_singleton.1 hin
        simp_all [Action.call?]
    · cases hin
    · cases hin

/-- The second handler raises, and both prompts are closed. Where it does nothing, every call returns. -/
theorem relay_cut_short :
    (let calls := [.prompt "a" (.display none), .prompt "b" (.display none)]
      let raising := relay [.raise .value "no"]
      let ran := exec raising 3 (.prompt "a" .primary) (runWithin raising 3 calls .empty)
      ran.answer = .error (.raised .value "no") ∧
      Settled raising 2 (runWithin raising 3 calls .empty) 0 (.scripted "a") .primary ran) ∧
    ∀ m, MadeIn (relay []) 5 [.prompt "a" (.display none), .prompt "a" .primary] m →
      ∃ answer, (m.ran (relay [])).answer = .ok answer := by
  refine ⟨⟨rfl, ?_⟩, fun m hm => ?_⟩
  · have hmade : MadeIn (relay [.raise .value "no"]) 3
        [.prompt "a" (.display none), .prompt "b" (.display none), .prompt "a" .primary]
        ⟨3, .prompt "a" .primary, _⟩ :=
      ⟨[.prompt "a" (.display none), .prompt "b" (.display none)], _, [], rfl, .refl⟩
    exact ((faults_cut_short (relay [.raise .value "no"])).2.1 3 _ _ 2 "a" .primary (.scripted "a") .primary hmade
      rfl rfl rfl rfl).2
  · refine ((faults_cut_short (relay [])).2.2 calm_relay 5 _ ?_ (fun m => fresh_relay) m hm).2 {"a", "b"} Set.univ
      within_relay ?_ (by decide)
    · simp [Call.Calm]
    · simp [Call.Within, Verb.Within, Circle.lasting]

end LinePrompt.Prompt
