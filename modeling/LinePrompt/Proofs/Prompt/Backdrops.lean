/-
What a run does not look at.

A call neither reads what happened before nor what waits in the queue, and a dialog that no prompt is up on any more is
one screen among others, whatever the host did to it. All this is the `Backdrop` of a run: where it differs, the run is
the same in front of it. Nor does a call depend on how deeply others may nest inside of it, as long as none nests too
deeply.

So two runs that start in front of different backdrops, perhaps under different bounds, are compared by one run:
`exec_restages`. The proof follows the calls from an action up to `exec`, with one lemma for each computation of a call.
-/
import LinePrompt.Proofs.Prompt.Errands

namespace LinePrompt.Screen

/-! ## Changes of a dialog -/

/-- change a screen if it is a dialog -/
def Layer.alter (f : Modal → Modal) : Layer → Layer
  | .modal m => .modal (f m)
  | .notice message => .notice message

theorem Host.updateModal_eq (h : Host) (k : Nat) (f : Modal → Modal) :
    h.updateModal k f = { h with screens := h.screens.modify k (Layer.alter f) } := by
  have hscreens : (h.updateModal k f).screens = h.screens.modify k (Layer.alter f) := by
    apply List.ext_getElem?
    intro j
    unfold Host.updateModal
    rw [List.getElem?_modify]
    split
    · rename_i m hm
      have hk := Host.lt_of_modal? hm
      rw [Host.modal?_eq_some] at hm
      by_cases hj : k = j
      · subst hj
        rw [hm, List.getElem?_set_self hk]
        simp [Layer.alter]
      · simp [hj, List.getElem?_set_ne]
    · rename_i hm
      by_cases hj : k = j
      · subst hj
        rcases hl : h.screens[k]? with _ | (m | message)
        · simp
        · simp [Host.modal?_eq_some.2 hl] at hm
        · simp [Layer.alter]
      · simp [hj]
  rw [← hscreens]
  unfold Host.updateModal
  split <;> rfl

end LinePrompt.Screen

namespace LinePrompt.Prompt

open LinePrompt.Log LinePrompt.Screen

/-- what happened and what waits since before a run, and a dialog with a change that was made to it -/
structure Backdrop where
  history : List Mark
  queue : List Message
  dialog : Nat
  change : Modal → Modal
  controller : ∀ m, (change m).controller = m.controller
  field : ∀ m field, change { m with field } = { change m with field }
  mounted : ∀ m mounted, change { m with mounted } = { change m with mounted }

end LinePrompt.Prompt

namespace LinePrompt.Screen

open LinePrompt.Prompt

variable {b : Backdrop}

def Host.against (h : Host) (b : Backdrop) : Host :=
  { h with
    screens := h.screens.modify b.dialog (Layer.alter b.change)
    queue := b.queue ++ h.queue }

theorem Host.modal?_against (h : Host) (k : Nat) :
    (h.against b).modal? k = if k = b.dialog then (h.modal? k).map b.change else h.modal? k := by
  have hmodal : (h.against b).modal? k = (h.updateModal b.dialog b.change).modal? k := by
    rw [Host.updateModal_eq]
    rfl
  rw [hmodal, Host.modal?_updateModal]
  split_ifs with hk
  · rw [hk]
  · rfl

theorem Host.driver?_against (h : Host) (k : Nat) : (h.against b).driver? k = h.driver? k := by
  unfold Host.driver?
  rw [Host.modal?_against]
  split_ifs
  · rw [Option.map_map]
    exact congrArg (fun f => (h.modal? k).map f) (funext b.controller)
  · rfl

/-- field and mounting of any dialog can be changed in front of a backdrop -/
theorem Host.updateModal_against (h : Host) (k : Nat) (f : Modal → Modal) (hf : ∀ m, f (b.change m) = b.change (f m)) :
    (h.against b).updateModal k f = (h.updateModal k f).against b := by
  rw [Host.updateModal_eq, Host.updateModal_eq]
  have hscreens : (h.screens.modify b.dialog (Layer.alter b.change)).modify k (Layer.alter f) =
      (h.screens.modify k (Layer.alter f)).modify b.dialog (Layer.alter b.change) := by
    apply List.ext_getElem?
    intro j
    simp only [List.getElem?_modify, Option.map_eq_map, Option.map_map]
    congr 1
    funext layer
    cases layer <;> simp only [Function.comp] <;> split_ifs <;> simp [Layer.alter, hf]
  simp only [Host.against, hscreens]

theorem change_field (b : Backdrop) (m : Modal) : (b.change m).field = m.field := by
  show (b.change m).field = ({ b.change m with field := m.field } : Modal).field
  exact congrArg Modal.field (b.field m m.field)

theorem Host.resume_against (h : Host) : (h.against b).resume = h.resume.against b := by
  unfold Host.resume
  rw [show (h.against b).stack = h.stack from rfl]
  split
  · rfl
  · apply Host.updateModal_against
    intro m
    rw [change_field]
    exact (b.field m m.field.deselect).symm

theorem Host.post_against (h : Host) (m : Message) : (h.against b).post m = (h.post m).against b := by
  simp only [Host.against, Host.post, List.append_assoc]

theorem Host.push_against (h : Host) (k : Nat) : (h.against b).push k = (h.push k).against b :=
  Host.post_against { h with stack := k :: h.stack } (.mount k)

theorem Host.pop_against (h : Host) : (h.against b).pop = h.pop.against b := by
  unfold Host.pop
  rw [show (h.against b).stack = h.stack from rfl]
  split
  · rfl
  · rename_i k rest _
    rw [← Host.resume_against, ← Host.post_against]
    rfl

theorem Host.prepare_against {h : Host} (hk : b.dialog < h.screens.length) (layer : Layer) :
    (h.against b).prepare layer = (h.prepare layer).against b := by
  have hscreens : h.screens.modify b.dialog (Layer.alter b.change) ++ [layer] =
      (h.screens ++ [layer]).modify b.dialog (Layer.alter b.change) := by
    apply List.ext_getElem?
    intro j
    rw [List.getElem?_modify, List.getElem?_append, List.getElem?_append, List.length_modify]
    split_ifs with hj hlt
    · subst hlt
      simp [hj]
    · simp [hlt, hj]
    · omega
    · simp_all
  simp only [Host.against, Host.prepare, hscreens]

end LinePrompt.Screen

namespace LinePrompt.Prompt

open LinePrompt.Log LinePrompt.Screen

variable {sc : Scene} {st : Stage} {id k : Nat} {b : Backdrop} {deeper : Prop} {again again' : Caller}

/-! ## Stages in front of a backdrop -/

def Stage.against (st : Stage) (b : Backdrop) : Stage :=
  { st with
    host := st.host.against b
    history := st.history ++ b.history }

def Ran.against {α : Type} (r : Ran α) (b : Backdrop) : Ran α := ⟨r.answer, r.stage.against b⟩

/-- a screen was made, and no prompt is up on it -/
structure Spent (k : Nat) (st : Stage) : Prop where
  lt : k < st.host.screens.length
  unshown : ∀ i, st.phase i ≠ .shown (.dialog k)

/-- what makes no prompt come up leaves a dialog spent -/
theorem Spent.of_phase {st' : Stage} (h : Spent k st) (hlt : st.host.screens.length ≤ st'.host.screens.length)
    (hphase : ∀ i, st'.phase i = .shown (.dialog k) → st.phase i = .shown (.dialog k)) : Spent k st' :=
  ⟨Nat.lt_of_lt_of_le h.lt hlt, fun i hi => h.unshown i (hphase i hi)⟩

theorem Spent.note (h : Spent k st) (m : Mark) : Spent k (st.note m) := h.of_phase (Nat.le_refl _) fun _ hi => hi

theorem Spent.log (h : Spent k st) (severity : Severity) (record : Unit → Record) :
    Spent k (st.log sc severity record) := by
  rcases log_eq st sc severity record with he | ⟨r, he⟩ <;> rw [he]
  · exact h
  · exact h.note _

theorem Spent.debug (h : Spent k st) (id : Nat) (message : String) (args : List String) :
    Spent k (st.debug sc id message args) := by
  unfold Stage.debug
  exact h.log _ _

theorem Spent.update {f : Controller → Controller} (h : Spent k st)
    (hf : ∀ c, (f c).phase = .shown (.dialog k) → c.phase = .shown (.dialog k)) : Spent k (st.update id f) := by
  refine h.of_phase (Nat.le_refl _) fun i hi => ?_
  rw [Stage.phase, controller_update] at hi
  split_ifs at hi
  · exact hf _ hi
  · exact hi

theorem Spent.setPhase {phase : Phase} (h : Spent k st) (hp : phase ≠ .shown (.dialog k)) :
    Spent k (st.setPhase id phase) := (h.update fun _ he => absurd he hp).note _

theorem Spent.setText (h : Spent k st) (text : String) : Spent k (st.setText id text) := by
  unfold Stage.setText
  split_ifs
  · exact h.note _
  · have hset : Spent k (st.update id ({ · with text })) := h.update fun _ he => he
    exact hset.note _

theorem Spent.create (h : Spent k st) (name : String) : Spent k (st.create sc name) := by
  refine h.of_phase (Nat.le_refl _) fun i hi => ?_
  by_cases hlt : i < st.controllers.length
  · rwa [Stage.phase, controller_create i hlt] at hi
  -- a new controller has not come up, and the numbers behind it stand for none
  · rw [Stage.phase, Stage.controller, Stage.create, Stage.note, List.getD_append_right _ _ _ _ (Nat.le_of_not_lt hlt)]
      at hi
    rcases Nat.eq_or_lt_of_le (Nat.le_of_not_lt hlt) with rfl | hlt
    · simp [Controller.fresh] at hi
    · rw [List.getD_eq_default _ _ (by simp; omega)] at hi
      simp [Controller.blank] at hi

theorem Spent.ensure (h : Spent k st) (name : String) : Spent k (st.ensure sc name) := by
  unfold Stage.ensure
  split_ifs
  · exact h
  · exact h.create name

theorem Spent.pop (h : Spent k st) (why : Departure) : Spent k (st.pop why) := by
  cases htop : st.host.top? with
  | none =>
    unfold Stage.pop
    rwa [htop]
  | some j =>
    rw [pop_eq htop]
    exact h.of_phase (Nat.le_of_eq (Host.length_pop _).symm) fun _ hi => hi

/-! ## Changes of a stage -/

theorem log_against (st : Stage) (severity : Severity) (record : Unit → Record) :
    (st.against b).log sc severity record = (st.log sc severity record).against b := by
  unfold Stage.log
  split_ifs <;> rfl

theorem debug_against (st : Stage) (id : Nat) (message : String) (args : List String) :
    (st.against b).debug sc id message args = (st.debug sc id message args).against b := log_against st _ _

theorem setText_against (st : Stage) (id : Nat) (text : String) :
    (st.against b).setText id text = (st.setText id text).against b := by
  unfold Stage.setText
  rw [show (st.against b).phase id = st.phase id from rfl]
  split_ifs <;> rfl

theorem ensure_against (st : Stage) (name : String) :
    (st.against b).ensure sc name = (st.ensure sc name).against b := by
  unfold Stage.ensure
  rw [show (st.against b).current? name = st.current? name from rfl]
  split_ifs <;> rfl

theorem push_against (st : Stage) (j : Nat) : (st.against b).push j = (st.push j).against b := by
  unfold Stage.push
  rw [show (st.against b).host = st.host.against b from rfl, Host.push_against]
  rfl

theorem pop_against (st : Stage) (why : Departure) : (st.against b).pop why = (st.pop why).against b := by
  unfold Stage.pop
  rw [show (st.against b).host = st.host.against b from rfl, show (st.host.against b).top? = st.host.top? from rfl,
    Host.pop_against]
  split <;> rfl

theorem finishWith_against (cue : Cue) (st : Stage) :
    finishWith sc cue (st.against b) = (finishWith sc cue st).against b := by
  unfold finishWith
  dsimp only
  have hkept (kept : String) : ({ st.against b with kept } : Stage) = ({ st with kept } : Stage).against b := rfl
  have hreport (st : Stage) (after : String) : (st.against b).report sc cue.controller .info appLogger after =
    (st.report sc cue.controller .info appLogger after).against b := log_against st _ _
  rw [hkept, hreport]
  rfl

/-- a dialog that is not the backdrop's is closed -/
theorem closeDialog_against {j : Nat} (hj : j ≠ b.dialog) (id : Nat) (st : Stage) :
    closeDialog sc id j (st.against b) = (closeDialog sc id j st).against b := by
  unfold closeDialog
  have hmodal : (st.against b).host.modal? j = st.host.modal? j := (Host.modal?_against _ _).trans (if_neg hj)
  rw [hmodal, show (st.against b).host.top? = st.host.top? from rfl]
  split_ifs
  · rfl
  · exact pop_against st _
  · exact log_against st _ _

theorem Spent.finishWith (h : Spent k st) (cue : Cue) : Spent k (finishWith sc cue st) := by
  have hkept (kept : String) : Spent k { st with kept } := h.of_phase (Nat.le_refl _) fun _ hi => hi
  exact ((hkept _).log .info _).of_phase (Nat.le_refl _) fun _ hi => hi

theorem Spent.closeDialog (h : Spent k st) (id j : Nat) : Spent k (closeDialog sc id j st) := by
  unfold Prompt.closeDialog
  split_ifs
  · exact h
  · exact h.pop _
  · exact h.log _ _

theorem Spent.prepare (h : Spent k st) (layer : Layer) : Spent k { st with host := st.host.prepare layer } :=
  h.of_phase (by simp [Host.prepare]) fun _ hi => hi

theorem prepare_against (h : Spent b.dialog st) (layer : Layer) :
    { st.against b with host := (st.against b).host.prepare layer } =
      Stage.against { st with host := st.host.prepare layer } b := by
  rw [show (st.against b).host = st.host.against b from rfl, Host.prepare_against h.lt]
  rfl

theorem length_against (st : Stage) : (st.against b).host.screens.length = st.host.screens.length :=
  List.length_modify _ _ _

theorem showing_against (st : Stage) (id : Nat) (s : Surface) :
    (showing sc id s (st.against b)).start = (showing sc id s st).start.against b :=
  debug_against (st.setPhase id (.shown s)) id "shown" []

theorem leaving_against (st : Stage) (id : Nat) (s : Surface) (o : Outcome) :
    (leaving sc id s o (st.against b)).start = (leaving sc id s o st).start.against b :=
  debug_against (st.setPhase id (.closed o)) id "closed via %s" [o.name]

theorem Spent.showing {s : Surface} (h : Spent k st) (hs : s ≠ .dialog k) : Spent k (showing sc id s st).start := by
  have hphase : Phase.shown s ≠ .shown (.dialog k) := by simpa using hs
  exact (h.setPhase hphase).debug id "shown" []

theorem Spent.leaving {s : Surface} (h : Spent k st) (o : Outcome) : Spent k (leaving sc id s o st).start := by
  have hphase : Phase.closed o ≠ .shown (.dialog k) := by simp
  exact (h.setPhase hphase).debug id "closed via %s" [o.name]

/-! ## Computations -/

/-- The second computation does what the first does, in front of a backdrop; unless the first nests too deeply and the
second may nest deeper. -/
def Restages {α : Type} (deeper : Prop) (b : Backdrop) (r r' : Ran α) : Prop :=
  (deeper ∧ r.answer = .error .tooDeep) ∨ (Spent b.dialog r.stage ∧ r' = r.against b)

section Computations

variable {α β : Type} {r r' : Ran α}

theorem Spent.restages (h : Spent b.dialog st) (answer : Except Fault α) :
    Restages deeper b ⟨answer, st⟩ ⟨answer, st.against b⟩ := Or.inr ⟨h, rfl⟩

theorem Restages.same (h : Restages deeper b r r') (hno : ¬ deeper) : r' = r.against b :=
  (h.resolve_left fun hd => hno hd.1).2

theorem Restages.andThen {next next' : α → Stage → Ran β} (hr : Restages deeper b r r')
    (hn : ∀ a st, Spent b.dialog st → Restages deeper b (next a st) (next' a (st.against b))) :
    Restages deeper b (r.andThen next) (r'.andThen next') := by
  obtain ⟨answer, st⟩ := r
  rcases hr with ⟨hdeeper, hdeep⟩ | ⟨hs, rfl⟩
  · obtain rfl : answer = .error .tooDeep := hdeep
    exact Or.inl ⟨hdeeper, rfl⟩
  · cases answer with
    | ok a => exact hn a st hs
    | error f => exact Or.inr ⟨hs, rfl⟩

end Computations

/-- calls that do the same in front of a backdrop -/
def Repeats (deeper : Prop) (b : Backdrop) (again again' : Caller) : Prop :=
  ∀ c st, Spent b.dialog st → Restages deeper b (again c st) (again' c (st.against b))

section Calls

variable (ha : Repeats deeper b again again')

include ha

theorem act_restages (cue : Cue) (action : Action) (hs : Spent b.dialog st) :
    Restages deeper b (act again sc cue action st) (act again' sc cue action (st.against b)) := by
  induction action with
  | call c => exact (ha c st hs).andThen fun _ _ h => (h.note _).restages _
  | raise kind message => exact hs.restages _
  | attempt action ih =>
    unfold act
    revert ih
    generalize act again sc cue action st = r
    generalize act again' sc cue action (st.against b) = r'
    intro ih
    obtain ⟨answer, st'⟩ := r
    rcases ih with ⟨hdeeper, hdeep⟩ | ⟨hs', rfl⟩
    · obtain rfl : answer = .error .tooDeep := hdeep
      exact Or.inl ⟨hdeeper, rfl⟩
    · cases answer with
      | ok a => exact hs'.restages _
      | error f => cases f with
        | tooDeep => exact hs'.restages _
        | _ => exact (hs'.note _).restages _
  | keep => exact Or.inr ⟨hs.of_phase (Nat.le_refl _) fun _ hi => hi, rfl⟩
  | finish => exact Or.inr ⟨hs.finishWith cue, congrArg (Ran.mk _) (finishWith_against cue st)⟩

theorem play_restages (cue : Cue) (script : Script) (hs : Spent b.dialog st) :
    Restages deeper b (play again sc cue script st) (play again' sc cue script (st.against b)) := by
  induction script generalizing st with
  | nil => exact hs.restages _
  | cons action rest ih => exact (act_restages ha cue action hs).andThen fun _ _ h => ih h

/-- a callback that does not close the backdrop's dialog -/
theorem body_restages (r : Request) {cb : Callback} (hcb : cb ≠ .surfaceClose (.dialog b.dialog))
    (hs : Spent b.dialog st) :
    Restages deeper b (body again sc id r cb st) (body again' sc id r cb (st.against b)) := by
  cases hd : cb.isDialog with
  | false =>
    rw [body_of_script hd, body_of_script hd]
    exact play_restages ha _ _ hs
  | true =>
    cases cb with
    | surfaceShow s => cases s with
      | scripted place => cases hd
      | dialog j =>
        exact Or.inr ⟨hs.of_phase (Nat.le_refl _) fun _ hi => hi, congrArg (Ran.mk _) (push_against st j)⟩
    | surfaceClose s => cases s with
      | scripted place => cases hd
      | dialog j =>
        have hj : j ≠ b.dialog := by
          rintro rfl
          exact hcb rfl
        exact Or.inr ⟨hs.closeDialog id j, congrArg (Ran.mk _) (closeDialog_against hj id st)⟩
    | _ => cases hd

theorem inTurn_restages (r : Request) {cbs : List Callback} (hcbs : .surfaceClose (.dialog b.dialog) ∉ cbs)
    (hs : Spent b.dialog st) :
    Restages deeper b (inTurn again sc id r cbs st) (inTurn again' sc id r cbs (st.against b)) := by
  induction cbs generalizing st with
  | nil => exact hs.restages _
  | cons cb cbs ih =>
    have hcb : cb ≠ .surfaceClose (.dialog b.dialog) := by
      rintro rfl
      exact hcbs List.mem_cons_self
    refine Restages.andThen ?_ fun _ _ h => ih (fun hin => hcbs (List.mem_cons_of_mem _ hin)) h
    exact (body_restages ha r hcb (hs.note (.began id cb))).andThen fun _ _ h => (h.note _).restages _

theorem display_restages {s : Surface} (hk : s ≠ .dialog b.dialog) (hs : Spent b.dialog st) :
    Restages deeper b (display again sc id s st) (display again' sc id s (st.against b)) := by
  cases hp : st.phase id with
  | created =>
    rw [display_eq hp, display_eq (show (st.against b).phase id = .created from hp)]
    unfold Errand.run
    rw [showing_against]
    exact inTurn_restages ha _ (by simp [showing]) (hs.showing hk)
  | _ =>
    unfold display
    rw [show (st.against b).phase id = st.phase id from rfl]
    simp only [hp]
    exact hs.restages _

theorem close_restages (o : Outcome) (hs : Spent b.dialog st) :
    Restages deeper b (close again sc id o st) (close again' sc id o (st.against b)) := by
  cases hp : st.phase id with
  | shown s =>
    rw [close_eq hp, close_eq (show (st.against b).phase id = .shown s from hp)]
    have hnot : .surfaceClose (.dialog b.dialog) ∉ (leaving sc id s o st).callbacks := by
      intro hin
      obtain rfl : .dialog b.dialog = s := by simpa [leaving, closing] using hin
      exact hs.unshown id hp
    unfold Errand.run
    rw [leaving_against]
    exact (inTurn_restages ha _ hnot (hs.leaving o)).andThen fun _ _ h => h.restages _
  | _ =>
    unfold close
    rw [show (st.against b).phase id = st.phase id from rfl]
    simp only [hp]
    exact Or.inr ⟨hs.debug id _ _, congrArg (Ran.mk _) (debug_against st id _ _)⟩

theorem alternate_restages (hs : Spent b.dialog st) :
    Restages deeper b (alternate again sc id st) (alternate again' sc id (st.against b)) := by
  unfold alternate
  rw [show (st.against b).request sc id = st.request sc id from rfl]
  split_ifs
  · exact close_restages ha .alternate hs
  · exact Or.inr ⟨hs.debug id _ _, congrArg (Ran.mk _) (debug_against st id _ _)⟩

theorem perform_restages (name : String) (verb : Verb) (hs : Spent b.dialog st) :
    Restages deeper b (perform again sc name id verb st) (perform again' sc name id verb (st.against b)) := by
  have hclose : ∀ o, Restages deeper b (close again sc id o st).flag (close again' sc id o (st.against b)).flag :=
    fun o => (close_restages ha o hs).andThen fun _ _ h => h.restages _
  cases verb with
  | renew => exact (hs.create name).restages _
  | display place => exact (display_restages ha (by simp) hs).andThen fun _ _ h => h.restages _
  | setText text => exact Or.inr ⟨hs.setText text, congrArg (Ran.mk _) (setText_against st id text)⟩
  | primary => exact hclose .primary
  | submit => exact hclose .primary
  | alternate => exact (alternate_restages ha hs).andThen fun _ _ h => h.restages _
  | cancel => exact hclose .cancel
  | dismiss => exact hclose .dismissed
  | close o => exact hclose o
  | hasAlternate => exact hs.restages _
  | cancelLabel default => exact hs.restages _
  | assign field => exact hs.restages _

theorem present_restages (name : String) (hs : Spent b.dialog st) :
    Restages deeper b (present again sc name st) (present again' sc name (st.against b)) := by
  unfold present
  dsimp only
  rw [length_against, show (st.against b).create sc name = (st.create sc name).against b from rfl]
  have hcreated : Spent b.dialog (st.create sc name) := hs.create name
  have hmade := prepare_against hcreated (.modal ⟨st.controllers.length, false, false, .ofText "" 0, .input⟩)
  rw [show (st.against b).controllers = st.controllers from rfl, hmade]
  refine display_restages ha ?_ (hcreated.prepare _)
  exact fun he => absurd (Surface.dialog.inj he) (Nat.ne_of_gt hs.lt)

theorem call_restages : Repeats deeper b (call again sc) (call again' sc) := by
  intro c st hs
  cases c with
  | prompt name verb =>
    unfold call
    dsimp only
    rw [ensure_against]
    exact perform_restages ha name verb (hs.ensure name)
  | present name => exact (present_restages ha name hs).andThen fun _ _ h => h.restages _
  | notice message =>
    refine Or.inr ⟨(hs.prepare _).of_phase (Nat.le_refl _) fun _ hi => hi, congrArg (Ran.mk _) ?_⟩
    unfold notice
    rw [prepare_against hs, length_against]
    exact push_against { st with host := st.host.prepare (.notice message) } _

end Calls

/-- **A call does the same in front of every backdrop**, and so it does under a larger bound, unless it nests too deeply
under the smaller one. -/
theorem exec_restages (sc : Scene) (b : Backdrop) {d d' : Nat} (hd : d ≤ d') :
    Repeats (d < d') b (exec sc d) (exec sc d') := by
  induction d generalizing d' with
  | zero =>
    intro c st hs
    cases d' with
    | zero => exact hs.restages _
    | succ d' => exact Or.inl ⟨Nat.succ_pos d', rfl⟩
  | succ d ih =>
    obtain ⟨d', rfl⟩ : ∃ n, d' = n + 1 := ⟨d' - 1, by omega⟩
    have hcall : Repeats (d < d') b (call (exec sc d) sc) (call (exec sc d') sc) :=
      call_restages (ih (Nat.le_of_succ_le_succ hd))
    intro c st hs
    refine (hcall c st hs).imp_left ?_
    rintro ⟨hlt, hdeep⟩
    exact ⟨Nat.succ_lt_succ hlt, hdeep⟩

end LinePrompt.Prompt
