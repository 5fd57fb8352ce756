/-
One controller at work: coming up and closing.

While a controller comes up or closes it alone is not at rest (`Alone`). `Rising` is the invariant of its coming up,
and `Midway` that of its closing between two callbacks: what its lifeline still holds is what is to come. A callback
that runs a script finds the stage sound, so the script may call whom it likes, this controller included.

- `follows_display`, `follows_close`: both leave a sound stage sound.
- `Rising.leads_close`: so does closing a prompt whose dialog was taken away, if it is dismissed.
-/
import LinePrompt.Proofs.Prompt.Following

namespace LinePrompt.Prompt

open LinePrompt.Log LinePrompt.Screen

variable {sc : Scene} {st st' : Stage} {id : Nat} {again : Caller}

/-! ## One controller at work -/

/-- nobody's callbacks hang in the air, except perhaps those of one controller -/
structure Alone (sc : Scene) (h₀ : List Mark) (id : Nat) (st : Stage) : Prop extends Recorded sc st where
  others : ∀ i, i ≠ id → AtRest sc st.history i
  beyond : Extends sc (· ≠ id) h₀ st.history

/-- the work of one controller is over, in good order or by a fault -/
def Landed (sc : Scene) (h₀ : List Mark) (id : Nat) (st : Stage) : Prop :=
  Sound sc st ∧ Extends sc (· ≠ id) h₀ st.history

variable {h₀ : List Mark} {s : Surface} {o : Outcome} {todo : List Mark}

theorem Sound.alone (hs : Sound sc st) (id : Nat) : Alone sc st.history id st :=
  ⟨hs.toRecorded, fun i _ => hs.rest i, .refl _ _ _⟩

/-- a mark of this controller's alone -/
theorem Alone.cons {m : Mark} (ha : Alone sc h₀ id st) (hr : Recorded sc st') (hh : st'.history = m :: st.history)
    (hb : m.byCall) (ht : ∀ i, i ≠ id → m.touches i = false) (ho : openAt h₀ <:+ openAt (m :: st.history)) :
    Alone sc h₀ id st' := by
  have hl : Legal sc (m :: st.history) := hh ▸ hr.legal
  refine ⟨hr, ?_, ?_⟩ <;> rw [hh]
  · exact fun i hi => (ha.others i hi).cons hl hb (ht i hi)
  · obtain ⟨ms, he, hms⟩ := ha.beyond.marks
    refine ⟨⟨m :: ms, congrArg _ he, ?_⟩, ?_, ho⟩
    · simpa using And.intro hb hms
    · intro i hi hc
      exact (ha.beyond.still i hi hc).trans (hl.untouched (ht i hi))

theorem Alone.follow (ha : Alone sc h₀ id st) (hs : Sound sc st)  (hf : Follows sc st st') : Landed sc h₀ id st' :=
  have h := hf hs
  ⟨h.1, ha.beyond.trans (h.2.mono fun _ _ => trivial)⟩

/-- the work of a controller that was not closed before disturbs nobody -/
theorem Landed.follows (hl : Landed sc st.history id st') (hp : (phaseAt sc st.history id).isClosed = false) :
    Sound sc st' ∧ Extends sc (fun _ => True) st.history st'.history := by
  refine ⟨hl.1, hl.2.marks, fun i _ hc => hl.2.still i ?_ hc, hl.2.opened⟩
  rintro rfl
  rw [hp] at hc
  exact absurd hc Bool.false_ne_true

/-- a computation that leads to `P` when it returns, and to `E` when a fault ends it -/
def Ran.Leads {α : Type} (r : Ran α) (P E : Stage → Prop) : Prop :=
  match r.answer with
  | .ok _ => P r.stage
  | .error _ => E r.stage

theorem Ran.Leads.andThen {α β : Type} {r : Ran α} {next : α → Stage → Ran β} {P Q E : Stage → Prop}
    (hr : r.Leads P E) (hn : ∀ a st, P st → (next a st).Leads Q E) : (r.andThen next).Leads Q E := by
  obtain ⟨answer, st⟩ := r
  cases answer with
  | ok a => exact hn a st hr
  | error f => exact hr

theorem Ran.Leads.stage {α : Type} {r : Ran α} {P : Stage → Prop} (hr : r.Leads P P) : P r.stage := by
  obtain ⟨answer, st⟩ := r
  cases answer <;> exact hr

/-! ## Coming up -/

/-- a controller is up or coming up on a surface, and has had these callbacks -/
structure Rising (sc : Scene) (h₀ : List Mark) (id : Nat) (s : Surface) (had : List Mark) (st : Stage) : Prop
    extends Alone sc h₀ id st where
  phase : phaseAt sc st.history id = .shown s
  had : deeds id st.history = had

variable {had : List Mark}

theorem Rising.cons {m : Mark} (hu : Rising sc h₀ id s had st) (hr : Recorded sc st')
    (hh : st'.history = m :: st.history) (hb : m.byCall) (ht : ∀ i, m.touches i = false)
    (ho : openAt (m :: st.history) = openAt st.history) : Rising sc h₀ id s had st' := by
  have hl : Legal sc (m :: st.history) := hh ▸ hr.legal
  have hut := hl.untouched (ht id)
  refine ⟨hu.toAlone.cons hr hh hb (fun i _ => ht i) (ho ▸ hu.beyond.opened), ?_, ?_⟩ <;> rw [hh]
  · exact hut.phase.trans hu.phase
  · exact hut.deeds.trans hu.had

theorem Rising.log (hu : Rising sc h₀ id s had st) (severity : Severity) (record : Unit → Record) :
    Rising sc h₀ id s had (st.log sc severity record) := by
  have hr := hu.toRecorded.log severity record
  rcases log_eq st sc severity record with he | ⟨r, he⟩
  · rwa [he]
  · exact hu.cons hr (m := .logged r) (by rw [he]; rfl) rfl (fun _ => rfl) rfl

theorem Sound.rising (hs : Sound sc st) (hp : st.phase id = .created) (hi : id < st.controllers.length)
    (s : Surface) : Rising sc st.history id s [] (st.setPhase id (.shown s)) := by
  have hpa : phaseAt sc st.history id = .created := by rw [← hs.phase_eq, hp]
  have hr : Recorded sc (st.setPhase id (.shown s)) := hs.toRecorded.setPhase hi (by rw [hp]; trivial)
  have ht : ∀ i, i ≠ id → (Mark.moved id (.shown s)).touches i = false := by
    intro i hi
    simpa [Mark.touches] using Ne.symm hi
  refine ⟨(hs.alone id).cons hr rfl rfl ht (List.suffix_refl _), ?_, ?_⟩
  · show phaseAt sc (_ :: st.history) id = _
    rw [phaseAt_moved, if_pos ⟨rfl, by rw [← hs.controllers]; exact hi⟩]
  · have hd := hs.rest id
    unfold AtRest at hd
    simp only [hpa] at hd
    exact hd

/-- may the controller come up on the surface? A dialog has to be its own, and not to have been on the stack before. -/
def Ready (st : Stage) (id : Nat) : Surface → Prop
  | .scripted _ => True
  | .dialog k => st.host.driver? k = some id ∧ .pushed k ∉ st.history

theorem Ready.setPhase (hr : Ready st id s) (i : Nat) (phase : Phase) : Ready (st.setPhase i phase) id s := by
  cases s with
  | scripted name => trivial
  | dialog k => exact ⟨hr.1, by simpa [Stage.setPhase, Stage.update, Stage.note] using hr.2⟩

theorem Ready.note {m : Mark} (hr : Ready st id s) (hm : m.isPlain) : Ready (st.note m) id s := by
  cases s with
  | scripted name => trivial
  | dialog k =>
    refine ⟨hr.1, ?_⟩
    intro hp
    rcases List.mem_cons.1 hp with rfl | hp
    · simp [Mark.isPlain] at hm
    · exact hr.2 hp

theorem Ready.log (hr : Ready st id s) (severity : Severity) (record : Unit → Record) :
    Ready (st.log sc severity record) id s := by
  rcases log_eq st sc severity record with he | ⟨r, he⟩ <;> rw [he]
  · exact hr
  · exact hr.note rfl

/-- the surface begins to come up -/
theorem Rising.began (hu : Rising sc h₀ id s [] st) (hready : Ready st id s) :
    Rising sc h₀ id s [.began id (.surfaceShow s)] (st.note (.began id (.surfaceShow s))) := by
  have hdue : Due sc st.history id (.began id (.surfaceShow s)) := by
    unfold Due
    rw [hu.phase]
    exact ⟨hu.had, rfl⟩
  have hr : Recorded sc (st.note (.began id (.surfaceShow s))) := by
    refine hu.toRecorded.note rfl hdue ?_
    rintro i k he
    cases he
    exact hready.1
  have ht : ∀ i, i ≠ id → (Mark.began id (.surfaceShow s)).touches i = false := by
    intro i hi
    simpa [Mark.touches, Mark.isDeedOf] using Ne.symm hi
  refine ⟨hu.toAlone.cons hr rfl rfl ht (hu.beyond.opened.trans (List.suffix_cons _ _)), hu.phase, ?_⟩
  show deeds id (_ :: st.history) = _
  rw [deeds_cons_of_isDeedOf (by simp [Mark.isDeedOf]), hu.had]
  rfl

theorem Rising.sound (hu : Rising sc h₀ id s [.began id (.surfaceShow s)] st)
    (hp : ∀ k, s = .dialog k → .pushed k ∈ st.history ∧ .detached k ∉ st.history) : Sound sc st where
  toRecorded := hu.toRecorded
  rest i := by
    by_cases hi : i = id
    · subst hi
      unfold AtRest
      simp only [hu.phase]
      exact ⟨hu.had, hp⟩
    · exact hu.others i hi

/-- the surface has come up -/
theorem landed_shown {below : List (Nat × Callback)} (hl : Landed sc h₀ id st)
    (hopen : (id, .surfaceShow s) :: below <:+ openAt st.history) (hbelow : openAt h₀ <:+ below) :
    Landed sc h₀ id (st.note (.ended id (.surfaceShow s))) := by
  have hr : Recorded sc (st.note (.ended id (.surfaceShow s))) := by
    refine hl.1.toRecorded.note rfl ⟨hopen.subset List.mem_cons_self, ?_, ?_⟩ ?_
    · intro hd
      simp [Mark.isDeedOf] at hd
    · rintro k hk
      cases hk
    · rintro i k he
      cases he
  have ht : ∀ i, (Mark.ended id (.surfaceShow s)).touches i = false := fun i => rfl
  obtain ⟨ms, he, hms⟩ := hl.2.marks
  refine ⟨⟨hr, ?_⟩, ⟨.ended id (.surfaceShow s) :: ms, congrArg _ he, ?_⟩, ?_, ?_⟩
  · intro i
    exact (hl.1.rest i).cons hr.legal rfl (ht i)
  · simpa [Mark.byCall] using hms
  · intro i hi hc
    exact (hl.2.still i hi hc).trans (hr.legal.untouched (ht i))
  · show openAt h₀ <:+ openAt (.ended id (.surfaceShow s) :: st.history)
    rwa [openAt_ended hl.1.legal.nodup_openAt hopen]

/-- what coming up on a surface runs leads to a sound stage on which that callback is still under way -/
theorem Rising.leads_surfaceShow (ha : Tame sc again) (hu : Rising sc h₀ id s [.began id (.surfaceShow s)] st)
    (hready : Ready st id s) :
    Landed sc h₀ id (surfaceShow again sc id s st).stage ∧
      openAt st.history <:+ openAt (surfaceShow again sc id s st).stage.history := by
  cases s with
  | scripted name =>
    have hs := hu.sound (by simp)
    have hf : Follows sc st (surfaceShow again sc id (.scripted name) st).stage := follows_play ha _ _ st
    exact ⟨hu.toAlone.follow hs hf, (hf hs).2.opened⟩
  | dialog k =>
    obtain ⟨hk, hnew⟩ := hready
    have hr : Recorded sc (st.push k) := by
      refine hu.toRecorded.push (Host.lt_of_driver? hk) hnew ?_
      intro i hi
      obtain rfl : i = id := Option.some.inj (hi.symm.trans hk)
      exact (mem_deeds.1 (hu.had ▸ List.mem_singleton_self _)).1
    have h2 := hu.cons hr (m := .pushed k) rfl rfl (fun _ => rfl) rfl
    have hs := h2.sound fun j hj => by
      cases hj
      refine ⟨List.mem_cons_self, ?_⟩
      intro hd
      exact hnew (hu.legal.pushed_of_detached (by simpa [Stage.push, Stage.note] using hd))
    exact ⟨⟨hs, h2.beyond⟩, List.suffix_refl _⟩

theorem follows_display (ha : Tame sc again) (s : Surface) (hi : id < st.controllers.length) (hready : Ready st id s) :
    Follows sc st (display again sc id s st).stage := by
  intro hs
  cases hp : st.phase id with
  | shown s =>
    unfold display
    simp only [hp]
    exact Follows.refl sc st hs
  | closed o =>
    unfold display
    simp only [hp]
    exact Follows.refl sc st hs
  | created =>
    have hpa : phaseAt sc st.history id = .created := by rw [← hs.phase_eq, hp]
    set st₁ := (st.setPhase id (.shown s)).debug sc id "shown" [] with hst₁
    have h1 : Rising sc st.history id s [] st₁ := (hs.rising hp hi s).log _ _
    have hready₁ : Ready st₁ id s := (hready.setPhase id (.shown s)).log _ _
    obtain ⟨h2, hopen⟩ := (h1.began hready₁).leads_surfaceShow ha (hready₁.note rfl)
    suffices hl : Landed sc st.history id (display again sc id s st).stage from hl.follows (by rw [hpa]; rfl)
    unfold display callback
    simp only [hp, ← hst₁]
    revert h2 hopen
    cases surfaceShow again sc id s (st₁.note (.began id (.surfaceShow s))) with
    | mk answer st₂ =>
      intro h2 hopen
      cases answer with
      | error f => exact h2
      | ok a => exact landed_shown h2 hopen h1.beyond.opened

/-! ## Closing -/

/-- A prompt is being closed by an outcome, and stands between two callbacks or before its last: its lifeline holds
what it has had and what is still to come. -/
structure Midway (sc : Scene) (h₀ : List Mark) (id : Nat) (s : Surface) (o : Outcome) (todo : List Mark) (st : Stage) :
    Prop extends Alone sc h₀ id st where
  closed : phaseAt sc st.history id = .closed o
  rest : deeds id st.history ++ todo = lifeline (requestAt sc st.history id) id s o (textAt sc st.history id)

/-- a mark that touches no controller -/
theorem Midway.cons {m : Mark} (hm : Midway sc h₀ id s o todo st) (hr : Recorded sc st')
    (hh : st'.history = m :: st.history) (hb : m.byCall) (ht : ∀ i, m.touches i = false)
    (ho : openAt (m :: st.history) = openAt st.history) : Midway sc h₀ id s o todo st' := by
  have hl : Legal sc (m :: st.history) := hh ▸ hr.legal
  have hu := hl.untouched (ht id)
  have hrest := hu.rest (by rw [hm.closed]; rfl)
  refine ⟨hm.toAlone.cons hr hh hb (fun i _ => ht i) (ho ▸ hm.beyond.opened), ?_, ?_⟩ <;> rw [hh]
  · exact hu.phase.trans hm.closed
  · rw [hu.deeds, hrest.1, hrest.2]
    exact hm.rest

theorem Midway.log (hm : Midway sc h₀ id s o todo st) (severity : Severity) (record : Unit → Record) :
    Midway sc h₀ id s o todo (st.log sc severity record) := by
  have hr := hm.toRecorded.log severity record
  rcases log_eq st sc severity record with he | ⟨r, he⟩
  · rwa [he]
  · exact hm.cons hr (m := .logged r) (by rw [he]; rfl) rfl (fun _ => rfl) rfl

/-- the next mark of its callbacks -/
theorem Midway.deed {m : Mark} (hm : Midway sc h₀ id s o (m :: todo) st) (hr : Recorded sc (st.note m))
    (hd : m.isDeedOf id) (hp : m.isPlain) (hb : m.byCall) (ht : ∀ i, i ≠ id → m.touches i = false)
    (ho : openAt h₀ <:+ openAt (m :: st.history)) : Midway sc h₀ id s o todo (st.note m) := by
  refine ⟨hm.toAlone.cons hr rfl hb ht ho, ?_, ?_⟩
  · show (((controllersAt sc (m :: st.history)).getD id .blank).phase) = _
    rw [controllersAt_plain hp]
    exact hm.closed
  · show deeds id (m :: st.history) ++ todo = lifeline (requestAt sc (m :: st.history) id) id s o
      (textAt sc (m :: st.history) id)
    rw [deeds_cons_of_isDeedOf hd, List.append_assoc]
    unfold requestAt textAt controllerAt
    rw [controllersAt_plain hp]
    exact hm.rest

/-- with nothing left to come, or a callback just begun, the prompt is at rest -/
theorem Midway.sound (hm : Midway sc h₀ id s o todo st)
    (hr : todo = [] ∨ ∃ cb rest, todo = .ended id cb :: rest ∧ ∀ k, cb ≠ .surfaceClose (.dialog k)) : Sound sc st where
  toRecorded := hm.toRecorded
  rest i := by
    by_cases hi : i = id
    · subst hi
      unfold AtRest
      simp only [hm.closed]
      exact ⟨s, todo, hm.rest, hr⟩
    · exact hm.others i hi

theorem Midway.due {m : Mark} (hm : Midway sc h₀ id s o (m :: todo) st) : Due sc st.history id m := by
  unfold Due
  simp only [hm.closed]
  refine ⟨s, todo, ?_⟩
  rw [← hm.rest]
  simp

/-- the next callback begins -/
theorem Midway.began {cb : Callback} (hm : Midway sc h₀ id s o (.began id cb :: todo) st)
    (hcb : ∀ s, cb ≠ .surfaceShow s) : Midway sc h₀ id s o todo (st.note (.began id cb)) := by
  have hr : Recorded sc (st.note (.began id cb)) := by
    refine hm.toRecorded.note rfl hm.due ?_
    rintro i k he
    cases he
    exact absurd rfl (hcb _)
  refine hm.deed hr (by simp [Mark.isDeedOf]) rfl rfl ?_ ?_
  · intro i hi
    simpa [Mark.touches, Mark.isDeedOf] using Ne.symm hi
  · exact hm.beyond.opened.trans (List.suffix_cons _ _)

/-- the callback under way ends -/
theorem Midway.ended {cb : Callback} {below : List (Nat × Callback)}
    (hm : Midway sc h₀ id s o (.ended id cb :: todo) st) (hcb : ∀ s, cb ≠ .surfaceShow s)
    (hopen : (id, cb) :: below <:+ openAt st.history) (hbelow : openAt h₀ <:+ below)
    (hw : ∀ k, cb = .surfaceClose (.dialog k) → Withdrawn sc st.history id k) :
    Midway sc h₀ id s o todo (st.note (.ended id cb)) := by
  have hr : Recorded sc (st.note (.ended id cb)) := by
    refine hm.toRecorded.note rfl ⟨hopen.subset List.mem_cons_self, fun _ => hm.due, hw⟩ ?_
    rintro i k he
    cases he
  refine hm.deed hr ?_ rfl rfl ?_ ?_
  · cases cb with
    | surfaceShow s => exact absurd rfl (hcb s)
    | _ => simp [Mark.isDeedOf]
  · intro i hi
    cases cb <;> simp [Mark.touches, Mark.isDeedOf, Ne.symm hi]
  · rwa [openAt_ended hm.legal.nodup_openAt hopen]

/-- a callback that runs a script: when it returns the next is to come, and a fault ends the closing -/
theorem Midway.leads_callback {cb : Callback} {body : Stage → Ran Unit}
    (hm : Midway sc h₀ id s o (.began id cb :: .ended id cb :: todo) st) (hcb : ∀ s, cb ≠ .surfaceShow s)
    (hdialog : ∀ k, cb ≠ .surfaceClose (.dialog k)) (hbody : ∀ st, Follows sc st (body st).stage) :
    (callback id cb body st).Leads (Midway sc h₀ id s o todo) (Landed sc h₀ id) := by
  have h1 := hm.began hcb
  have hs := h1.sound (Or.inr ⟨cb, todo, rfl, hdialog⟩)
  have h2 := h1.toAlone.follow hs (hbody _)
  have hext := (hbody _ hs).2
  unfold callback
  cases hr : body (st.note (.began id cb)) with
  | mk answer st₂ =>
    rw [hr] at h2 hext
    cases answer with
    | error f => exact h2
    | ok a =>
      have hu := hext.still id trivial (by rw [h1.closed]; rfl)
      have hrest := hu.rest (by rw [h1.closed]; rfl)
      have h3 : Midway sc h₀ id s o (.ended id cb :: todo) st₂ := by
        refine ⟨⟨h2.1.toRecorded, fun i _ => h2.1.rest i, h2.2⟩, hu.phase.trans h1.closed, ?_⟩
        rw [hu.deeds, hrest.1, hrest.2]
        exact h1.rest
      exact h3.ended hcb hext.opened hm.beyond.opened fun k he => absurd he (hdialog k)

/-- a dialog closes: it is popped if it is on top, and has no business with the stack otherwise -/
theorem Midway.leads_closeDialog {k : Nat}
    (hm : Midway sc h₀ id s o
      (.began id (.surfaceClose (.dialog k)) :: .ended id (.surfaceClose (.dialog k)) :: todo) st)
    (hp : .pushed k ∈ st.history) (hdet : st.host.isDetached k → o = .dismissed)
    (hmoved : ∃ h, .moved id (.closed o) :: h <:+ st.history ∧ stackAt h = st.host.stack) :
    (callback id (.surfaceClose (.dialog k)) (surfaceClose again sc id (.dialog k)) st).Leads
      (Midway sc h₀ id s o todo) (Landed sc h₀ id) := by
  have h1 := hm.began (by simp)
  set st₁ := st.note (.began id (.surfaceClose (.dialog k)))
  suffices h2 : Midway sc h₀ id s o (.ended id (.surfaceClose (.dialog k)) :: todo) (closeDialog sc id k st₁) ∧
      openAt (closeDialog sc id k st₁).history = openAt st₁.history ∧
      Withdrawn sc (closeDialog sc id k st₁).history id k by
    obtain ⟨h2, hopen, hw⟩ := h2
    have hbegan : (id, .surfaceClose (.dialog k)) :: openAt st.history <:+
        openAt (closeDialog sc id k st₁).history := by
      rw [hopen]
      exact List.suffix_refl _
    refine h2.ended (by simp) hbegan hm.beyond.opened ?_
    intro j hj
    cases hj
    exact hw
  unfold closeDialog
  split_ifs with hd htop
  · exact ⟨h1, rfl, Or.inl ⟨h1.detached k hd, hdet hd ▸ h1.closed⟩⟩
  · have hr := h1.toRecorded.pop (.closed id) htop fun i hi => by cases hi; rfl
    refine ⟨h1.cons hr (m := .left k (.closed id)) ?_ rfl (fun _ => rfl) rfl, ?_, Or.inr (Or.inl ⟨.closed id, ?_⟩)⟩
    · rw [pop_eq htop]; rfl
    · rw [pop_eq htop]; rfl
    · rw [pop_eq htop]; exact List.mem_cons_self
  · refine ⟨h1.log _ _, ?_, ?_⟩
    · exact openAt_log _ _
    · have hlogged : st₁.history <:+
          (st₁.report sc id .warning dialogLogger "closed while not the active screen").history := suffix_log _ _
      have hgrows := (List.suffix_cons _ st.history).trans hlogged
      by_cases hk : k ∈ st.host.stack
      · obtain ⟨h, hh, hstack⟩ := hmoved
        refine Or.inr (Or.inr ⟨o, h, hh.trans hgrows, ?_⟩)
        cases hst : st.host.stack with
        | nil => simp [hst] at hk
        | cons j rest =>
          have hj : k ≠ j := by
            rintro rfl
            exact htop (congrArg List.head? hst)
          rw [hstack, hst]
          rw [hst] at hk
          exact (List.mem_cons.1 hk).resolve_left hj
      · rw [hm.stack] at hk
        obtain ⟨why, hw⟩ := left_of_pushed hp hk
        exact Or.inr (Or.inl ⟨why, hgrows.subset hw⟩)

theorem Midway.leads_handler (ha : Tame sc again) {r : Request} {cb : Callback}
    (hm : Midway sc h₀ id s o (scripted r id cb ++ todo) st) (hcb : ∀ s, cb ≠ .surfaceShow s)
    (hdialog : ∀ k, cb ≠ .surfaceClose (.dialog k)) :
    (runHandler again sc id r cb st).Leads (Midway sc h₀ id s o todo) (Landed sc h₀ id) := by
  unfold scripted at hm
  unfold runHandler
  cases hscript : handlerScript r cb with
  | none =>
    rw [hscript] at hm
    exact hm
  | some script =>
    rw [hscript] at hm
    exact Midway.leads_callback hm hcb hdialog fun st => follows_play ha _ script st

/-- a prompt that is up on a surface -/
theorem Sound.up (hs : Sound sc st) (hp : st.phase id = .shown s) :
    Rising sc st.history id s [.began id (.surfaceShow s)] st ∧
      ∀ k, s = .dialog k → .pushed k ∈ st.history ∧ .detached k ∉ st.history := by
  have hpa : phaseAt sc st.history id = .shown s := by rw [← hs.phase_eq, hp]
  have hd := hs.rest id
  unfold AtRest at hd
  simp only [hpa] at hd
  exact ⟨⟨hs.alone id, hpa, hd.1⟩, hd.2⟩

/-- the first trigger on a prompt that is up finds all of its lifeline but the beginning still to come -/
theorem Rising.midway (hu : Rising sc h₀ id s [.began id (.surfaceShow s)] st) (o : Outcome) :
    Midway sc h₀ id s o
      (.began id (.surfaceClose s) :: .ended id (.surfaceClose s) ::
        (scripted (st.request sc id) id (.handler o (st.text id)) ++ scripted (st.request sc id) id .onClosed))
      (st.setPhase id (.closed o)) := by
  have hlt : id < (controllersAt sc st.history).length := lt_of_phaseAt_ne_created (by simp [hu.phase])
  have hr : Recorded sc (st.setPhase id (.closed o)) :=
    hu.toRecorded.setPhase (by rw [hu.controllers]; exact hlt) (by rw [hu.phase_eq, hu.phase]; trivial)
  have ht : ∀ i, i ≠ id → (Mark.moved id (.closed o)).touches i = false := by
    intro i hi
    simpa [Mark.touches] using Ne.symm hi
  refine ⟨hu.toAlone.cons hr rfl rfl ht hu.beyond.opened, ?_, ?_⟩
  · show phaseAt sc (_ :: st.history) id = _
    rw [phaseAt_moved, if_pos ⟨rfl, hlt⟩]
  · show deeds id (_ :: st.history) ++ _ =
      lifeline (requestAt sc (_ :: st.history) id) id s o (textAt sc (_ :: st.history) id)
    rw [deeds_cons_of_not_isDeedOf rfl, requestAt_moved, textAt_moved, hu.had, hu.request_eq, hu.text_eq]
    rfl

/-- The surface of a prompt that is up closes first, and the handlers are still to come. Only a dismissal may find that
the dialog was taken away. -/
theorem Rising.leads_surfaceClose (ha : Tame sc again) (hu : Rising sc h₀ id s [.began id (.surfaceShow s)] st)
    (hd : ∀ k, s = .dialog k → .pushed k ∈ st.history ∧ (st.host.isDetached k → o = .dismissed)) :
    (callback id (.surfaceClose s) (surfaceClose again sc id s)
      ((st.setPhase id (.closed o)).debug sc id "closed via %s" [o.name])).Leads
      (Midway sc h₀ id s o
        (scripted (st.request sc id) id (.handler o (st.text id)) ++ scripted (st.request sc id) id .onClosed))
      (Landed sc h₀ id) := by
  set st₁ := (st.setPhase id (.closed o)).debug sc id "closed via %s" [o.name] with hst₁
  have h1 : Midway sc h₀ id s o _ st₁ := (hu.midway o).log _ _
  cases s with
  | scripted name => exact h1.leads_callback (by simp) (by simp) fun st => follows_play ha _ _ st
  | dialog k =>
    obtain ⟨hpushed, hdet⟩ := hd k rfl
    have hgrows : (st.setPhase id (.closed o)).history <:+ st₁.history := suffix_log _ _
    have hhost : st₁.host = st.host := host_log _ _
    refine h1.leads_closeDialog (hgrows.subset (List.mem_cons_of_mem _ hpushed)) (by rwa [hhost])
      ⟨st.history, hgrows, ?_⟩
    rw [hhost]
    exact hu.stack.symm

/-- What a trigger does to a prompt that is up leads to its end, or to the first fault. -/
theorem Rising.leads_close (ha : Tame sc again) (hu : Rising sc h₀ id s [.began id (.surfaceShow s)] st)
    (hd : ∀ k, s = .dialog k → .pushed k ∈ st.history ∧ (st.host.isDetached k → o = .dismissed)) :
    (close again sc id o st).Leads (Landed sc h₀ id) (Landed sc h₀ id) := by
  have hp : st.phase id = .shown s := by rw [hu.phase_eq, hu.phase]
  unfold close
  simp only [hp]
  refine (hu.leads_surfaceClose ha hd).andThen fun _ st₂ h2 => ?_
  refine (h2.leads_handler ha (by simp) (by simp)).andThen fun _ st₃ h3 => ?_
  rw [← List.append_nil (scripted _ _ _)] at h3
  refine (h3.leads_handler ha (by simp) (by simp)).andThen fun _ st₄ h4 => ?_
  exact ⟨h4.sound (Or.inl rfl), h4.beyond⟩

theorem follows_close (ha : Tame sc again) (id : Nat) (o : Outcome) (st : Stage) :
    Follows sc st (close again sc id o st).stage := by
  intro hs
  cases hp : st.phase id with
  | shown s =>
    obtain ⟨hu, hd⟩ := hs.up hp
    have hl : (close again sc id o st).Leads (Landed sc st.history id) (Landed sc st.history id) :=
      hu.leads_close ha fun k hk => ⟨(hd k hk).1, fun hdet => absurd (hs.detached k hdet) (hd k hk).2⟩
    exact hl.stage.follows (by rw [← hs.phase_eq, hp]; rfl)
  | created =>
    unfold close
    simp only [hp]
    exact follows_log _ _ hs
  | closed o' =>
    unfold close
    simp only [hp]
    exact follows_log _ _ hs

theorem follows_alternate (ha : Tame sc again) (id : Nat) (st : Stage) :
    Follows sc st (alternate again sc id st).stage := by
  unfold alternate
  split_ifs
  · exact follows_close ha id .alternate st
  · show Follows sc st (st.debug sc id _ _)
    exact follows_log _ _

end LinePrompt.Prompt
