/-
Stages that their histories tell.

`Recorded` says that the history of a stage is legal and tells its controllers and its screen stack, and that dialogs
and controllers belong together. Every change of a stage keeps it, if it may happen. `Sound` adds that no callback of
a controller hangs in the air (`AtRest`): between two callbacks of a closing prompt a stage is recorded, but not sound.

`Extends` is what a call leaves alone: the history grows, a closed controller keeps what callbacks it has had, and
what was under way still is.
-/
import LinePrompt.Proofs.Prompt.Legal
import LinePrompt.Proofs.Screen.Host

namespace LinePrompt.Prompt

open LinePrompt.Log LinePrompt.Screen

variable {sc : Scene} {h h' : List Mark} {id : Nat} {st : Stage}

/-! ## Records -/

/-- making a record changes nothing that a history is read for -/
theorem log_eq (st : Stage) (sc : Scene) (severity : Severity) (record : Unit → Record) :
    st.log sc severity record = st ∨ ∃ r, st.log sc severity record = st.note (.logged r) := by
  unfold Stage.log
  split
  · exact Or.inr ⟨_, rfl⟩
  · exact Or.inl rfl

theorem openAt_log (severity : Severity) (record : Unit → Record) :
    openAt (st.log sc severity record).history = openAt st.history := by
  rcases log_eq st sc severity record with he | ⟨r, he⟩
  · rw [he]
  · rw [he]
    rfl

theorem suffix_log (severity : Severity) (record : Unit → Record) :
    st.history <:+ (st.log sc severity record).history := by
  rcases log_eq st sc severity record with he | ⟨r, he⟩
  · rw [he]
  · rw [he]
    exact List.suffix_cons _ _

theorem host_log (severity : Severity) (record : Unit → Record) : (st.log sc severity record).host = st.host := by
  rcases log_eq st sc severity record with he | ⟨r, he⟩ <;> rw [he]
  rfl

/-- marks that change neither controllers nor the stack -/
def Mark.isPlain : Mark → Bool
  | .made _ _ => false
  | .moved _ _ => false
  | .texted _ _ => false
  | .pushed _ => false
  | .left _ _ => false
  | _ => true

theorem controllersAt_plain {m : Mark} (hm : m.isPlain) : controllersAt sc (m :: h) = controllersAt sc h := by
  cases m <;> first | rfl | simp [Mark.isPlain] at hm

theorem stackAt_plain {m : Mark} (hm : m.isPlain) : stackAt (m :: h) = stackAt h := by
  cases m <;> first | rfl | simp [Mark.isPlain] at hm

/-! ## Recorded stages -/

/-- the history is legal and tells the stage -/
structure Recorded (sc : Scene) (st : Stage) : Prop where
  legal : Legal sc st.history
  controllers : st.controllers = controllersAt sc st.history
  stack : st.host.stack = stackAt st.history
  current_lt : ∀ p ∈ st.current, p.2 < st.controllers.length
  pushed_lt : ∀ k, .pushed k ∈ st.history → k < st.host.screens.length
  /-- a prompt that came up as a dialog drives it -/
  driver : ∀ i k, .began i (.surfaceShow (.dialog k)) ∈ st.history → st.host.driver? k = some i
  /-- a dialog on the stack is what its prompt came up on -/
  shown : ∀ i k, st.host.driver? k = some i → .pushed k ∈ st.history →
    .began i (.surfaceShow (.dialog k)) ∈ st.history
  detached : ∀ k, st.host.isDetached k → .detached k ∈ st.history
  removed : ∀ k, .unmount k ∈ st.host.queue → ∃ why, .left k why ∈ st.history

theorem Recorded.phase_eq (hr : Recorded sc st) (id : Nat) : st.phase id = phaseAt sc st.history id := by
  rw [Stage.phase, Stage.controller, hr.controllers, phaseAt, controllerAt]

theorem Recorded.text_eq (hr : Recorded sc st) (id : Nat) : st.text id = textAt sc st.history id := by
  rw [Stage.text, Stage.controller, hr.controllers, textAt, controllerAt]

theorem Recorded.request_eq (hr : Recorded sc st) (id : Nat) : st.request sc id = requestAt sc st.history id := by
  rw [Stage.request, Stage.controller, hr.controllers, requestAt, controllerAt]

theorem recorded_empty : Recorded sc .empty where
  legal := trivial
  controllers := rfl
  stack := rfl
  current_lt := by simp [Stage.empty]
  pushed_lt := by simp [Stage.empty]
  driver := by simp [Stage.empty]
  shown := by simp [Stage.empty]
  detached := by simp [Stage.empty, Host.empty, Host.isDetached, Host.modal?]
  removed := by simp [Stage.empty, Host.empty]

/-- a change that leaves the host alone, told by a mark that may be made -/
theorem Recorded.mark {m : Mark} {st' : Stage} (hr : Recorded sc st) (hh : st'.history = m :: st.history)
    (hhost : st'.host = st.host) (may : May sc st.history m)
    (hcon : st'.controllers = controllersAt sc (m :: st.history))
    (hstack : stackAt (m :: st.history) = stackAt st.history)
    (hcur : ∀ p ∈ st'.current, p.2 < st'.controllers.length) (hp : ∀ k, m ≠ .pushed k)
    (hd : ∀ i k, m = .began i (.surfaceShow (.dialog k)) → st.host.driver? k = some i) : Recorded sc st' where
  legal := by
    rw [hh]
    exact ⟨may, hr.legal⟩
  controllers := by rw [hh, hcon]
  stack := by rw [hh, hhost, hstack, hr.stack]
  current_lt := hcur
  pushed_lt := by
    rw [hh, hhost]
    intro k hk
    rcases List.mem_cons.1 hk with he | hk
    · exact absurd he.symm (hp k)
    · exact hr.pushed_lt k hk
  driver := by
    rw [hh, hhost]
    intro i k hb
    rcases List.mem_cons.1 hb with he | hb
    · exact hd i k he.symm
    · exact hr.driver i k hb
  shown := by
    rw [hh, hhost]
    intro i k hk hq
    rcases List.mem_cons.1 hq with he | hq
    · exact absurd he.symm (hp k)
    · exact List.mem_cons_of_mem _ (hr.shown i k hk hq)
  detached := by
    rw [hh, hhost]
    intro k hk
    exact List.mem_cons_of_mem _ (hr.detached k hk)
  removed := by
    rw [hh, hhost]
    intro k hk
    obtain ⟨why, hw⟩ := hr.removed k hk
    exact ⟨why, List.mem_cons_of_mem _ hw⟩

/-- a plain mark that may be made -/
theorem Recorded.note {m : Mark} (hr : Recorded sc st) (hm : m.isPlain) (may : May sc st.history m)
    (hd : ∀ i k, m = .began i (.surfaceShow (.dialog k)) → st.host.driver? k = some i) :
    Recorded sc (st.note m) := by
  refine hr.mark rfl rfl may (hr.controllers.trans (controllersAt_plain hm).symm) (stackAt_plain hm) hr.current_lt ?_ hd
  rintro k rfl
  simp [Mark.isPlain] at hm

theorem Recorded.log (hr : Recorded sc st) (severity : Severity) (record : Unit → Record) :
    Recorded sc (st.log sc severity record) := by
  rcases log_eq st sc severity record with he | ⟨r, he⟩
  · rwa [he]
  · rw [he]
    exact hr.note rfl trivial (by simp)

theorem Recorded.create (hr : Recorded sc st) (name : String) : Recorded sc (st.create sc name) := by
  refine hr.mark rfl rfl (congrArg List.length hr.controllers) ?_ rfl ?_ (by simp) (by simp)
  · simp only [Stage.create, Stage.note, controllersAt, hr.controllers]
  · intro p hp
    simp only [Stage.create, Stage.note, List.length_append, List.length_singleton, List.mem_cons] at hp ⊢
    rcases hp with rfl | hp
    · exact Nat.lt_succ_self _
    · exact Nat.lt_succ_of_lt (hr.current_lt p (List.mem_of_mem_filter hp))

theorem Recorded.setPhase {phase : Phase} (hr : Recorded sc st) (hi : id < st.controllers.length)
    (hn : (st.phase id).Next phase) : Recorded sc (st.setPhase id phase) := by
  have hlt : id < (controllersAt sc st.history).length := by rw [← hr.controllers]; exact hi
  have hnext : (phaseAt sc st.history id).Next phase := by rw [← hr.phase_eq]; exact hn
  refine hr.mark rfl rfl ⟨hlt, hnext⟩ ?_ rfl ?_ (by simp) (by simp)
  · simp only [Stage.setPhase, Stage.update, Stage.note, controllersAt, hr.controllers]
  · intro p hp
    simp only [Stage.setPhase, Stage.update, Stage.note, List.length_modify]
    exact hr.current_lt p hp

/-- what setting a text leaves as it is, open or closed -/
theorem setText_frame (st : Stage) (id : Nat) (text : String) :
    (st.setText id text).history = .texted id text :: st.history ∧ (st.setText id text).host = st.host ∧
      (st.setText id text).current = st.current ∧
      (st.setText id text).controllers.length = st.controllers.length := by
  unfold Stage.setText
  split <;> simp [Stage.note, Stage.update]

theorem Recorded.setText (hr : Recorded sc st) (id : Nat) (text : String) : Recorded sc (st.setText id text) := by
  obtain ⟨hh, hhost, hcur, hlen⟩ := setText_frame st id text
  refine hr.mark hh hhost trivial ?_ rfl (by rw [hcur, hlen]; exact hr.current_lt) (by simp) (by simp)
  simp only [Stage.setText, controllersAt, ← hr.controllers]
  split <;> rename_i hc
  · rw [if_pos (by exact hc)]
    rfl
  · rw [if_neg (by exact hc)]
    rfl

/-! ## Screens -/

/-- a change of the host that moves no screen and gives no dialog to another controller -/
theorem Recorded.withHost {host : Host} (hr : Recorded sc st) (hstack : host.stack = st.host.stack)
    (hlen : st.host.screens.length ≤ host.screens.length)
    (hdriver : ∀ k, k < st.host.screens.length → host.driver? k = st.host.driver? k)
    (hdetached : ∀ k, host.isDetached k → st.host.isDetached k)
    (hqueue : ∀ k, .unmount k ∈ host.queue → .unmount k ∈ st.host.queue) :
    Recorded sc { st with host } where
  legal := hr.legal
  controllers := hr.controllers
  stack := hstack.trans hr.stack
  current_lt := hr.current_lt
  pushed_lt k hk := Nat.lt_of_lt_of_le (hr.pushed_lt k hk) hlen
  driver i k hb := by
    have hk := hr.driver i k hb
    exact (hdriver k (Host.lt_of_driver? hk)).trans hk
  shown i k hk hp := hr.shown i k ((hdriver k (hr.pushed_lt k hp)).symm.trans hk) hp
  detached k hk := hr.detached k (hdetached k hk)
  removed k hk := hr.removed k (hqueue k hk)

theorem Recorded.push {k : Nat} (hr : Recorded sc st) (hk : k < st.host.screens.length)
    (hnew : Mark.pushed k ∉ st.history)
    (hd : ∀ i, st.host.driver? k = some i → .began i (.surfaceShow (.dialog k)) ∈ st.history) :
    Recorded sc (st.push k) where
  legal := ⟨hnew, hr.legal⟩
  controllers := hr.controllers
  stack := by simp only [Stage.push, Stage.note, Host.stack_push, stackAt, hr.stack]
  current_lt := hr.current_lt
  pushed_lt j hj := by
    rcases List.mem_cons.1 hj with he | hj
    · cases he; exact hk
    · exact hr.pushed_lt j hj
  driver i j hb := hr.driver i j (by simpa [Stage.push, Stage.note] using hb)
  shown i j hj hp := by
    rcases List.mem_cons.1 hp with he | hp
    · cases he; exact List.mem_cons_of_mem _ (hd i hj)
    · exact List.mem_cons_of_mem _ (hr.shown i j hj hp)
  detached j hj := List.mem_cons_of_mem _ (hr.detached j hj)
  removed j hj := by
    have hq : .unmount j ∈ st.host.queue := by simpa [Stage.push, Stage.note, Host.push, Host.post] using hj
    exact (hr.removed j hq).imp fun _ hw => List.mem_cons_of_mem _ hw

theorem pop_eq {k : Nat} (hk : st.host.top? = some k) (why : Departure) :
    st.pop why = { st with host := st.host.pop }.note (.left k why) := by
  rw [Stage.pop, hk]

theorem Recorded.pop {k : Nat} (hr : Recorded sc st) (why : Departure) (hk : st.host.top? = some k)
    (hown : ∀ i, why = .closed i → st.history.head? = some (.began i (.surfaceClose (.dialog k)))) :
    Recorded sc (st.pop why) := by
  have htop : (stackAt st.history).head? = some k := by rw [← hr.stack]; exact hk
  rw [pop_eq hk]
  exact {
    legal := ⟨⟨htop, hown⟩, hr.legal⟩
    controllers := hr.controllers
    stack := by
      obtain ⟨rest, hs⟩ := List.head?_eq_some_iff.1 htop
      simp only [Stage.note, Host.stack_pop, stackAt, hr.stack, hs, List.tail_cons, List.erase_cons_head]
    current_lt := hr.current_lt
    pushed_lt := by
      intro j hj
      simpa [Stage.note] using hr.pushed_lt j (by simpa [Stage.note] using hj)
    driver := by
      intro i j hb
      simpa [Stage.note] using hr.driver i j (by simpa [Stage.note] using hb)
    shown := fun i j hj hp => List.mem_cons_of_mem _
      (hr.shown i j (by simpa [Stage.note] using hj) (by simpa [Stage.note] using hp))
    detached := fun j hj => List.mem_cons_of_mem _ (hr.detached j (by simpa [Stage.note] using hj))
    removed := by
      intro j hj
      simp only [Stage.note, Host.queue_pop hk, List.mem_append, List.mem_singleton] at hj
      rcases hj with hj | he
      · exact (hr.removed j hj).imp fun _ hw => List.mem_cons_of_mem _ hw
      · cases he; exact ⟨why, List.mem_cons_self⟩ }

/-! ## Sound stages -/

/-- marks that a call makes; the others are the host's -/
def Mark.byCall : Mark → Bool
  | .left _ .popped => false
  | .left _ .ended => false
  | .detached _ => false
  | _ => true

theorem Mark.ne_detached {m : Mark} (hm : m.byCall) (k : Nat) : m ≠ .detached k := by
  rintro rfl
  simp [Mark.byCall] at hm

/-- no callback of the controller hangs in the air: it has had those of its phase, up to all of them, or up to the
beginning of one that is under way or was ended by a fault. A dialog taken away has closed its prompt, and what a dialog
does when it closes is never cut short. -/
def AtRest (sc : Scene) (h : List Mark) (id : Nat) : Prop :=
  match phaseAt sc h id with
  | .created => deeds id h = []
  | .shown s => deeds id h = [.began id (.surfaceShow s)] ∧ ∀ k, s = .dialog k → .pushed k ∈ h ∧ .detached k ∉ h
  | .closed o => ∃ s todo, deeds id h ++ todo = lifeline (requestAt sc h id) id s o (textAt sc h id) ∧
      (todo = [] ∨ ∃ cb rest, todo = .ended id cb :: rest ∧ ∀ k, cb ≠ .surfaceClose (.dialog k))

theorem AtRest.untouched {m : Mark} (ha : AtRest sc h id) (hu : Untouched sc h (m :: h) id)
    (hm : ∀ k, phaseAt sc h id = .shown (.dialog k) → m ≠ .detached k) : AtRest sc (m :: h) id := by
  unfold AtRest at ha ⊢
  rw [hu.phase, hu.deeds]
  cases hp : phaseAt sc h id with
  | created => simpa only [hp] using ha
  | shown s =>
    simp only [hp] at ha
    refine ⟨ha.1, ?_⟩
    rintro k rfl
    obtain ⟨hpushed, hd⟩ := ha.2 k rfl
    refine ⟨List.mem_cons_of_mem _ hpushed, ?_⟩
    intro hin
    rcases List.mem_cons.1 hin with he | hin
    · exact hm k hp he.symm
    · exact hd hin
  | closed o =>
    obtain ⟨hr, ht⟩ := hu.rest (by simp [hp, Phase.isClosed])
    rw [hr, ht]
    simpa only [hp] using ha

/-- a mark of a call that does not touch the controller -/
theorem AtRest.cons {m : Mark} (ha : AtRest sc h id) (hl : Legal sc (m :: h)) (hb : m.byCall)
    (ht : m.touches id = false) : AtRest sc (m :: h) id :=
  ha.untouched (hl.untouched ht) fun k _ => Mark.ne_detached hb k

structure Sound (sc : Scene) (st : Stage) : Prop extends Recorded sc st where
  rest : ∀ i, AtRest sc st.history i

theorem sound_empty : Sound sc .empty where
  toRecorded := recorded_empty
  rest i := by
    simp [AtRest, Stage.empty, phaseAt, controllerAt, controllersAt, Controller.blank, deeds]

/-- what stays from one moment to a later one: the history, what has happened to closed controllers (among those in
`P`), and what is under way -/
structure Extends (sc : Scene) (P : Nat → Prop) (h h' : List Mark) : Prop where
  marks : ∃ ms, h' = ms ++ h ∧ ∀ m ∈ ms, m.byCall
  still : ∀ i, P i → (phaseAt sc h i).isClosed → Untouched sc h h' i
  opened : openAt h <:+ openAt h'

variable {P : Nat → Prop} {h₁ h₂ h₃ : List Mark}

theorem Extends.refl (sc : Scene) (P : Nat → Prop) (h : List Mark) : Extends sc P h h where
  marks := ⟨[], rfl, by simp⟩
  still i _ _ := .refl sc h i
  opened := List.suffix_refl _

theorem Extends.suffix (he : Extends sc P h h') : h <:+ h' := by
  obtain ⟨ms, hm, -⟩ := he.marks
  exact ⟨ms, hm.symm⟩

theorem Extends.trans (h12 : Extends sc P h₁ h₂) (h23 : Extends sc P h₂ h₃) : Extends sc P h₁ h₃ where
  marks := by
    obtain ⟨ms, rfl, hm⟩ := h12.marks
    obtain ⟨ns, rfl, hn⟩ := h23.marks
    refine ⟨ns ++ ms, (List.append_assoc ns ms h₁).symm, ?_⟩
    intro m hin
    rcases List.mem_append.1 hin with hin | hin
    · exact hn m hin
    · exact hm m hin
  still i hi hc :=
    have hu := h12.still i hi hc
    hu.trans (h23.still i hi (by rwa [hu.phase]))
  opened := h12.opened.trans h23.opened

theorem Extends.mono {Q : Nat → Prop} (he : Extends sc P h h') (hq : ∀ i, Q i → P i) : Extends sc Q h h' :=
  ⟨he.marks, fun i hi => he.still i (hq i hi), he.opened⟩

/-- a mark of a call that touches none of the closed controllers in `P` -/
theorem Extends.cons {m : Mark} (hl : Legal sc (m :: h)) (hm : m.byCall)
    (ht : ∀ i, P i → (phaseAt sc h i).isClosed → m.touches i = false) (ho : openAt h <:+ openAt (m :: h)) :
    Extends sc P h (m :: h) where
  marks := ⟨[m], rfl, by simpa using hm⟩
  still i hi hc := hl.untouched (ht i hi hc)
  opened := ho

end LinePrompt.Prompt
