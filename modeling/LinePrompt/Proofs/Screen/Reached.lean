/-
What an application goes through, one input and one message at a time.

`Reached` is the application as a machine: a stage, and those messages of the round under way that are still to be
handled. It takes inputs between two rounds, begins a round on whatever waits, and handles one message after another. A
session takes some of these steps; what every step keeps therefore holds all through every session.

- `Reached.live`: the machine runs as a live application does.
- `reached_settle`: settling leads to a stage that the machine reaches, and on which nothing waits.
-/
import LinePrompt.Proofs.Prompt.Sends
import LinePrompt.Proofs.Screen.Departures

namespace LinePrompt.Prompt

/-- a computation that returns has done its first part, and went on from there -/
theorem Ran.andThen_returned {α β : Type} {r : Ran α} {next : α → Stage → Ran β} {b : β}
    (hok : (r.andThen next).answer = .ok b) : ∃ a, r.answer = .ok a ∧ r.andThen next = next a r.stage := by
  unfold Ran.andThen at hok ⊢
  split at hok
  · rename_i a ha
    exact ⟨a, ha, rfl⟩
  · cases hok

theorem Phase.isClosed_iff {p : Phase} : p.isClosed ↔ ∃ o, p = .closed o := by
  cases p <;> simp [Phase.isClosed]

theorem Phase.isOpen_iff {p : Phase} : p.isOpen ↔ ∃ s, p = .shown s := by
  cases p <;> simp [Phase.isOpen]

/-- a prompt that is closed stays so -/
theorem Recorded.closed_later {sc : Scene} {st st' : Stage} {i : Nat} (hr : Recorded sc st) (hr' : Recorded sc st')
    (hs : st.history <:+ st'.history) (hc : (st.phase i).isClosed) : (st'.phase i).isClosed := by
  obtain ⟨o, ho⟩ := Phase.isClosed_iff.1 hc
  rw [hr.phase_eq] at ho
  rw [hr'.phase_eq, hr'.legal.phaseAt_closed hs ho]
  rfl

end LinePrompt.Prompt

namespace LinePrompt.Screen

open LinePrompt.Log LinePrompt.Prompt

variable {sc : Scene} {can : Input → Prop} {st st' : Stage} {m x : Message} {ms rest : List Message}
  {i k : Nat} {sets : Prop}

/-! ## Prompts that have come up -/

/-- a prompt that has had a callback has come up -/
theorem phase_ne_created {cb : Callback} (hs : Sound sc st) (hb : .began i cb ∈ st.history) :
    st.phase i ≠ .created := by
  intro hp
  have hd := mem_deeds_of_began hb
  have ha := hs.rest i
  unfold AtRest at ha
  rw [← hs.phase_eq, hp] at ha
  simp only at ha
  rw [ha] at hd
  cases hd

/-- a prompt whose dialog was on the stack is open or closed -/
theorem open_or_closed (hs : Sound sc st) (hp : .pushed k ∈ st.history) (hd : st.host.driver? k = some i) :
    (st.phase i).isOpen ∨ (st.phase i).isClosed := by
  cases hphase : st.phase i with
  | created => exact absurd hphase (phase_ne_created hs (hs.shown i k hd hp))
  | shown s => exact Or.inl rfl
  | closed o => exact Or.inr rfl

/-- a prompt that is open now was open before, if its dialog was on the stack then -/
theorem open_before (hs : Sound sc st) (hr : Recorded sc st') (hsuf : st.history <:+ st'.history)
    (hp : .pushed k ∈ st.history) (hd : st.host.driver? k = some i) (hopen : (st'.phase i).isOpen) :
    (st.phase i).isOpen := by
  rcases open_or_closed hs hp hd with ho | hc
  · exact ho
  · obtain ⟨o, ho⟩ := Phase.isClosed_iff.1 (hs.toRecorded.closed_later hr hsuf hc)
    rw [ho] at hopen
    cases hopen

/-! ## What messages send -/

theorem sending_run (sc : Scene) : Sending (run sc) := sending_exec sc depthLimit

theorem sends_trigger (id : Nat) (outcome : Outcome) (st : Stage) :
    Sends sets st (trigger sc id outcome st).stage := by
  rw [stage_trigger]
  exact sends_close (sending_run sc) id outcome st

theorem sends_pressControl (id : Nat) (w : Widget) (st : Stage) :
    Sends sets st (pressControl sc id w st).stage := by
  cases w with
  | primary => exact sends_trigger id .primary st
  | alternate => exact (sends_alternate (sending_run sc) id st).andThen fun _ st => .refl _ st
  | cancel => exact sends_trigger id .cancel st
  | input => exact .refl _ st

theorem sends_unmountDialog (k : Nat) (modal : Modal) (st : Stage) :
    Sends sets st (unmountDialog sc k modal st).stage := by
  unfold unmountDialog
  dsimp only
  split_ifs
  · exact ((sends_detach k).trans (sends_log _ _)).trans (sends_trigger _ .dismissed _)
  · exact .refl _ st

/-- all messages send, but for the one that makes a dialog appear -/
theorem sends_handle (hm : ∀ k, m ≠ .mount k) (st : Stage) : Sends True st (handle sc m st).stage := by
  unfold handle
  cases m with
  | mount k => exact absurd rfl (hm k)
  | changed k value =>
    dsimp only
    split
    · exact sends_setText trivial _ value
    · exact .refl _ st
  | submitted k value =>
    dsimp only
    split
    · exact (sends_setText trivial _ value).trans (sends_trigger _ .primary _)
    · exact .refl _ st
  | pressed k w =>
    dsimp only
    split
    · split_ifs
      · exact (sends_setText trivial _ _).trans (sends_pressControl _ w _)
      · exact .refl _ st
    · exact .refl _ st
  | unmount k =>
    dsimp only
    split
    · exact sends_unmountDialog k _ st
    · exact .refl _ st

/-- a dialog with its widgets: the field holds the prompt's text, the caret stands where the request wants it -/
def appear (sc : Scene) (modal : Modal) (st : Stage) (m : Modal) : Modal :=
  { m with
    mounted := true
    field := .ofText (st.text modal.controller) (st.request sc modal.controller).caretStart }

/-- what can come of the message by which a screen appears -/
inductive Mounts (sc : Scene) (k : Nat) (st : Stage) : Ran Unit → Prop where
  | notice (plain : st.host.modal? k = none) : Mounts sc k st ⟨.ok (), st⟩
  | late {modal : Modal} (dialog : st.host.modal? k = some modal) (off : k ∉ st.host.stack) :
    Mounts sc k st ⟨.error .noField, st⟩
  | unshowable {modal : Modal} {flaw : Markup.Flaw} (dialog : st.host.modal? k = some modal) (on : k ∈ st.host.stack)
    (flawed : labels sc (st.request sc modal.controller) = .error flaw) :
    Mounts sc k st ⟨.error (.unshowable flaw.message), st⟩
  | mounted {modal : Modal} {l : Labels} (dialog : st.host.modal? k = some modal) (on : k ∈ st.host.stack)
    (shown : labels sc (st.request sc modal.controller) = .ok l) :
    Mounts sc k st ⟨.ok (), updateDialog st k (appear sc modal st)⟩

theorem mounts_handle (sc : Scene) (k : Nat) (st : Stage) : Mounts sc k st (handle sc (.mount k) st) := by
  unfold handle
  dsimp only
  split
  · rename_i modal hmodal
    unfold mountDialog
    dsimp only
    split_ifs with hon
    · split
      · rename_i flaw hflaw
        exact .unshowable hmodal hon hflaw
      · rename_i l hl
        exact .mounted hmodal hon hl
    · exact .late hmodal hon
  · rename_i hplain
    exact .notice hplain

/-- a dialog that appears is the only thing that changes -/
theorem handle_mount (sc : Scene) (k : Nat) (st : Stage) :
    (handle sc (.mount k) st).stage = st ∨ ∃ modal, st.host.modal? k = some modal ∧
      (handle sc (.mount k) st).stage = updateDialog st k (appear sc modal st) := by
  have hmounts := mounts_handle sc k st
  revert hmounts
  generalize handle sc (.mount k) st = r
  rintro (_ | _ | _ | ⟨hmodal, -, -⟩)
  · exact Or.inl rfl
  · exact Or.inl rfl
  · exact Or.inl rfl
  · exact Or.inr ⟨_, hmodal, rfl⟩

/-- a dialog whose message to appear did not fail is mounted, and was on the stack -/
theorem mount_returned {m : Modal} (hm : st.host.modal? k = some m)
    (hok : (handle sc (.mount k) st).answer = .ok ()) :
    k ∈ st.host.stack ∧ (handle sc (.mount k) st).stage = updateDialog st k (appear sc m st) := by
  have hmounts := mounts_handle sc k st
  revert hok hmounts
  generalize handle sc (.mount k) st = r
  rintro hok hmounts
  cases hmounts with
  | notice hplain => simp [hm] at hplain
  | late => cases hok
  | unshowable => cases hok
  | mounted hmodal hon _ =>
    obtain rfl := Option.some.inj (hm.symm.trans hmodal)
    exact ⟨hon, rfl⟩

/-- what is posted while a message is handled comes with the marks that are made -/
theorem posted_handle (sc : Scene) (m : Message) (st : Stage) : ∃ ms,
    (handle sc m st).stage.history = ms ++ st.history ∧
      (handle sc m st).stage.host.queue = st.host.queue ++ mail ms := by
  by_cases hm : ∃ k, m = .mount k
  · obtain ⟨k, rfl⟩ := hm
    rcases handle_mount sc k st with he | ⟨modal, -, he⟩
    · exact ⟨[], by rw [he]; rfl, by rw [he]; simp [mail]⟩
    · exact ⟨[], by rw [he]; rfl, by rw [he]; simp [mail, updateDialog]⟩
  · obtain ⟨ms, hh, hq, -⟩ := (sends_handle (fun k he => hm ⟨k, he⟩) st).posted
    exact ⟨ms, hh, hq⟩

theorem suffix_handle (sc : Scene) (m : Message) (st : Stage) : st.history <:+ (handle sc m st).stage.history := by
  obtain ⟨ms, hh, -⟩ := posted_handle sc m st
  exact ⟨ms, hh.symm⟩

/-- a dialog stays with its prompt -/
theorem driver?_handle (m : Message) (hk : k < st.host.screens.length) :
    (handle sc m st).stage.host.driver? k = st.host.driver? k := by
  by_cases hm : ∃ k, m = .mount k
  · obtain ⟨j, rfl⟩ := hm
    rcases handle_mount sc j st with he | ⟨modal, -, he⟩
    · rw [he]
    · rw [he]
      exact Host.driver?_updateModal j k fun _ => rfl
  · exact Host.driver?_of_content? ((sends_handle (fun k he => hm ⟨k, he⟩) st).old k hk)

/-! ## The machine -/

/-- a round begins: what waits is taken out of the queue -/
def emptied (st : Stage) : Stage := { st with host := { st.host with queue := [] } }

theorem stage_accept_key (k : Key) (st : Stage) : (accept sc (.key k) st).stage = (press sc k st).stage := by
  unfold accept Ran.andThen
  dsimp only
  split <;> rfl

theorem stage_accept_call (c : Call) (st : Stage) : (accept sc (.call c) st).stage = (run sc c st).stage := by
  unfold accept
  dsimp only
  split <;> rename_i hrun <;> rw [hrun]

/-- the application with the messages that are still to be handled in this round; it takes the inputs in `can` -/
inductive Reached (sc : Scene) (can : Input → Prop) : List Message → Stage → Prop
  | start : Reached sc can [] .empty
  | input {i : Input} {st : Stage} : Reached sc can [] st → can i → Reached sc can [] (accept sc i st).stage
  | round {st : Stage} : Reached sc can [] st → Reached sc can st.host.queue (emptied st)
  | handle {m : Message} {rest : List Message} {st : Stage} : Reached sc can (m :: rest) st →
      (handle sc m st).answer = .ok () → Reached sc can rest (handle sc m st).stage

/-- the application is live, and a screen that is to be told that it has gone has left -/
structure Live (sc : Scene) (ms : List Message) (st : Stage) : Prop extends Running sc st where
  told : ∀ k, .unmount k ∈ ms → ∃ why, .left k why ∈ st.history

theorem live_start : Live sc [] .empty := ⟨running_empty, by simp⟩

theorem running_emptied (hr : Running sc st) : Running sc (emptied st) := by
  have ha : Adds sc (fun _ => False) st (emptied st) :=
    adds_host _ rfl rfl (fun _ => rfl) (fun _ => rfl) (by simp)
  exact (passes_of_adds_nothing ha hr).1

theorem Live.after_input (hl : Live sc [] st) (i : Input) : Live sc [] (accept sc i st).stage :=
  ⟨(passes_accept i st hl.toRunning).1, by simp⟩

theorem Live.after_round (hl : Live sc [] st) : Live sc st.host.queue (emptied st) :=
  ⟨running_emptied hl.toRunning, hl.removed⟩

/-- handling a message keeps the application live, also if it ends by a fault -/
theorem Live.after_handle (hl : Live sc (m :: rest) st) : Live sc rest (handle sc m st).stage := by
  have hleft : ∀ k, m = .unmount k → ∃ why, .left k why ∈ st.history := by
    rintro k rfl
    exact hl.told k List.mem_cons_self
  have hgone : ∀ k, m = .unmount k → .pushed k ∈ st.history := by
    intro k hk
    obtain ⟨why, hw⟩ := hleft k hk
    exact (hl.legal.not_mem_stackAt hw).1
  have hr : Running sc (handle sc m st).stage := by
    apply (hl.toRunning.adds (adds_handle m hgone) _ (fun k => not_byRemoval_left rfl)
      fun k => not_byRemoval_left rfl).1
    rintro k (hk | ⟨j, hj, he⟩)
    · simp [Mark.byCall] at hk
    · cases he
      exact hleft k hj
  refine ⟨hr, ?_⟩
  intro k hk
  obtain ⟨why, hw⟩ := hl.told k (List.mem_cons_of_mem _ hk)
  exact ⟨why, (suffix_handle sc m st).subset hw⟩

theorem Reached.live (hr : Reached sc can ms st) : Live sc ms st := by
  induction hr with
  | start => exact live_start
  | input _ _ ih => exact ih.after_input _
  | round _ ih => exact ih.after_round
  | handle _ _ ih => exact ih.after_handle

/-! ## Messages that post nothing -/

/-- handling this message posts nothing: a screen appears, or one has gone whose prompt is closed -/
def Silent (st : Stage) : Message → Prop
  | .mount _ => True
  | .unmount k => ∀ i, st.host.driver? k = some i → (st.phase i).isClosed
  | _ => False

theorem handle_silent (hm : Silent st m) : (handle sc m st).stage.host.queue = st.host.queue := by
  cases m with
  | mount k =>
    rcases handle_mount sc k st with he | ⟨modal, -, he⟩
    · rw [he]
    · rw [he]
      exact Host.queue_updateModal _ _ _
  | unmount k =>
    unfold handle
    dsimp only
    split
    · rename_i modal hmodal
      obtain ⟨o, ho⟩ := Phase.isClosed_iff.1 (hm _ (Host.driver?_of_modal? hmodal))
      simp [unmountDialog, ho, Phase.isOpen]
    · rfl
  | _ => exact hm.elim

/-- whatever is posted while a message is handled will post nothing -/
theorem Live.silent_posted (hl : Live sc (m :: rest) st) :
    ∀ x ∈ (handle sc m st).stage.host.queue, x ∈ st.host.queue ∨ Silent (handle sc m st).stage x := by
  intro x hx
  have hr := hl.after_handle.toRunning.toRecorded
  obtain ⟨ms, hh, hq⟩ := posted_handle sc m st
  rw [hq] at hx
  rcases List.mem_append.1 hx with hx | hx
  · exact Or.inl hx
  right
  obtain ⟨k, rfl | rfl⟩ := mem_mail hx
  · trivial
  obtain ⟨why, hw⟩ := unmount_mem_mail.1 hx
  -- a message takes a screen away only by closing its prompt
  have hby : ∃ i, why = .closed i := by
    have hgone : ∀ k, m = .unmount k → .pushed k ∈ st.history := by
      rintro k rfl
      obtain ⟨why, hw⟩ := hl.told k List.mem_cons_self
      exact (hl.legal.not_mem_stackAt hw).1
    obtain ⟨-, ns, hns, hok⟩ := adds_handle m hgone hl.toSound
    obtain rfl : ns = ms := List.append_cancel_right (hns.symm.trans hh)
    cases why with
    | closed i => exact ⟨i, rfl⟩
    | popped => exact absurd (hok _ hw) (not_byRemoval_left rfl)
    | ended => exact absurd (hok _ hw) (not_byRemoval_left rfl)
  obtain ⟨i, rfl⟩ := hby
  obtain ⟨h, hs⟩ : ∃ h, .left k (.closed i) :: h <:+ (handle sc m st).stage.history :=
    exists_moment (hh ▸ List.mem_append_left _ hw)
  obtain ⟨hdriver, hclosed, -⟩ := left_by_close hr hs
  intro j hj
  obtain rfl : i = j := Option.some.inj (hdriver.symm.trans hj)
  obtain ⟨o, ho⟩ := Phase.isClosed_iff.1 hclosed
  rw [hr.phase_eq, hr.legal.phaseAt_closed ((List.suffix_cons _ _).trans hs) ho]
  rfl

/-- what waits after a message that came when nothing waited -/
theorem Live.silent_handled (hl : Live sc (m :: rest) st) (hq : st.host.queue = []) :
    ∀ x ∈ (handle sc m st).stage.host.queue, Silent (handle sc m st).stage x := by
  intro x hx
  apply (hl.silent_posted x hx).resolve_left
  rw [hq]
  exact List.not_mem_nil

/-- a message that posts nothing will not do so later -/
theorem Live.silent_later (hl : Live sc (m :: rest) st) (hx : Silent st x)
    (htold : ∀ k, x = .unmount k → ∃ why, .left k why ∈ st.history) : Silent (handle sc m st).stage x := by
  cases x with
  | mount k => trivial
  | unmount k =>
    obtain ⟨why, hw⟩ := htold k rfl
    have hk := hl.pushed_lt k (hl.legal.not_mem_stackAt hw).1
    intro i hi
    rw [driver?_handle m hk] at hi
    exact hl.toRecorded.closed_later hl.after_handle.toRecorded (suffix_handle sc m st) (hx i hi)
  | _ => exact hx.elim

/-! ## Rounds -/

theorem handleAll_ok (hok : (handleAll sc (m :: rest) st).answer = .ok ()) : (handle sc m st).answer = .ok () ∧
    handleAll sc (m :: rest) st = handleAll sc rest (handle sc m st).stage := by
  obtain ⟨a, ha, he⟩ := Ran.andThen_returned hok
  exact ⟨ha, he⟩

theorem reached_handleAll (hr : Reached sc can ms st) (hok : (handleAll sc ms st).answer = .ok ()) :
    Reached sc can [] (handleAll sc ms st).stage := by
  induction ms generalizing st with
  | nil => exact hr
  | cons m rest ih =>
    obtain ⟨hm, he⟩ := handleAll_ok hok
    rw [he] at hok ⊢
    exact ih (hr.handle hm) hok

/-- after a round nothing waits that will post anything -/
theorem silent_handleAll (hr : Reached sc can ms st) (hok : (handleAll sc ms st).answer = .ok ())
    (hq : ∀ x ∈ st.host.queue, Silent st x) :
    ∀ x ∈ (handleAll sc ms st).stage.host.queue, Silent (handleAll sc ms st).stage x := by
  induction ms generalizing st with
  | nil => exact hq
  | cons m rest ih =>
    obtain ⟨hm, he⟩ := handleAll_ok hok
    rw [he] at hok ⊢
    apply ih (hr.handle hm) hok
    intro x hx
    rcases hr.live.silent_posted x hx with hx | hx
    · refine hr.live.silent_later (hq x hx) ?_
      rintro k rfl
      exact hr.live.removed k hx
    · exact hx

/-- a round of messages that post nothing -/
theorem queue_handleAll (hr : Reached sc can ms st) (hok : (handleAll sc ms st).answer = .ok ())
    (hms : ∀ x ∈ ms, Silent st x) : (handleAll sc ms st).stage.host.queue = st.host.queue := by
  induction ms generalizing st with
  | nil => rfl
  | cons m rest ih =>
    obtain ⟨hm, he⟩ := handleAll_ok hok
    rw [he] at hok ⊢
    rw [ih (hr.handle hm) hok, handle_silent (hms m List.mem_cons_self)]
    intro x hx
    refine hr.live.silent_later (hms x (List.mem_cons_of_mem _ hx)) ?_
    rintro k rfl
    exact hr.live.told k (List.mem_cons_of_mem _ hx)

theorem rounds_ok {n : Nat} (hok : (rounds sc (n + 1) st).answer = .ok ()) :
    (handleAll sc st.host.queue (emptied st)).answer = .ok () ∧
      rounds sc (n + 1) st = rounds sc n (handleAll sc st.host.queue (emptied st)).stage := by
  obtain ⟨a, ha, he⟩ := Ran.andThen_returned hok
  exact ⟨ha, he⟩

theorem reached_rounds {n : Nat} (hr : Reached sc can [] st) (hok : (rounds sc n st).answer = .ok ()) :
    Reached sc can [] (rounds sc n st).stage := by
  induction n generalizing st with
  | zero => exact hr
  | succ n ih =>
    obtain ⟨hround, he⟩ := rounds_ok hok
    rw [he] at hok ⊢
    exact ih (reached_handleAll hr.round hround) hok

/-- **Nothing waits once the application has settled**: the first round posts messages that post nothing, and the second
handles those. -/
theorem reached_settle (hr : Reached sc can [] st) (hok : (settle sc st).answer = .ok ()) :
    Reached sc can [] (settle sc st).stage ∧ (settle sc st).stage.host.queue = [] := by
  refine ⟨reached_rounds hr hok, ?_⟩
  unfold settle at hok ⊢
  obtain ⟨h1, he₁⟩ := rounds_ok hok
  have hr₁ := reached_handleAll hr.round h1
  have hq₁ := silent_handleAll hr.round h1 (by intro x hx; cases hx)
  rw [he₁] at hok ⊢
  obtain ⟨h2, he₂⟩ := rounds_ok hok
  have hr₂ := reached_handleAll hr₁.round h2
  have hq₂ : _ = [] := queue_handleAll hr₁.round h2 hq₁
  rw [he₂] at hok ⊢
  obtain ⟨h3, he₃⟩ := rounds_ok hok
  rw [he₃]
  exact queue_handleAll hr₂.round h3 (by rw [hq₂]; simp)

end LinePrompt.Screen
