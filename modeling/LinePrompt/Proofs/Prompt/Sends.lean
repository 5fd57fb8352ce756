/-
What calls send to the screens.

A screen that is pushed gets a message to appear, and one that leaves a message that it has gone; nothing else that a
call does reaches the queue. `mail` reads these messages off the history. `Sends` says of two stages that just these
were posted in between, that the dialogs which were there keep their prompts and the text of their fields, and that a
dialog which is new has come up for a new controller and is not mounted yet.

- `sending_exec`: every call sends, and sets a text only if it is asked to, or a script asks for it that it runs.
- `moved_close`: the first thing that closing a prompt does is to close it.
-/
import LinePrompt.Proofs.Prompt.Sound

namespace LinePrompt.Prompt

open LinePrompt.Log LinePrompt.Screen

variable {sc : Scene} {st st' st₁ st₂ st₃ : Stage} {id : Nat} {sets sets' : Prop}

/-! ## Messages of a history -/

/-- the messages that come with marks, oldest first -/
def mail : List Mark → List Message
  | [] => []
  | .pushed k :: ms => mail ms ++ [.mount k]
  | .left k _ :: ms => mail ms ++ [.unmount k]
  | _ :: ms => mail ms

theorem mail_append (ms h : List Mark) : mail (ms ++ h) = mail h ++ mail ms := by
  induction ms with
  | nil => simp [mail]
  | cons m ms ih =>
    cases m with
    | pushed k => simp [mail, ih]
    | left k why => simp [mail, ih]
    | _ => exact ih

theorem mail_cons (m : Mark) (h : List Mark) : mail (m :: h) = mail h ++ mail [m] := mail_append [m] h

theorem mount_mem_mail {h : List Mark} {k : Nat} : .mount k ∈ mail h ↔ .pushed k ∈ h := by
  induction h with
  | nil => simp [mail]
  | cons m h ih =>
    rw [mail_cons, List.mem_append, ih, List.mem_cons]
    cases m <;> simp [mail, or_comm]

theorem unmount_mem_mail {h : List Mark} {k : Nat} : .unmount k ∈ mail h ↔ ∃ why, .left k why ∈ h := by
  induction h with
  | nil => simp [mail]
  | cons m h ih =>
    rw [mail_cons, List.mem_append, ih]
    cases m <;> simp [mail, or_comm, exists_or]

/-- only screens that came or went are told -/
theorem mem_mail {h : List Mark} {m : Message} (hm : m ∈ mail h) : ∃ k, m = .mount k ∨ m = .unmount k := by
  induction h with
  | nil => simp [mail] at hm
  | cons mark h ih =>
    rw [mail_cons, List.mem_append] at hm
    rcases hm with hm | hm
    · exact ih hm
    · cases mark with
      | pushed k => exact ⟨k, Or.inl (by simpa [mail] using hm)⟩
      | left k why => exact ⟨k, Or.inr (by simpa [mail] using hm)⟩
      | _ => simp [mail] at hm

/-! ## Texts that are asked for -/

def Call.setsText : Call → Bool
  | .prompt _ (.setText _) => true
  | _ => false

/-- is this the mark of a script's call that set a text? -/
def Mark.setsText : Mark → Bool
  | .returned call _ => call.setsText
  | _ => false

/-- did a script have a text set? -/
def ScriptSets (h : List Mark) : Prop := ∃ m ∈ h, m.setsText

theorem ScriptSets.mono {h h' : List Mark} (hs : ScriptSets h) (hh : ∀ m ∈ h, m ∈ h') : ScriptSets h' := by
  obtain ⟨m, hin, hset⟩ := hs
  exact ⟨m, hh m hin, hset⟩

/-! ## Stages that calls lead to -/

/-- what was posted between two stages are the messages of the marks made in between, and the dialogs that were there
keep their contents; texts were set only for one of these reasons -/
structure Posts (sets : Prop) (st st' : Stage) : Prop where
  posted : ∃ ms, st'.history = ms ++ st.history ∧ st'.host.queue = st.host.queue ++ mail ms ∧
    ((∃ i text, .texted i text ∈ ms) → sets ∨ ScriptSets ms)
  more : st.controllers.length ≤ st'.controllers.length
  screens : st.host.screens.length ≤ st'.host.screens.length
  old : ∀ k, k < st.host.screens.length → st'.host.content? k = st.host.content? k

/-- moreover a dialog that is new has come up for a new controller, and is not mounted yet -/
structure Sends (sets : Prop) (st st' : Stage) : Prop extends Posts sets st st' where
  new : ∀ k m, st.host.screens.length ≤ k → st'.host.modal? k = some m →
    m.mounted = false ∧ st.controllers.length ≤ m.controller ∧ .pushed k ∈ st'.history

theorem Posts.suffix (hp : Posts sets st st') : st.history <:+ st'.history := by
  obtain ⟨ms, hh, -⟩ := hp.posted
  exact ⟨ms, hh.symm⟩

theorem Posts.refl (sets : Prop) (st : Stage) : Posts sets st st :=
  ⟨⟨[], rfl, by simp [mail], by simp⟩, Nat.le_refl _, Nat.le_refl _, fun _ _ => rfl⟩

theorem Posts.trans (h12 : Posts sets st₁ st₂) (h23 : Posts sets st₂ st₃) : Posts sets st₁ st₃ := by
  obtain ⟨ms, hh, hq, ht⟩ := h12.posted
  obtain ⟨ns, hh', hq', ht'⟩ := h23.posted
  refine ⟨⟨ns ++ ms, ?_, ?_, ?_⟩, Nat.le_trans h12.more h23.more, Nat.le_trans h12.screens h23.screens, ?_⟩
  · rw [hh', hh, List.append_assoc]
  · rw [hq', hq, mail_append, List.append_assoc]
  · rintro ⟨i, text, hin⟩
    rcases List.mem_append.1 hin with hin | hin
    · exact (ht' ⟨i, text, hin⟩).imp_right fun hs => hs.mono fun _ => List.mem_append_left _
    · exact (ht ⟨i, text, hin⟩).imp_right fun hs => hs.mono fun _ => List.mem_append_right _
  · intro k hk
    exact (h23.old k (Nat.lt_of_lt_of_le hk h12.screens)).trans (h12.old k hk)

/-- with no new screen there is nothing to say of one -/
theorem Posts.sends (hp : Posts sets st st') (hlen : st'.host.screens.length = st.host.screens.length) :
    Sends sets st st' := by
  refine ⟨hp, ?_⟩
  intro k m hk hm
  have hlt := Host.lt_of_modal? hm
  omega

theorem Sends.refl (sets : Prop) (st : Stage) : Sends sets st st := (Posts.refl sets st).sends rfl

theorem Sends.trans (h12 : Sends sets st₁ st₂) (h23 : Sends sets st₂ st₃) : Sends sets st₁ st₃ := by
  refine ⟨h12.toPosts.trans h23.toPosts, ?_⟩
  intro k m hk hm
  by_cases hlt : k < st₂.host.screens.length
  · obtain ⟨m₂, hm₂, hc, hmounted, -⟩ := Host.modal?_of_content? (h23.old k hlt) hm
    obtain ⟨h1, h2, h3⟩ := h12.new k m₂ hk hm₂
    exact ⟨hmounted ▸ h1, hc ▸ h2, h23.suffix.subset h3⟩
  · obtain ⟨h1, h2, h3⟩ := h23.new k m (Nat.le_of_not_lt hlt) hm
    exact ⟨h1, Nat.le_trans h12.more h2, h3⟩

theorem Sends.mono (hs : Sends sets st st') (himp : sets → sets') : Sends sets' st st' := by
  obtain ⟨ms, hh, hq, ht⟩ := hs.posted
  exact ⟨⟨⟨ms, hh, hq, fun hin => (ht hin).imp_left himp⟩, hs.more, hs.screens, hs.old⟩, hs.new⟩

theorem Sends.andThen {α β : Type} {r : Ran α} {next : α → Stage → Ran β} (hr : Sends sets st r.stage)
    (hn : ∀ a st, Sends sets st (next a st).stage) : Sends sets st (r.andThen next).stage := by
  unfold Ran.andThen
  split
  · exact hr.trans (hn _ _)
  · exact hr

/-! ## Changes of a stage -/

/-- a mark without a message, made by a change that leaves the host alone -/
theorem posts_mark {m : Mark} (hh : st'.history = m :: st.history) (hhost : st'.host = st.host)
    (hc : st.controllers.length ≤ st'.controllers.length) (hm : mail [m] = [])
    (ht : ∀ i text, m = .texted i text → sets) : Posts sets st st' := by
  refine ⟨⟨[m], hh, ?_, ?_⟩, hc, Nat.le_of_eq (by rw [hhost]), fun k _ => by rw [hhost]⟩
  · rw [hhost, hm, List.append_nil]
  rintro ⟨i, text, hin⟩
  exact Or.inl (ht i text (List.mem_singleton.1 hin).symm)

theorem sends_note {m : Mark} (hm : m.isPlain) : Sends sets st (st.note m) := by
  refine Posts.sends (posts_mark (m := m) rfl rfl (Nat.le_refl _) ?_ ?_) rfl
  · cases m <;> first | rfl | simp [Mark.isPlain] at hm
  · rintro i text rfl
    simp [Mark.isPlain] at hm

theorem sends_log (severity : Severity) (record : Unit → Record) : Sends sets st (st.log sc severity record) := by
  rcases log_eq st sc severity record with he | ⟨r, he⟩ <;> rw [he]
  · exact .refl _ _
  · exact sends_note rfl

theorem sends_kept (kept : String) (result : Option (Outcome × String)) : Sends sets st { st with kept, result } :=
  Posts.sends ⟨⟨[], rfl, by simp [mail], by simp⟩, Nat.le_refl _, Nat.le_refl _, fun _ _ => rfl⟩ rfl

theorem sends_create (name : String) : Sends sets st (st.create sc name) := by
  refine Posts.sends (posts_mark (m := .made st.controllers.length name) rfl rfl ?_ rfl (by simp)) rfl
  simp [Stage.create, Stage.note]

theorem sends_ensure (name : String) : Sends sets st (st.ensure sc name) := by
  unfold Stage.ensure
  split_ifs
  · exact .refl _ _
  · exact sends_create name

theorem sends_setPhase (id : Nat) (phase : Phase) : Sends sets st (st.setPhase id phase) := by
  refine Posts.sends (posts_mark (m := .moved id phase) rfl rfl ?_ rfl (by simp)) rfl
  simp [Stage.setPhase, Stage.update, Stage.note]

theorem sends_setText (hs : sets) (id : Nat) (text : String) : Sends sets st (st.setText id text) := by
  obtain ⟨hh, hhost, -, hlen⟩ := setText_frame st id text
  exact (posts_mark hh hhost (Nat.le_of_eq hlen.symm) rfl fun _ _ _ => hs).sends (by rw [hhost])

/-- a screen on the stack is told to appear -/
theorem posts_push (k : Nat) : Posts sets st (st.push k) :=
  ⟨⟨[.pushed k], rfl, rfl, by simp⟩, Nat.le_refl _, Nat.le_refl _, fun _ _ => rfl⟩

/-- a screen that leaves is told so -/
theorem sends_pop (why : Departure) : Sends sets st (st.pop why) := by
  cases htop : st.host.top? with
  | none =>
    unfold Stage.pop
    rw [htop]
    exact .refl _ _
  | some k =>
    rw [pop_eq htop]
    refine Posts.sends ⟨⟨[.left k why], rfl, ?_, by simp⟩, Nat.le_refl _, ?_, ?_⟩ ?_
    · exact Host.queue_pop htop
    · exact Nat.le_of_eq (Host.length_pop _).symm
    · exact fun j _ => Host.content?_pop _ j
    · exact Host.length_pop _

/-- a screen that is made disturbs no other -/
theorem posts_prepare (layer : Layer) : Posts sets st { st with host := st.host.prepare layer } := by
  refine ⟨⟨[], rfl, by simp [mail, Host.prepare], by simp⟩, Nat.le_refl _, ?_, ?_⟩
  · simp [Host.prepare]
  · intro k hk
    exact Host.content?_prepare hk

/-- a dialog is taken away, which it is told already -/
theorem sends_detach (k : Nat) : Sends sets st (st.detach k) := by
  refine Posts.sends ⟨⟨[.detached k], rfl, ?_, by simp⟩, Nat.le_refl _, ?_, ?_⟩ ?_
  · simp [Stage.detach, Stage.note, mail]
  · simp [Stage.detach, Stage.note]
  · exact fun j _ => Host.content?_updateModal k j fun _ => rfl
  · simp [Stage.detach, Stage.note]

/-! ## Scripts -/

/-- a meaning of the calls inside a script under which stages send, and texts are set on request -/
def Sending (again : Caller) : Prop :=
  ∀ call st, Sends (call.setsText ∧ ∃ answer, (again call st).answer = .ok answer) st (again call st).stage

variable {again : Caller}

theorem sends_finishWith (cue : Cue) : Sends sets st (finishWith sc cue st) := by
  unfold finishWith
  dsimp only
  exact ((sends_kept _ _).trans (sends_log _ _)).trans (sends_kept _ _)

/-- a call whose return is noted: if it set a text, then the note says so -/
theorem sends_returned (ha : Sending again) (call : Call) (st : Stage) : Sends sets st
    ((again call st).andThen fun answer st => (⟨.ok (), st.note (.returned call answer)⟩ : Ran Unit)).stage := by
  have hs := ha call st
  unfold Ran.andThen
  split
  · rename_i answer hanswer
    obtain ⟨ms, hh, hq, ht⟩ := hs.posted
    refine ⟨⟨⟨.returned call answer :: ms, congrArg _ hh, hq, ?_⟩, hs.more, hs.screens, hs.old⟩, ?_⟩
    · rintro ⟨i, text, hin⟩
      have hin' : .texted i text ∈ ms := by simpa using hin
      right
      rcases ht ⟨i, text, hin'⟩ with ⟨hsets, -⟩ | hscript
      · exact ⟨_, List.mem_cons_self, hsets⟩
      · exact hscript.mono fun _ => List.mem_cons_of_mem _
    · intro k m hk hm
      obtain ⟨h1, h2, h3⟩ := hs.new k m hk hm
      exact ⟨h1, h2, List.mem_cons_of_mem _ h3⟩
  · rename_i fault hanswer
    refine hs.mono ?_
    rintro ⟨-, answer, hok⟩
    rw [hanswer] at hok
    cases hok

theorem sends_act (ha : Sending again) (cue : Cue) (action : Action) (st : Stage) :
    Sends sets st (act again sc cue action st).stage := by
  induction action with
  | call call => exact sends_returned ha call st
  | raise kind message => exact .refl _ _
  | attempt action ih =>
    rw [act]
    split
    · rename_i st' he
      rwa [he] at ih
    · rename_i st' he
      rwa [he] at ih
    · rename_i fault st' _ he
      rw [he] at ih
      exact ih.trans (sends_note rfl)
  | keep => exact sends_kept _ _
  | finish => exact sends_finishWith cue

theorem sends_play (ha : Sending again) (cue : Cue) (script : Script) (st : Stage) :
    Sends sets st (play again sc cue script st).stage := by
  induction script generalizing st with
  | nil => exact .refl _ _
  | cons action rest ih => exact (sends_act ha cue action st).andThen fun _ st => ih st

theorem sends_callback (id : Nat) (cb : Callback) {body : Stage → Ran Unit}
    (hb : ∀ st, Sends sets st (body st).stage) : Sends sets st (callback id cb body st).stage :=
  Sends.andThen ((sends_note rfl).trans (hb _)) fun _ _ => sends_note rfl

/-! ## Controllers -/

theorem sends_closeDialog (id screen : Nat) (st : Stage) : Sends sets st (closeDialog sc id screen st) := by
  unfold closeDialog
  split_ifs
  · exact .refl _ _
  · exact sends_pop _
  · exact sends_log _ _

theorem sends_surfaceClose (ha : Sending again) (id : Nat) (s : Surface) (st : Stage) :
    Sends sets st (surfaceClose again sc id s st).stage := by
  cases s with
  | scripted name => exact sends_play ha _ _ st
  | dialog screen => exact sends_closeDialog id screen st

theorem sends_runHandler (ha : Sending again) (id : Nat) (r : Request) (cb : Callback) (st : Stage) :
    Sends sets st (runHandler again sc id r cb st).stage := by
  unfold runHandler
  split
  · exact .refl _ _
  · exact sends_callback id cb fun st => sends_play ha _ _ st

/-- a prompt that is up is closed before anything else happens -/
theorem close_of_shown (ha : Sending again) {s : Surface} (hp : st.phase id = .shown s) (o : Outcome) :
    Sends sets (st.setPhase id (.closed o)) (close again sc id o st).stage := by
  unfold close
  simp only [hp]
  refine Sends.andThen ((sends_log _ _).trans (sends_callback id _ fun st => sends_surfaceClose ha id s st)) ?_
  intro _ st
  refine (sends_runHandler ha id _ _ st).andThen ?_
  intro _ st
  exact (sends_runHandler ha id _ _ st).andThen fun _ st => .refl _ _

theorem moved_close (sc : Scene) (ha : Sending again) {s : Surface} (hp : st.phase id = .shown s) (o : Outcome) :
    .moved id (.closed o) :: st.history <:+ (close again sc id o st).stage.history :=
  (close_of_shown ha hp o : Sends False _ _).suffix

theorem sends_close (ha : Sending again) (id : Nat) (o : Outcome) (st : Stage) :
    Sends sets st (close again sc id o st).stage := by
  cases hp : st.phase id with
  | shown s => exact (sends_setPhase id _).trans (close_of_shown ha hp o)
  | created =>
    unfold close
    simp only [hp]
    exact sends_log _ _
  | closed o' =>
    unfold close
    simp only [hp]
    exact sends_log _ _

theorem sends_alternate (ha : Sending again) (id : Nat) (st : Stage) :
    Sends sets st (alternate again sc id st).stage := by
  unfold alternate
  split_ifs
  · exact sends_close ha id .alternate st
  · show Sends sets st (st.debug sc id _ _)
    exact sends_log _ _

/-- coming up on a scripted surface -/
theorem sends_display (ha : Sending again) (id : Nat) (name : String) (st : Stage) :
    Sends sets st (display again sc id (.scripted name) st).stage := by
  cases hp : st.phase id with
  | created =>
    unfold display
    simp only [hp]
    exact ((sends_setPhase id _).trans (sends_log _ _)).trans (sends_callback id _ fun st => sends_play ha _ _ st)
  | shown s =>
    unfold display
    simp only [hp]
    exact .refl _ _
  | closed o =>
    unfold display
    simp only [hp]
    exact .refl _ _

/-- a dialog that has been made is brought up -/
theorem posts_display_dialog (sc : Scene) (again : Caller) (k : Nat) (hp : st.phase id = .created) :
    Posts sets st (display again sc id (.dialog k) st).stage ∧
      .pushed k ∈ (display again sc id (.dialog k) st).stage.history ∧
      (display again sc id (.dialog k) st).stage.host.screens = st.host.screens := by
  unfold display callback
  simp only [hp, surfaceShow, Ran.andThen_ok]
  set st₁ := (st.setPhase id (.shown (.dialog k))).debug sc id "shown" [] with hst₁
  have h1 : Posts sets st st₁ := ((sends_setPhase id _).trans (sends_log _ _)).toPosts
  have hhost : st₁.host = st.host := host_log _ _
  refine ⟨?_, ?_, ?_⟩
  · exact ((h1.trans (sends_note rfl).toPosts).trans (posts_push k)).trans (sends_note rfl).toPosts
  · simp [Stage.push, Stage.note]
  · simp [Stage.push, Stage.note, Host.push, Host.post, hhost]

theorem sends_present (name : String) (st : Stage) : Sends sets st (present again sc name st).stage := by
  set st₁ := st.create sc name
  set modal := Modal.mk st.controllers.length false false (.ofText "" 0) .input with hmodal
  set st₂ : Stage := { st₁ with host := st₁.host.prepare (.modal modal) } with hst₂
  have hp : st₂.phase st.controllers.length = .created := by
    simp [st₂, st₁, Stage.phase, Stage.controller, Stage.create, Stage.note, Controller.fresh]
  have hmade : Posts sets st st₂ := (sends_create name).toPosts.trans (posts_prepare _)
  obtain ⟨hshown, hpushed, hscreens⟩ := posts_display_dialog sc again st.host.screens.length hp
  refine ⟨hmade.trans hshown, ?_⟩
  intro k m hk hm
  have hm₂ : st₂.host.modal? k = some m := by
    rw [Host.modal?_eq_some] at hm ⊢
    rwa [show (present again sc name st).stage.host.screens = st₂.host.screens from hscreens] at hm
  -- the only screen that is new is the dialog itself
  obtain rfl : k = st.host.screens.length := by
    have hlt := Host.lt_of_modal? hm₂
    simp only [hst₂, Host.prepare, List.length_append, List.length_singleton] at hlt
    exact Nat.le_antisymm (Nat.le_of_lt_succ hlt) hk
  obtain rfl : modal = m := Option.some.inj ((Host.modal?_prepare_self _ modal).symm.trans hm₂)
  exact ⟨rfl, Nat.le_refl _, hpushed⟩

theorem sends_notice (message : String) (st : Stage) : Sends sets st (notice message st) := by
  refine ⟨(posts_prepare _).trans (posts_push _), ?_⟩
  intro k m hk hm
  have hlt := Host.lt_of_modal? hm
  simp only [notice, Stage.push, Stage.note, Host.push, Host.post, Host.prepare, List.length_append,
    List.length_singleton] at hlt
  obtain rfl : k = st.host.screens.length := Nat.le_antisymm (Nat.le_of_lt_succ hlt) hk
  simp [notice, Stage.push, Stage.note, Host.push, Host.post, Host.prepare, Host.modal?] at hm

/-! ## Calls -/

theorem Sends.flag {r : Ran Bool} (hr : Sends sets st r.stage) : Sends sets st r.flag.stage :=
  hr.andThen fun _ st => .refl _ st

theorem Sends.silent {r : Ran Unit} (hr : Sends sets st r.stage) : Sends sets st r.silent.stage :=
  hr.andThen fun _ st => .refl _ st

theorem sends_perform (ha : Sending again) (name : String) (id : Nat) (verb : Verb) (st : Stage)
    (ht : ∀ text, verb = .setText text → sets) : Sends sets st (perform again sc name id verb st).stage := by
  cases verb with
  | renew => exact sends_create name
  | display surface => exact (sends_display ha id _ st).silent
  | setText text => exact sends_setText (ht text rfl) id text
  | primary => exact (sends_close ha id _ st).flag
  | submit => exact (sends_close ha id _ st).flag
  | alternate => exact (sends_alternate ha id st).flag
  | cancel => exact (sends_close ha id _ st).flag
  | dismiss => exact (sends_close ha id _ st).flag
  | close outcome => exact (sends_close ha id _ st).flag
  | hasAlternate => exact .refl _ st
  | cancelLabel default => exact .refl _ st
  | assign field => exact .refl _ st

theorem sending_call (ha : Sending again) : Sending (call again sc) := by
  intro c st
  cases c with
  | prompt name verb =>
    refine (sends_ensure name).trans (sends_perform ha name _ verb _ ?_)
    rintro text rfl
    exact ⟨rfl, .nothing, rfl⟩
  | present name => exact (sends_present name st).silent
  | notice message => exact sends_notice message st

/-- **Every call sends**, whatever the bound on nesting. -/
theorem sending_exec (sc : Scene) (depth : Nat) : Sending (exec sc depth) := by
  induction depth with
  | zero => exact fun _ st => .refl _ st
  | succ depth ih => exact fun c st => sending_call ih c st

end LinePrompt.Prompt
