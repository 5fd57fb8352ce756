/-
The messages that a session handles, the stages on which it waits for input, and the one from which it is shut down.

`moments` lists the messages of a session in the order in which they are handled, each with the stage on which that
begins; `pauses` are the stages between two steps or two keys, where the application is idle; both go along with the
session and stop where a fault ends it. `lastStage` is the stage on which the shutdown begins. `course` places them:
each moment is reached by the machine, in a pause nothing waits, and the histories go into that of the last stage.
-/
import LinePrompt.Proofs.Screen.Reached

namespace LinePrompt.Prompt

/-- what comes of going on after a computation, which is nothing after a fault -/
def Ran.onward {α β : Type} (r : Ran α) (next : α → Stage → List β) : List β :=
  match r.answer with
  | .ok a => next a r.stage
  | .error _ => []

theorem Ran.andThen_of_ok {α β : Type} {r : Ran α} {next : α → Stage → Ran β} {a : α} (hok : r.answer = .ok a) :
    r.andThen next = next a r.stage := by
  unfold Ran.andThen
  rw [hok]

theorem Ran.mem_onward {α β : Type} {r : Ran α} {next : α → Stage → List β} {x : β} :
    x ∈ r.onward next ↔ ∃ a, r.answer = .ok a ∧ x ∈ next a r.stage := by
  unfold Ran.onward
  split <;> rename_i he <;> simp [he]

end LinePrompt.Prompt

namespace LinePrompt.Screen

open LinePrompt.Prompt

variable {sc : Scene} {can : Input → Prop} {st st' : Stage} {ms : List Message}

/-! ## Moments -/

/-- a message, and the stage on which it comes to be handled -/
structure Moment where
  message : Message
  stage : Stage

/-- the stage once the message is handled -/
def Moment.after (sc : Scene) (x : Moment) : Stage := (handle sc x.message x.stage).stage

/-- the messages of a round, up to the first fault -/
def roundMoments (sc : Scene) : List Message → Stage → List Moment
  | [], _ => []
  | m :: rest, st => ⟨m, st⟩ :: (handle sc m st).onward fun _ st => roundMoments sc rest st

def roundsMoments (sc : Scene) : Nat → Stage → List Moment
  | 0, _ => []
  | n + 1, st => roundMoments sc st.host.queue (emptied st) ++
      (handleAll sc st.host.queue (emptied st)).onward fun _ st => roundsMoments sc n st

def settleMoments (sc : Scene) (st : Stage) : List Moment := roundsMoments sc 3 st

def keysMoments (sc : Scene) : List Key → Stage → List Moment
  | [], _ => []
  | k :: rest, st =>
    if st.result.isSome then []
    else (press sc k st).onward fun _ st =>
      settleMoments sc st ++ (settle sc st).onward fun _ st => keysMoments sc rest st

def stepMoments (sc : Scene) : Gesture → Stage → List Moment
  | .one input, st => (accept sc input st).onward fun _ st => settleMoments sc st
  | .keys keys, st => keysMoments sc keys st
  | .frame inputs, st => (acceptAll sc inputs st).onward fun _ st => settleMoments sc st

def stepsMoments (sc : Scene) : List Gesture → Stage → List Moment
  | [], _ => []
  | g :: rest, st =>
    if st.result.isSome then []
    else stepMoments sc g st ++ (step sc g st).onward fun _ st => if g.quits then [] else stepsMoments sc rest st

/-- the messages that a session handles before it is shut down -/
def moments (sc : Scene) (names : List String) (gestures : List Gesture) : List Moment :=
  (presentAll sc names .empty).onward fun _ st =>
    settleMoments sc st ++ (settle sc st).onward fun _ st => stepsMoments sc gestures st

/-! ## Pauses -/

/-- a stage on which a session waits, and the key that is pressed next, if that is how it goes on -/
structure Pause where
  stage : Stage
  key? : Option Key

/-- a key, until the application is idle again -/
def pressAndSettle (sc : Scene) (k : Key) (st : Stage) : Ran Unit := (press sc k st).andThen fun _ st => settle sc st

/-- the pauses before, between and after keys -/
def keysPauses (sc : Scene) : List Key → Stage → List Pause
  | [], st => [⟨st, none⟩]
  | k :: rest, st =>
    if st.result.isSome then [⟨st, none⟩]
    else ⟨st, some k⟩ :: (pressAndSettle sc k st).onward fun _ st => keysPauses sc rest st

def stepPauses (sc : Scene) : Gesture → Stage → List Pause
  | .keys keys, st => keysPauses sc keys st
  | .one (.key k), st => [⟨st, some k⟩]
  | _, st => [⟨st, none⟩]

def stepsPauses (sc : Scene) : List Gesture → Stage → List Pause
  | [], st => [⟨st, none⟩]
  | g :: rest, st =>
    if st.result.isSome then [⟨st, none⟩]
    else stepPauses sc g st ++
      (step sc g st).onward fun _ st => if g.quits then [⟨st, none⟩] else stepsPauses sc rest st

/-- where a session waits for input, or for its end -/
def pauses (sc : Scene) (names : List String) (gestures : List Gesture) : List Pause :=
  ((presentAll sc names .empty).andThen fun _ st => settle sc st).onward fun _ st => stepsPauses sc gestures st

theorem pause_keysPauses (keys : List Key) (st : Stage) : ∃ p ∈ keysPauses sc keys st, p.stage = st := by
  cases keys with
  | nil => exact ⟨_, List.mem_singleton_self _, rfl⟩
  | cons k rest =>
    unfold keysPauses
    split_ifs <;> exact ⟨_, List.mem_cons_self, rfl⟩

theorem pause_stepPauses (g : Gesture) (st : Stage) : ∃ p ∈ stepPauses sc g st, p.stage = st := by
  cases g with
  | keys keys => exact pause_keysPauses keys st
  | one input => cases input <;> exact ⟨_, List.mem_singleton_self _, rfl⟩
  | frame inputs => exact ⟨_, List.mem_singleton_self _, rfl⟩

theorem pause_stepsPauses (gestures : List Gesture) (st : Stage) : ∃ p ∈ stepsPauses sc gestures st, p.stage = st := by
  cases gestures with
  | nil => exact ⟨_, List.mem_singleton_self _, rfl⟩
  | cons g rest =>
    unfold stepsPauses
    by_cases hresult : st.result.isSome = true
    · rw [if_pos hresult]
      exact ⟨_, List.mem_singleton_self _, rfl⟩
    · rw [if_neg hresult]
      obtain ⟨p, hp, hstage⟩ : ∃ p ∈ stepPauses sc g st, p.stage = st := pause_stepPauses g st
      exact ⟨p, List.mem_append_left _ hp, hstage⟩

theorem stepsPauses_of_shot {gestures : List Gesture} {shot : Shot}
    (hshot : shot ∈ (continueWith sc gestures st).shots) : ∃ p ∈ stepsPauses sc gestures st, p.stage = shot.stage := by
  induction gestures generalizing st with
  | nil => simp [continueWith, conclude] at hshot
  | cons g rest ih =>
    unfold continueWith at hshot
    unfold stepsPauses
    by_cases hresult : st.result.isSome = true
    · rw [if_pos hresult] at hshot
      simp [conclude] at hshot
    · rw [if_neg hresult] at hshot ⊢
      suffices h : ∃ p ∈ (step sc g st).onward fun _ st => if g.quits then [⟨st, none⟩] else stepsPauses sc rest st,
          p.stage = shot.stage by
        obtain ⟨p, hp, hstage⟩ := h
        exact ⟨p, List.mem_append_right _ hp, hstage⟩
      revert hshot
      rcases step sc g st with ⟨fault | answer, after⟩
      · simp [conclude]
      · intro hshot
        dsimp only [Ran.onward] at hshot ⊢
        split_ifs at hshot ⊢
        · rw [List.mem_singleton.1 hshot]
          exact ⟨_, List.mem_singleton_self _, rfl⟩
        · rcases List.mem_cons.1 hshot with rfl | hshot
          · exact pause_stepsPauses rest after
          · exact ih hshot

/-- what is seen of a session is seen in a pause -/
theorem pause_of_shot {names : List String} {gestures : List Gesture} {shot : Shot}
    (hshot : shot ∈ (playSession sc names gestures).shots) :
    ∃ p ∈ pauses sc names gestures, p.stage = shot.stage := by
  unfold playSession at hshot
  unfold pauses
  revert hshot
  rcases (presentAll sc names .empty).andThen fun _ st => settle sc st with ⟨fault | _, st⟩
  · simp [conclude]
  · intro hshot
    rcases List.mem_cons.1 hshot with rfl | hshot
    · exact pause_stepsPauses gestures st
    · exact stepsPauses_of_shot hshot

/-! ## The last stage -/

/-- the stage that steps lead to, or as a fault left it -/
def lastFrom (sc : Scene) : List Gesture → Stage → Stage
  | [], st => st
  | g :: rest, st =>
    if st.result.isSome then st
    else
      match step sc g st with
      | ⟨.error _, after⟩ => after
      | ⟨.ok _, after⟩ => if g.quits then after else lastFrom sc rest after

/-- the stage on which the shutdown of a session begins -/
def lastStage (sc : Scene) (names : List String) (gestures : List Gesture) : Stage :=
  match (presentAll sc names .empty).andThen fun _ st => settle sc st with
  | ⟨.error _, st⟩ => st
  | ⟨.ok _, st⟩ => lastFrom sc gestures st

theorem stage_conclude (crash : Option Fault) (seen st : Stage) :
    (conclude sc crash seen st).stage = (shutDown sc st).2 := rfl

theorem stage_continueWith (gestures : List Gesture) (st : Stage) :
    (continueWith sc gestures st).stage = (shutDown sc (lastFrom sc gestures st)).2 := by
  induction gestures generalizing st with
  | nil => rfl
  | cons g rest ih =>
    unfold continueWith lastFrom
    split
    · rfl
    · rcases step sc g st with ⟨fault | answer, after⟩
      · rfl
      · cases hquits : g.quits
        · simpa [hquits] using ih after
        · simp [stage_conclude]

/-- a session ends with the shutdown of its last stage -/
theorem stage_playSession (sc : Scene) (names : List String) (gestures : List Gesture) :
    (playSession sc names gestures).stage = (shutDown sc (lastStage sc names gestures)).2 := by
  unfold playSession lastStage
  rcases (presentAll sc names .empty).andThen fun _ st => settle sc st with ⟨fault | _, st⟩
  · rfl
  · exact stage_continueWith gestures st

theorem sound_removeAll (ks : List Nat) (hs : Sound sc st) (hp : ∀ k ∈ ks, .pushed k ∈ st.history) :
    Sound sc (removeAll sc ks st).2 ∧ st.history <:+ (removeAll sc ks st).2.history := by
  have ha : Adds sc (byRemoval fun _ => True) st (removeAll sc ks st).2 := adds_removeAll ks hp
  obtain ⟨hafter, ms, hh, -⟩ := ha hs
  exact ⟨hafter, ms, hh.symm⟩

/-- the history only grows until the end -/
theorem suffix_shutDown (hr : Running sc st) : st.history <:+ (shutDown sc st).2.history := by
  have hpushed : ∀ k ∈ st.host.stack, .pushed k ∈ st.history := fun k hk => pushed_of_mem_stackAt (hr.stack ▸ hk)
  exact (sound_removeAll _ hr.toSound hpushed).2.trans (List.suffix_append _ _)

/-- so does that of a session -/
theorem suffix_playSession {names : List String} {gestures : List Gesture}
    (hr : Running sc (lastStage sc names gestures)) :
    (lastStage sc names gestures).history <:+ (playSession sc names gestures).stage.history := by
  rw [stage_playSession]
  exact suffix_shutDown hr

/-! ## Where moments are -/

/-- these moments are reached, and what was done on them goes into the history of this stage -/
def Covered (sc : Scene) (can : Input → Prop) (xs : List Moment) (st : Stage) : Prop :=
  ∀ x ∈ xs, (∃ rest, Reached sc can (x.message :: rest) x.stage) ∧ (x.after sc).history <:+ st.history

variable {xs ys : List Moment}

theorem covered_nil (sc : Scene) (can : Input → Prop) (st : Stage) : Covered sc can [] st := by simp [Covered]

theorem Covered.later (hc : Covered sc can xs st) (hs : st.history <:+ st'.history) : Covered sc can xs st' :=
  fun x hx => ⟨(hc x hx).1, (hc x hx).2.trans hs⟩

theorem Covered.append (hx : Covered sc can xs st) (hy : Covered sc can ys st) : Covered sc can (xs ++ ys) st := by
  intro x hin
  rcases List.mem_append.1 hin with hin | hin
  · exact hx x hin
  · exact hy x hin

/-- the moments after a computation that returned are those of going on -/
theorem Covered.onward {α β : Type} {r : Ran α} {next : α → Stage → Ran β} {f : α → Stage → List Moment}
    (hn : ∀ a, r.answer = .ok a → Covered sc can (f a r.stage) (next a r.stage).stage) :
    Covered sc can (r.onward f) (r.andThen next).stage := by
  rcases r with ⟨fault | a, st⟩
  · exact covered_nil _ _ _
  · exact hn a rfl

/-- a history that grows while a computation goes on -/
theorem suffix_andThen {α β : Type} {r : Ran α} {next : α → Stage → Ran β}
    (hn : ∀ a, r.answer = .ok a → r.stage.history <:+ (next a r.stage).stage.history) :
    r.stage.history <:+ (r.andThen next).stage.history := by
  unfold Ran.andThen
  split
  · rename_i a ha
    exact hn a ha
  · exact List.suffix_refl _

theorem Covered.andThen {α β : Type} {r : Ran α} {next : α → Stage → Ran β} {f : α → Stage → List Moment}
    (hr : Covered sc can xs r.stage)
    (hs : ∀ a, r.answer = .ok a → r.stage.history <:+ (next a r.stage).stage.history)
    (hn : ∀ a, r.answer = .ok a → Covered sc can (f a r.stage) (next a r.stage).stage) :
    Covered sc can (xs ++ r.onward f) (r.andThen next).stage :=
  (hr.later (suffix_andThen hs)).append (Covered.onward hn)

theorem suffix_handleAll (ms : List Message) (st : Stage) : st.history <:+ (handleAll sc ms st).stage.history := by
  induction ms generalizing st with
  | nil => exact List.suffix_refl _
  | cons m rest ih => exact (suffix_handle sc m st).trans (suffix_andThen fun _ _ => ih _)

theorem suffix_rounds (n : Nat) (st : Stage) : st.history <:+ (rounds sc n st).stage.history := by
  induction n generalizing st with
  | zero => exact List.suffix_refl _
  | succ n ih => exact (suffix_handleAll _ (emptied st)).trans (suffix_andThen fun _ _ => ih _)

theorem suffix_settle (st : Stage) : st.history <:+ (settle sc st).stage.history := suffix_rounds 3 st

theorem covered_handleAll (hr : Reached sc can ms st) :
    Covered sc can (roundMoments sc ms st) (handleAll sc ms st).stage := by
  induction ms generalizing st with
  | nil => exact covered_nil _ _ _
  | cons m rest ih =>
    have hhere : Covered sc can [⟨m, st⟩] (handle sc m st).stage := by
      intro x hx
      obtain rfl := List.mem_singleton.1 hx
      exact ⟨⟨rest, hr⟩, List.suffix_refl _⟩
    exact hhere.andThen (fun _ _ => suffix_handleAll rest _) fun _ hok => ih (hr.handle hok)

theorem covered_rounds {n : Nat} (hr : Reached sc can [] st) :
    Covered sc can (roundsMoments sc n st) (rounds sc n st).stage := by
  induction n generalizing st with
  | zero => exact covered_nil _ _ _
  | succ n ih =>
    exact (covered_handleAll hr.round).andThen (fun _ _ => suffix_rounds n _) fun _ hok =>
      ih (reached_handleAll hr.round hok)

theorem covered_settle (hr : Reached sc can [] st) :
    Covered sc can (settleMoments sc st) (settle sc st).stage := covered_rounds hr

/-! ## Steps of a session -/

/-- an idle application: the machine is between two rounds, and nothing waits -/
structure Idle (sc : Scene) (can : Input → Prop) (st : Stage) : Prop where
  reached : Reached sc can [] st
  queue : st.host.queue = []

theorem idle_settle (hr : Reached sc can [] st) (hok : (settle sc st).answer = .ok ()) :
    Idle sc can (settle sc st).stage := ⟨(reached_settle hr hok).1, (reached_settle hr hok).2⟩

theorem stage_settleWith (answer : Except Refusal Answer) (st : Stage) :
    (settleWith sc answer st).stage = (settle sc st).stage := by
  unfold settleWith
  rcases settle sc st with ⟨fault | _, after⟩ <;> rfl

theorem settleWith_returned {answer a : Except Refusal Answer} (hok : (settleWith sc answer st).answer = .ok a) :
    (settle sc st).answer = .ok () := by
  obtain ⟨_, hs, -⟩ := Ran.andThen_returned hok
  exact hs

theorem covered_settleWith (hr : Reached sc can [] st) (answer : Except Refusal Answer) :
    Covered sc can (settleMoments sc st) (settleWith sc answer st).stage := by
  rw [stage_settleWith]
  exact covered_settle hr

/-- what the inputs of a session are: keys, prompts at the start, and those of the steps -/
structure Allows (can : Input → Prop) (gestures : List Gesture) : Prop where
  key : ∀ k, can (.key k)
  present : ∀ name, can (.call (.present name))
  inputs : ∀ g ∈ gestures, ∀ i ∈ g.inputs, can i

variable {gestures : List Gesture}

theorem reached_press (hkey : ∀ k, can (.key k)) (hr : Reached sc can [] st) (k : Key) :
    Reached sc can [] (press sc k st).stage := by
  rw [← stage_accept_key]
  exact hr.input (hkey k)

theorem reached_call {c : Call} (hc : can (.call c)) (hr : Reached sc can [] st) :
    Reached sc can [] (run sc c st).stage := by
  rw [← stage_accept_call]
  exact hr.input hc

theorem reached_acceptAll {inputs : List Input} (hcan : ∀ i ∈ inputs, can i) (hr : Reached sc can [] st) :
    Reached sc can [] (acceptAll sc inputs st).stage := by
  induction inputs generalizing st with
  | nil => exact hr
  | cons i rest ih =>
    have h1 := hr.input (hcan i List.mem_cons_self)
    unfold acceptAll
    revert h1
    rcases accept sc i st with ⟨fault | answer | refusal, after⟩
    · exact id
    · exact id
    · exact fun h1 => ih (fun j hj => hcan j (List.mem_cons_of_mem _ hj)) h1

theorem suffix_pressAll (hr : Reached sc can [] st) (keys : List Key) :
    st.history <:+ (pressAll sc keys st).stage.history :=
  (passes_pressAll keys st hr.live.toRunning).2.1

theorem covered_pressAll (hkey : ∀ k, can (.key k)) {keys : List Key} (hr : Reached sc can [] st) :
    Covered sc can (keysMoments sc keys st) (pressAll sc keys st).stage := by
  induction keys generalizing st with
  | nil => exact covered_nil _ _ _
  | cons k rest ih =>
    unfold keysMoments pressAll
    split
    · exact covered_nil _ _ _
    · apply Covered.onward
      intro _ _
      have h1 := reached_press hkey hr k
      exact (covered_settle h1).andThen (fun _ hok => suffix_pressAll (reached_settle h1 hok).1 rest) fun _ hok =>
        ih (reached_settle h1 hok).1

theorem idle_pressAll (hkey : ∀ k, can (.key k)) {keys : List Key} (hi : Idle sc can st)
    {a : Except Refusal Answer} (hok : (pressAll sc keys st).answer = .ok a) :
    Idle sc can (pressAll sc keys st).stage := by
  induction keys generalizing st with
  | nil => exact hi
  | cons k rest ih =>
    unfold pressAll at hok ⊢
    split at hok
    · rename_i hresult
      rw [if_pos hresult]
      exact hi
    · rename_i hresult
      rw [if_neg hresult]
      obtain ⟨_, -, he₁⟩ := Ran.andThen_returned hok
      rw [he₁] at hok ⊢
      obtain ⟨_, hs, he₂⟩ := Ran.andThen_returned hok
      rw [he₂] at hok ⊢
      exact ih (idle_settle (reached_press hkey hi.reached k) hs) hok

/-- in this pause the application is idle, and the key that is pressed next takes it no further than this stage -/
structure Paused (sc : Scene) (can : Input → Prop) (p : Pause) (st : Stage) : Prop where
  idle : Idle sc can p.stage
  goes : p.stage.history <:+ st.history
  key : ∀ k, p.key? = some k → (pressAndSettle sc k p.stage).stage.history <:+ st.history

variable {ps : List Pause}

theorem Paused.later {p : Pause} (hp : Paused sc can p st) (hs : st.history <:+ st'.history) : Paused sc can p st' :=
  ⟨hp.idle, hp.goes.trans hs, fun k hk => (hp.key k hk).trans hs⟩

/-- a pause before anything but a key -/
theorem paused_here (hi : Idle sc can st) (hs : st.history <:+ st'.history) :
    ∀ p ∈ [(⟨st, none⟩ : Pause)], Paused sc can p st' := by
  intro p hin
  obtain rfl := List.mem_singleton.1 hin
  exact ⟨hi, hs, by simp⟩

/-- keys after the first one come once it is handled -/
theorem pressAll_cons {k : Key} {rest : List Key} (hresult : ¬ st.result.isSome) :
    pressAll sc (k :: rest) st = (pressAndSettle sc k st).andThen fun _ st => pressAll sc rest st := by
  rw [pressAll, if_neg hresult]
  unfold pressAndSettle Ran.andThen
  rcases press sc k st with ⟨fault | _, after⟩ <;> rfl

theorem paused_keysPauses (hkey : ∀ k, can (.key k)) {keys : List Key} (hi : Idle sc can st) :
    ∀ p ∈ keysPauses sc keys st, Paused sc can p (pressAll sc keys st).stage := by
  induction keys generalizing st with
  | nil => exact paused_here hi (List.suffix_refl _)
  | cons k rest ih =>
    have hsuffix := suffix_pressAll hi.reached (k :: rest)
    intro p hin
    unfold keysPauses at hin
    split_ifs at hin with hresult
    · exact paused_here hi hsuffix p hin
    · have hidle : ∀ a, (pressAndSettle sc k st).answer = .ok a → Idle sc can (pressAndSettle sc k st).stage := by
        intro a hok
        obtain ⟨_, -, he⟩ := Ran.andThen_returned hok
        rw [show pressAndSettle sc k st = _ from he] at hok ⊢
        exact idle_settle (reached_press hkey hi.reached k) hok
      rw [pressAll_cons hresult] at hsuffix ⊢
      rcases List.mem_cons.1 hin with rfl | hin
      · refine ⟨hi, hsuffix, ?_⟩
        rintro k' hk
        cases hk
        exact suffix_andThen fun a hok => suffix_pressAll (hidle a hok).reached rest
      · obtain ⟨a, hok, hin⟩ := Ran.mem_onward.1 hin
        rw [Ran.andThen_of_ok hok]
        exact ih (hidle a hok) p hin

theorem stage_step_key (k : Key) (st : Stage) :
    (step sc (.one (.key k)) st).stage = (pressAndSettle sc k st).stage := by
  unfold step accept pressAndSettle
  dsimp only
  rcases press sc k st with ⟨fault | _, after⟩
  · rfl
  · exact stage_settleWith _ after

/-- in the pauses of a step the application is idle -/
theorem paused_stepPauses (hkey : ∀ k, can (.key k)) {g : Gesture} (hi : Idle sc can st) :
    ∀ p ∈ stepPauses sc g st, Paused sc can p (step sc g st).stage := by
  intro p hin
  have hsuffix : st.history <:+ (step sc g st).stage.history := (passes_step g st hi.reached.live.toRunning).2.1
  cases g with
  | keys keys => exact paused_keysPauses hkey hi p hin
  | frame inputs => exact paused_here hi hsuffix p hin
  | one input =>
    cases input with
    | key k =>
      obtain rfl := List.mem_singleton.1 hin
      refine ⟨hi, hsuffix, ?_⟩
      rintro k' hk
      cases hk
      rw [stage_step_key]
    | _ => exact paused_here hi hsuffix p hin

/-- the moments of a step are reached -/
theorem covered_step (hkey : ∀ k, can (.key k)) {g : Gesture} (hg : ∀ i ∈ g.inputs, can i)
    (hr : Reached sc can [] st) : Covered sc can (stepMoments sc g st) (step sc g st).stage := by
  cases g with
  | one input =>
    apply Covered.onward
    intro a _
    exact covered_settleWith (hr.input (hg input (List.mem_singleton_self _))) a
  | keys keys => exact covered_pressAll hkey hr
  | frame inputs =>
    apply Covered.onward
    intro a _
    exact covered_settleWith (reached_acceptAll hg hr) a

/-- a step leads from an idle application to an idle one -/
theorem idle_step (hkey : ∀ k, can (.key k)) {g : Gesture} (hg : ∀ i ∈ g.inputs, can i) (hi : Idle sc can st)
    {a : Except Refusal Answer} (hok : (step sc g st).answer = .ok a) : Idle sc can (step sc g st).stage := by
  cases g with
  | one input =>
    obtain ⟨_, -, he⟩ := Ran.andThen_returned hok
    rw [show step sc (.one input) st = _ from he] at hok ⊢
    rw [stage_settleWith]
    exact idle_settle (hi.reached.input (hg input (List.mem_singleton_self _))) (settleWith_returned hok)
  | keys keys => exact idle_pressAll hkey hi hok
  | frame inputs =>
    obtain ⟨_, -, he⟩ := Ran.andThen_returned hok
    rw [show step sc (.frame inputs) st = _ from he] at hok ⊢
    rw [stage_settleWith]
    exact idle_settle (reached_acceptAll hg hi.reached) (settleWith_returned hok)

/-! ## The course of a session -/

/-- where a session goes: these moments are passed, in these pauses it is idle, and this is its last stage -/
structure Course (sc : Scene) (can : Input → Prop) (xs : List Moment) (ps : List Pause) (last : Stage) : Prop where
  moments : Covered sc can xs last
  pauses : ∀ p ∈ ps, Paused sc can p last
  last : Running sc last

theorem course_here (hi : Idle sc can st) : Course sc can [] [⟨st, none⟩] st :=
  ⟨covered_nil _ _ _, paused_here hi (List.suffix_refl _), hi.reached.live.toRunning⟩

theorem course_from (ha : Allows can gestures) (hi : Idle sc can st) :
    Course sc can (stepsMoments sc gestures st) (stepsPauses sc gestures st) (lastFrom sc gestures st) ∧
      st.history <:+ (lastFrom sc gestures st).history := by
  induction gestures generalizing st with
  | nil => exact ⟨course_here hi, List.suffix_refl _⟩
  | cons g rest ih =>
    have hrest : Allows can rest := ⟨ha.key, ha.present, fun g hg => ha.inputs g (List.mem_cons_of_mem _ hg)⟩
    have hg := ha.inputs g List.mem_cons_self
    have hcovered := covered_step ha.key hg hi.reached
    have hpauses := paused_stepPauses (g := g) ha.key hi
    obtain ⟨hrunning, hsuffix, -⟩ := passes_step g st hi.reached.live.toRunning
    have hidle := fun a => idle_step (a := a) ha.key hg hi
    unfold stepsMoments stepsPauses lastFrom
    by_cases hresult : st.result.isSome = true
    · simp only [if_pos hresult]
      exact ⟨course_here hi, List.suffix_refl _⟩
    simp only [if_neg hresult]
    revert hcovered hpauses hrunning hsuffix hidle
    rcases step sc g st with ⟨fault | answer, after⟩
    · intro hcovered hpauses hrunning hsuffix _
      simp only [Ran.onward, List.append_nil]
      exact ⟨⟨hcovered, hpauses, hrunning⟩, hsuffix⟩
    · intro hcovered hpauses hrunning hsuffix hidle
      have hafter : Idle sc can after := hidle answer rfl
      simp only [Ran.onward]
      split_ifs with hquits
      · rw [List.append_nil]
        refine ⟨⟨hcovered, ?_, hrunning⟩, hsuffix⟩
        intro p hin
        rcases List.mem_append.1 hin with hin | hin
        · exact hpauses p hin
        · exact paused_here hafter (List.suffix_refl _) p hin
      · obtain ⟨hc, hs⟩ := ih hrest hafter
        refine ⟨⟨(hcovered.later hs).append hc.moments, ?_, hc.last⟩, hsuffix.trans hs⟩
        intro p hin
        rcases List.mem_append.1 hin with hin | hin
        · exact (hpauses p hin).later hs
        · exact hc.pauses p hin

theorem reached_presentAll (sc : Scene) (hpresent : ∀ name, can (.call (.present name))) (names : List String)
    (hr : Reached sc can [] st) : Reached sc can [] (presentAll sc names st).stage := by
  induction names generalizing st with
  | nil => exact hr
  | cons name rest ih =>
    have h1 := reached_call (hpresent name) hr
    unfold presentAll Ran.andThen
    split
    · exact ih h1
    · exact h1

/-- **The course of every session**: in the pauses it is idle, every message is handled on a stage that the machine
reaches, and the last stage is that of a live application, also after a fault. -/
theorem course (sc : Scene) (names : List String) (ha : Allows can gestures) :
    Course sc can (moments sc names gestures) (pauses sc names gestures) (lastStage sc names gestures) := by
  have hstart := reached_presentAll sc ha.present names .start
  unfold moments pauses lastStage
  rcases hpresent : presentAll sc names .empty with ⟨fault | _, st⟩
  · rw [hpresent] at hstart
    exact ⟨covered_nil _ _ _, by simp [Ran.onward], hstart.live.toRunning⟩
  · rw [hpresent] at hstart
    simp only [Ran.onward, Ran.andThen_ok]
    have hcovered := covered_settle hstart
    have hrunning := (passes_settle st hstart.live.toRunning).1
    have hidle := fun hok => idle_settle hstart hok
    revert hcovered hrunning hidle
    rcases settle sc st with ⟨fault | _, after⟩
    · intro hcovered hrunning _
      rw [List.append_nil]
      exact ⟨hcovered, by simp, hrunning⟩
    · intro hcovered hrunning hidle
      obtain ⟨hc, hs⟩ := course_from ha (hidle rfl)
      exact ⟨(hcovered.later hs).append hc.moments, hc.pauses, hc.last⟩

end LinePrompt.Screen
