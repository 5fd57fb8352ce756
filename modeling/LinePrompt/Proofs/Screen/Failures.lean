/-
What ends a session early.

Faults arise in scripts, and where a dialog comes to appear: its labels cannot be shown, or it has left the stack by
then. The last two are faults of moments. A moment that fails ends the session on the stage that the moment leaves, and
a fault that is not a script's is that of a moment (`ends_playSession`). So the application looks for a field in vain
just if a dialog comes to appear too late (`crash_noField_iff`). A session without a fault is shut down from a pause
(`pause_of_uncrashed`).
-/
import LinePrompt.Proofs.Prompt.Faults
import LinePrompt.Proofs.Screen.Moments

namespace LinePrompt.Prompt

open LinePrompt.Screen

variable {α β : Type} {sc : Scene} {st last : Stage} {id depth : Nat} {o : Outcome} {f : Fault} {e : Errand}

/-! ## Faults of scripts -/

/-- is it a fault of a script, and not of a dialog that comes to appear? -/
def Fault.isOfScript : Fault → Bool
  | .noField => false
  | .unshowable _ => false
  | _ => true

/-- a fault of this computation is a script's -/
def Ran.Scripted (r : Ran α) : Prop := ∀ f, r.answer = .error f → f.isOfScript

theorem Ran.Scripted.of_ok (a : α) (st : Stage) : (Ran.mk (.ok a) st).Scripted := by
  intro f hf
  cases hf

theorem Ran.Scripted.andThen {r : Ran α} {next : α → Stage → Ran β} (hr : r.Scripted)
    (hn : ∀ a st, (next a st).Scripted) : (r.andThen next).Scripted := by
  rcases r with ⟨fault | a, st⟩
  · rintro f hf
    cases hf
    exact hr fault rfl
  · exact hn a st

theorem Breaks.isOfScript (hb : Breaks sc depth e f last) : f.isOfScript := by
  induction hb with
  | raised => rfl
  | failed _ _ _ fails => cases fails <;> rfl
  | passed _ _ _ _ _ ih => exact ih

theorem scripted_run (c : Call) (st : Stage) : (run sc c st).Scripted := by
  intro f hf
  rcases exec_eq_error.1 (show run sc c st = ⟨.error f, (run sc c st).stage⟩ by rw [← hf]) with
    hfails | ⟨_, e, _, _, hrun⟩
  · cases hfails <;> rfl
  · exact (run_eq_error_iff.1 hrun).isOfScript

theorem scripted_close (id : Nat) (o : Outcome) (st : Stage) : (close (run sc) sc id o st).Scripted := by
  intro f hf
  obtain ⟨_, _, hrun⟩ :=
    close_eq_error.1 (show close (run sc) sc id o st = ⟨.error f, (close (run sc) sc id o st).stage⟩ by rw [← hf])
  exact (run_eq_error_iff.1 hrun).isOfScript

end LinePrompt.Prompt

namespace LinePrompt.Screen

open LinePrompt.Log LinePrompt.Prompt

variable {α β : Type} {sc : Scene} {st : Stage} {m : Message} {k : Nat} {f : Fault}

theorem scripted_trigger (id : Nat) (o : Outcome) (st : Stage) : (trigger sc id o st).Scripted :=
  (scripted_close id o st).andThen fun _ st => .of_ok () st

theorem scripted_pressControl (id : Nat) (w : Widget) (st : Stage) : (pressControl sc id w st).Scripted := by
  cases w with
  | input => exact .of_ok () st
  | primary => exact scripted_trigger id .primary st
  | cancel => exact scripted_trigger id .cancel st
  | alternate =>
    have halternate : (Prompt.alternate (run sc) sc id st).Scripted := by
      unfold Prompt.alternate
      split_ifs
      · exact scripted_close id .alternate st
      · exact .of_ok false _
    exact halternate.andThen fun _ st => .of_ok () st

/-- all messages bring about faults of scripts only, but for the one that makes a dialog appear -/
theorem scripted_handle (hm : ∀ k, m ≠ .mount k) (st : Stage) : (handle sc m st).Scripted := by
  unfold handle
  cases m with
  | mount k => exact absurd rfl (hm k)
  | changed k value =>
    dsimp only
    split
    · exact .of_ok () _
    · exact .of_ok () st
  | submitted k value =>
    dsimp only
    split
    · exact scripted_trigger _ .primary _
    · exact .of_ok () st
  | pressed k w =>
    dsimp only
    split
    · split_ifs
      · exact scripted_pressControl _ w _
      · exact .of_ok () st
    · exact .of_ok () st
  | unmount k =>
    dsimp only
    split
    · unfold unmountDialog
      dsimp only
      split_ifs
      · exact scripted_trigger _ .dismissed _
      · exact .of_ok () st
    · exact .of_ok () st

theorem scripted_press (key : Key) (st : Stage) : (press sc key st).Scripted := by
  unfold press
  split
  · cases key with
    | escape =>
      simp only [keyOn]
      split_ifs
      · exact scripted_trigger _ .dismissed st
      · exact .of_ok () st
    | enter =>
      simp only [keyOn]
      split_ifs
      · exact .of_ok () _
      · exact .of_ok () _
    | edit e =>
      simp only [keyOn]
      split_ifs
      · exact .of_ok () _
      · exact .of_ok () st
    | _ => exact .of_ok () _
  · exact .of_ok () st

/-- inputs bring about faults of scripts only; that of a call from outside is the caller's -/
theorem scripted_accept (i : Input) (st : Stage) : (accept sc i st).Scripted := by
  unfold accept
  cases i with
  | key key => exact (scripted_press key st).andThen fun _ st => .of_ok _ st
  | _ =>
    dsimp only
    (repeat' split) <;> exact .of_ok _ _

theorem scripted_acceptAll (inputs : List Input) (st : Stage) : (acceptAll sc inputs st).Scripted := by
  induction inputs generalizing st with
  | nil => exact .of_ok _ st
  | cons i rest ih =>
    refine (scripted_accept i st).andThen fun answer st => ?_
    cases answer with
    | ok answer => exact ih st
    | error refusal => exact .of_ok _ st

theorem scripted_presentAll (names : List String) (st : Stage) : (presentAll sc names st).Scripted := by
  induction names generalizing st with
  | nil => exact .of_ok () st
  | cons name rest ih => exact (scripted_run (.present name) st).andThen fun _ st => ih st

/-- nor do the removals at the end bring about others -/
theorem scripted_removeAll (ks : List Nat) (st : Stage) : ∀ f, (removeAll sc ks st).1 = some f → f.isOfScript := by
  induction ks generalizing st with
  | nil => simp [removeAll]
  | cons k rest ih =>
    have hhandle : (handle sc (.unmount k) st).Scripted := scripted_handle (by simp) st
    intro f hf
    rcases hran : handle sc (.unmount k) st with ⟨fault | _, after⟩
    · rw [hran] at hhandle
      obtain rfl : fault = f := by simpa [removeAll, hran] using hf
      exact hhandle fault rfl
    · exact ih after f (by simpa [removeAll, hran] using hf)

/-! ## Moments that fail -/

/-- the fault that handling the message ends by -/
def Moment.Fails (sc : Scene) (x : Moment) (f : Fault) : Prop := (handle sc x.message x.stage).answer = .error f

/-- a dialog comes to appear that has left the stack -/
def Moment.Late (x : Moment) : Prop :=
  ∃ k i, x.message = .mount k ∧ x.stage.host.driver? k = some i ∧ k ∉ x.stage.host.stack

/-- only a dialog that appears too late looks for its field in vain -/
theorem fails_noField_iff {x : Moment} : x.Fails sc .noField ↔ x.Late := by
  rcases x with ⟨m, st⟩
  unfold Moment.Fails Moment.Late
  dsimp only
  by_cases hm : ∃ k, m = .mount k
  · obtain ⟨k, rfl⟩ := hm
    have hmounts := mounts_handle sc k st
    generalize handle sc (.mount k) st = r at hmounts ⊢
    cases hmounts with
    | notice hplain => simp [Host.driver?, hplain]
    | late hmodal hoff => simp [Host.driver?_of_modal? hmodal, hoff]
    | unshowable _ hon => simp [hon]
    | mounted _ hon => simp [hon]
  · refine iff_of_false (fun hf => ?_) ?_
    · exact Bool.false_ne_true (scripted_handle (fun k he => hm ⟨k, he⟩) st _ hf)
    · rintro ⟨k, i, he, -⟩
      exact hm ⟨k, he⟩

/-- A computation in which these messages are handled: one that fails ends it, and its fault is that of one that fails
or else a script's. -/
structure Told (sc : Scene) (xs : List Moment) (r : Ran α) : Prop where
  ends : ∀ x ∈ xs, ∀ f, x.Fails sc f → r.answer = .error f ∧ r.stage = x.after sc
  source : ∀ f, r.answer = .error f → f.isOfScript ∨ ∃ x ∈ xs, x.Fails sc f

variable {xs : List Moment}

theorem Ran.Scripted.told {r : Ran α} (hr : r.Scripted) : Told sc [] r :=
  ⟨by simp, fun f hf => Or.inl (hr f hf)⟩

/-- what is handled later is handled only if nothing failed -/
theorem Told.andThen {r : Ran α} {next : α → Stage → Ran β} {later : α → Stage → List Moment} (hr : Told sc xs r)
    (hn : ∀ a, r.answer = .ok a → Told sc (later a r.stage) (next a r.stage)) :
    Told sc (xs ++ r.onward later) (r.andThen next) := by
  rcases r with ⟨fault | a, st⟩
  · refine ⟨fun x hx f hf => ?_, ?_⟩
    · obtain ⟨he, hstage⟩ := hr.ends x (by simpa [Ran.onward] using hx) f hf
      cases he
      exact ⟨rfl, hstage⟩
    · rintro f hf
      cases hf
      simpa [Ran.onward] using hr.source fault rfl
  · have hnext := hn a rfl
    refine ⟨fun x hx f hf => ?_, fun f hf => ?_⟩
    · rcases List.mem_append.1 hx with hx | hx
      · cases (hr.ends x hx f hf).1
      · exact hnext.ends x hx f hf
    · refine (hnext.source f hf).imp_right ?_
      rintro ⟨x, hx, hfails⟩
      exact ⟨x, List.mem_append_right _ hx, hfails⟩

theorem Ran.Scripted.told_andThen {r : Ran α} {next : α → Stage → Ran β} {later : α → Stage → List Moment}
    (hr : r.Scripted) (hn : ∀ a, r.answer = .ok a → Told sc (later a r.stage) (next a r.stage)) :
    Told sc (r.onward later) (r.andThen next) := (Ran.Scripted.told hr).andThen hn

/-- what follows without another message changes nothing about that -/
theorem Told.return {r : Ran α} (hr : Told sc xs r) (answer : β) :
    Told sc xs (r.andThen fun _ st => ⟨.ok answer, st⟩) := by
  have hnone : r.onward (fun _ _ => ([] : List Moment)) = [] := by
    unfold Ran.onward
    split <;> rfl
  have hadded : Told sc (xs ++ r.onward fun _ _ => []) (r.andThen fun _ st => ⟨.ok answer, st⟩) :=
    hr.andThen fun _ _ => Ran.Scripted.told (.of_ok answer _)
  rwa [hnone, List.append_nil] at hadded

theorem told_handle (m : Message) (st : Stage) : Told sc [⟨m, st⟩] (handle sc m st) := by
  refine ⟨fun x hx f hf => ?_, fun f hf => Or.inr ⟨_, List.mem_singleton_self _, hf⟩⟩
  obtain rfl := List.mem_singleton.1 hx
  exact ⟨hf, rfl⟩

theorem told_handleAll (ms : List Message) (st : Stage) : Told sc (roundMoments sc ms st) (handleAll sc ms st) := by
  induction ms generalizing st with
  | nil => exact Ran.Scripted.told (.of_ok () st)
  | cons m rest ih => exact (told_handle m st).andThen fun _ _ => ih _

theorem told_rounds (n : Nat) (st : Stage) : Told sc (roundsMoments sc n st) (rounds sc n st) := by
  induction n generalizing st with
  | zero => exact Ran.Scripted.told (.of_ok () st)
  | succ n ih => exact (told_handleAll _ _).andThen fun _ _ => ih _

theorem told_settle (st : Stage) : Told sc (settleMoments sc st) (settle sc st) := told_rounds 3 st

theorem told_pressAll (keys : List Key) (st : Stage) : Told sc (keysMoments sc keys st) (pressAll sc keys st) := by
  induction keys generalizing st with
  | nil => exact Ran.Scripted.told (.of_ok _ st)
  | cons k rest ih =>
    unfold keysMoments pressAll
    split_ifs
    · exact Ran.Scripted.told (.of_ok _ st)
    · exact Ran.Scripted.told_andThen (scripted_press k st) fun _ _ => (told_settle _).andThen fun _ _ => ih _

theorem told_step (g : Gesture) (st : Stage) : Told sc (stepMoments sc g st) (step sc g st) := by
  cases g with
  | one input => exact Ran.Scripted.told_andThen (scripted_accept input st) fun a _ => (told_settle _).return a
  | keys keys => exact told_pressAll keys st
  | frame inputs => exact Ran.Scripted.told_andThen (scripted_acceptAll inputs st) fun a _ => (told_settle _).return a

/-! ## Sessions -/

/-- the same of a session that is shut down from this stage, with this fault if it ends by one -/
structure Ends (sc : Scene) (xs : List Moment) (last : Stage) (crash : Option Fault) : Prop where
  ends : ∀ x ∈ xs, ∀ f, x.Fails sc f → crash = some f ∧ last = x.after sc
  source : ∀ f, crash = some f → f.isOfScript ∨ ∃ x ∈ xs, x.Fails sc f

/-- a session that is shut down in a pause has no fault but one of a removal -/
theorem ends_here (sc : Scene) (seen st : Stage) : Ends sc [] st (conclude sc none seen st).crash :=
  ⟨by simp, fun f hf => Or.inl (scripted_removeAll st.host.stack st f hf)⟩

theorem Told.ends_of_error {r : Ran α} (hr : Told sc xs r) (hf : r.answer = .error f) (seen : Stage) :
    Ends sc xs r.stage (conclude sc (some f) seen r.stage).crash := by
  refine ⟨fun x hx f' hfails => ?_, ?_⟩
  · obtain ⟨he, hstage⟩ := hr.ends x hx f' hfails
    obtain rfl : f = f' := Except.error.inj (hf.symm.trans he)
    exact ⟨rfl, hstage⟩
  · rintro f' hcrash
    obtain rfl : f = f' := Option.some.inj hcrash
    exact hr.source f hf

/-- after messages none of which failed a session ends as what follows does -/
theorem Told.ends_of_ok {r : Ran α} {a : α} {ys : List Moment} {last : Stage} {crash : Option Fault}
    (hr : Told sc xs r) (hok : r.answer = .ok a) (he : Ends sc ys last crash) : Ends sc (xs ++ ys) last crash := by
  refine ⟨fun x hx f hf => ?_, fun f hf => ?_⟩
  · rcases List.mem_append.1 hx with hx | hx
    · cases hok.symm.trans (hr.ends x hx f hf).1
    · exact he.ends x hx f hf
  · refine (he.source f hf).imp_right ?_
    rintro ⟨x, hx, hfails⟩
    exact ⟨x, List.mem_append_right _ hx, hfails⟩

theorem ends_continueWith (gestures : List Gesture) (st : Stage) :
    Ends sc (stepsMoments sc gestures st) (lastFrom sc gestures st) (continueWith sc gestures st).crash := by
  induction gestures generalizing st with
  | nil => exact ends_here sc st st
  | cons g rest ih =>
    have htold : Told sc (stepMoments sc g st) (step sc g st) := told_step g st
    unfold stepsMoments lastFrom continueWith
    by_cases hresult : st.result.isSome = true
    · simp only [if_pos hresult]
      exact ends_here sc st st
    simp only [if_neg hresult]
    revert htold
    rcases step sc g st with ⟨fault | answer, after⟩
    · intro htold
      simpa only [Ran.onward, List.append_nil] using htold.ends_of_error rfl st
    · intro htold
      simp only [Ran.onward]
      split_ifs
      · exact htold.ends_of_ok rfl (ends_here sc after after)
      · exact htold.ends_of_ok rfl (ih after)

/-- **A moment that fails ends the session**, on the stage that it leaves; and any other fault is a script's. -/
theorem ends_playSession (sc : Scene) (names : List String) (gestures : List Gesture) :
    Ends sc (moments sc names gestures) (lastStage sc names gestures) (playSession sc names gestures).crash := by
  have htold : Told sc ((presentAll sc names .empty).onward fun _ st => settleMoments sc st)
      ((presentAll sc names .empty).andThen fun _ st => settle sc st) :=
    Ran.Scripted.told_andThen (scripted_presentAll names .empty) fun _ _ => told_settle _
  unfold moments lastStage playSession
  revert htold
  rcases presentAll sc names .empty with ⟨fault | _, st⟩
  · intro htold
    exact htold.ends_of_error rfl .empty
  · simp only [Ran.onward, Ran.andThen_ok]
    rcases settle sc st with ⟨fault | _, after⟩
    · intro htold
      simpa only [List.append_nil] using htold.ends_of_error rfl .empty
    · intro htold
      exact htold.ends_of_ok rfl (ends_continueWith gestures after)

/-- the application looks for a field in vain just if a dialog comes to appear too late -/
theorem crash_noField_iff {names : List String} {gestures : List Gesture} :
    (playSession sc names gestures).crash = some .noField ↔ ∃ x ∈ moments sc names gestures, x.Late := by
  have hends := ends_playSession sc names gestures
  constructor
  · intro hcrash
    obtain ⟨x, hx, hfails⟩ := (hends.source _ hcrash).resolve_left (by simp [Fault.isOfScript])
    exact ⟨x, hx, fails_noField_iff.1 hfails⟩
  · rintro ⟨x, hx, hlate⟩
    exact (hends.ends x hx _ (fails_noField_iff.2 hlate)).1

/-- nothing is handled after such a moment -/
theorem last_of_late {names : List String} {gestures : List Gesture} {x : Moment}
    (hx : x ∈ moments sc names gestures) (hlate : x.Late) : lastStage sc names gestures = x.stage := by
  obtain ⟨-, hlast⟩ := (ends_playSession sc names gestures).ends x hx _ (fails_noField_iff.2 hlate)
  obtain ⟨k, i, hm, hd, hoff⟩ := hlate
  obtain ⟨modal, hmodal, -⟩ := Option.map_eq_some_iff.1 hd
  rw [hlast, Moment.after, hm]
  have hmounts := mounts_handle sc k x.stage
  generalize handle sc (.mount k) x.stage = r at hmounts ⊢
  cases hmounts with
  | mounted _ hon => exact absurd hon hoff
  | _ => rfl

/-! ## Sessions without a fault -/

theorem pause_lastFrom {gestures : List Gesture} (hcrash : (continueWith sc gestures st).crash = none) :
    ∃ p ∈ stepsPauses sc gestures st, p.stage = lastFrom sc gestures st := by
  induction gestures generalizing st with
  | nil => exact ⟨_, List.mem_singleton_self _, rfl⟩
  | cons g rest ih =>
    unfold continueWith at hcrash
    unfold stepsPauses lastFrom
    by_cases hresult : st.result.isSome = true
    · simp only [if_pos hresult]
      exact ⟨_, List.mem_singleton_self _, rfl⟩
    simp only [if_neg hresult] at hcrash ⊢
    revert hcrash
    rcases step sc g st with ⟨fault | answer, after⟩
    · simp [conclude]
    · intro hcrash
      simp only [Ran.onward]
      split_ifs at hcrash ⊢
      · exact ⟨_, List.mem_append_right _ (List.mem_singleton_self _), rfl⟩
      · obtain ⟨p, hp, hstage⟩ := ih hcrash
        exact ⟨p, List.mem_append_right _ hp, hstage⟩

/-- a session without a fault is shut down from a pause -/
theorem pause_of_uncrashed {names : List String} {gestures : List Gesture}
    (hcrash : (playSession sc names gestures).crash = none) :
    ∃ p ∈ pauses sc names gestures, p.stage = lastStage sc names gestures := by
  unfold playSession at hcrash
  unfold pauses lastStage
  revert hcrash
  rcases (presentAll sc names .empty).andThen fun _ st => settle sc st with ⟨fault | _, st⟩
  · simp [conclude]
  · exact pause_lastFrom

end LinePrompt.Screen
