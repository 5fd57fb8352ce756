/-
What messages do to a stage.

Messages change the stage through calls, and through what is the host's own: it tells a prompt that is still open when
its dialog has gone (`detach`), and dismisses it. `Adds` says that such a change leaves a sound stage sound, and which
marks it makes.
-/
import LinePrompt.Proofs.Prompt.Calls
import LinePrompt.Screen.App

namespace LinePrompt.Screen

open LinePrompt.Log LinePrompt.Prompt

variable {sc : Scene} {st st' st₁ st₂ st₃ : Stage} {id : Nat} {ok : Mark → Prop}

/-! ## Marks that are added -/

/-- the later stage is sound if the earlier one is, and only marks of this kind were made in between -/
def Adds (sc : Scene) (ok : Mark → Prop) (st st' : Stage) : Prop :=
  Sound sc st → Sound sc st' ∧ ∃ ms, st'.history = ms ++ st.history ∧ ∀ m ∈ ms, ok m

theorem Adds.refl (sc : Scene) (ok : Mark → Prop) (st : Stage) : Adds sc ok st st := fun hs => ⟨hs, [], rfl, by simp⟩

theorem Adds.trans (h12 : Adds sc ok st₁ st₂) (h23 : Adds sc ok st₂ st₃) : Adds sc ok st₁ st₃ := by
  intro hs
  obtain ⟨hs₂, ms, he, hm⟩ := h12 hs
  obtain ⟨hs₃, ns, he', hn⟩ := h23 hs₂
  refine ⟨hs₃, ns ++ ms, by rw [he', he, List.append_assoc], ?_⟩
  intro m hin
  rcases List.mem_append.1 hin with hin | hin
  · exact hn m hin
  · exact hm m hin

theorem Adds.mono {ok' : Mark → Prop} (ha : Adds sc ok st st') (hok : ∀ m, ok m → ok' m) : Adds sc ok' st st' :=
  fun hs =>
    have ⟨hs', ms, he, hm⟩ := ha hs
    ⟨hs', ms, he, fun m hin => hok m (hm m hin)⟩

theorem Adds.andThen {α β : Type} {r : Ran α} {next : α → Stage → Ran β} (hr : Adds sc ok st r.stage)
    (hn : ∀ a st, Adds sc ok st (next a st).stage) : Adds sc ok st (r.andThen next).stage := by
  unfold Ran.andThen
  split
  · exact hr.trans (hn _ _)
  · exact hr

/-- what follows by calls adds marks of calls -/
theorem adds_of_follows (hf : Follows sc st st') (hok : ∀ m, m.byCall → ok m) : Adds sc ok st st' := fun hs =>
  have ⟨hs', hext⟩ := hf hs
  have ⟨ms, he, hm⟩ := hext.marks
  ⟨hs', ms, he, fun m hin => hok m (hm m hin)⟩

/-- a change of the host that moves no screen adds nothing -/
theorem adds_host {host : Host} (ok : Mark → Prop) (hstack : host.stack = st.host.stack)
    (hlen : host.screens.length = st.host.screens.length) (hdriver : ∀ k, host.driver? k = st.host.driver? k)
    (hdetached : ∀ k, host.isDetached k = st.host.isDetached k)
    (hqueue : ∀ k, .unmount k ∈ host.queue → .unmount k ∈ st.host.queue) : Adds sc ok st { st with host } := fun hs =>
  have hr := hs.toRecorded.withHost hstack (Nat.le_of_eq hlen.symm) (fun k _ => hdriver k)
    (fun k hk => (hdetached k).symm.trans hk) hqueue
  ⟨⟨hr, hs.rest⟩, [], rfl, by simp⟩

theorem adds_updateDialog {screen : Nat} {f : Modal → Modal} (hc : ∀ m, (f m).controller = m.controller)
    (hd : ∀ m, (f m).detached = m.detached) : Adds sc ok st (updateDialog st screen f) :=
  adds_host ok (Host.stack_updateModal _ _ _) (Host.length_updateModal _ _ _)
    (fun k => Host.driver?_updateModal screen k hc) (fun k => Host.isDetached_updateModal screen k hd)
    fun k hk => by rwa [Host.queue_updateModal] at hk

theorem adds_postMessage {m : Message} (hm : ∀ k, m ≠ .unmount k) : Adds sc ok st (postMessage st m) := by
  refine adds_host ok rfl rfl (fun _ => rfl) (fun _ => rfl) ?_
  intro k hk
  rcases List.mem_append.1 hk with hk | hk
  · exact hk
  · exact absurd (List.mem_singleton.1 hk).symm (hm k)

/-! ## Messages -/

theorem tame_run (sc : Scene) : Tame sc (run sc) := tame_exec sc depthLimit

theorem stage_trigger (id : Nat) (outcome : Outcome) (st : Stage) :
    (trigger sc id outcome st).stage = (close (run sc) sc id outcome st).stage := by
  unfold trigger Ran.andThen
  split <;> rfl

theorem follows_trigger (id : Nat) (outcome : Outcome) : Follows sc st (trigger sc id outcome st).stage := by
  rw [stage_trigger]
  exact follows_close (tame_run sc) id outcome st

theorem follows_pressControl (id : Nat) (w : Widget) : Follows sc st (pressControl sc id w st).stage := by
  cases w with
  | primary => exact follows_trigger id .primary
  | alternate => exact (follows_alternate (tame_run sc) id st).andThen fun _ st => .refl sc st
  | cancel => exact follows_trigger id .cancel
  | input => exact .refl sc st

theorem driver?_detach (st : Stage) (k j : Nat) : (st.detach k).host.driver? j = st.host.driver? j :=
  Host.driver?_updateModal k j fun _ => rfl

/-- the dialog of an open prompt is taken away -/
theorem recorded_detach {k : Nat} (hr : Recorded sc st) (hp : .pushed k ∈ st.history) : Recorded sc (st.detach k) where
  legal := ⟨hp, hr.legal⟩
  controllers := hr.controllers
  stack := (Host.stack_updateModal _ _ _).trans hr.stack
  current_lt := hr.current_lt
  pushed_lt j hj := by
    simpa [Stage.detach, Stage.note] using hr.pushed_lt j (by simpa [Stage.detach, Stage.note] using hj)
  driver i j hb := by
    rw [driver?_detach]
    exact hr.driver i j (by simpa [Stage.detach, Stage.note] using hb)
  shown i j hj hq := by
    rw [driver?_detach] at hj
    exact List.mem_cons_of_mem _ (hr.shown i j hj (by simpa [Stage.detach, Stage.note] using hq))
  detached j hj := by
    by_cases hk : j = k
    · exact hk ▸ List.mem_cons_self
    · have hold : st.host.isDetached j := by
        simpa [Stage.detach, Stage.note, Host.isDetached, Host.modal?_updateModal, hk] using hj
      exact List.mem_cons_of_mem _ (hr.detached j hold)
  removed j hj := by
    have hq : .unmount j ∈ st.host.queue := by simpa [Stage.detach, Stage.note] using hj
    exact (hr.removed j hq).imp fun _ hw => List.mem_cons_of_mem _ hw

/-- a prompt whose dialog is taken away is up, and nobody else is at work -/
theorem rising_detach {k : Nat} {s : Surface} (hs : Sound sc st) (hk : st.host.driver? k = some id)
    (hp : .pushed k ∈ st.history) (hphase : st.phase id = .shown s) :
    Rising sc (st.detach k).history id s [.began id (.surfaceShow s)] (st.detach k) := by
  have hr := recorded_detach hs.toRecorded hp
  have hut : ∀ i, Untouched sc st.history (.detached k :: st.history) i := fun i => hr.legal.untouched rfl
  obtain ⟨hu, -⟩ := hs.up hphase
  refine ⟨⟨hr, ?_, .refl _ _ _⟩, ?_, ?_⟩
  · intro i hi
    refine (hs.rest i).untouched (hut i) fun j hj he => hi ?_
    cases he
    -- the dialog of another open prompt is another dialog
    have hd := hs.rest i
    unfold AtRest at hd
    simp only [hj] at hd
    have hb : .began i (.surfaceShow (.dialog k)) ∈ deeds i st.history := by simp [hd.1]
    exact Option.some.inj ((hs.driver i k (mem_deeds.1 hb).1).symm.trans hk)
  · exact (hut id).phase.trans hu.phase
  · exact (hut id).deeds.trans hu.had

/-- marks made when a message is handled: those of calls, and a dialog that was removed may be detached -/
def byRemoval (gone : Nat → Prop) (m : Mark) : Prop := m.byCall ∨ ∃ k, gone k ∧ m = .detached k

theorem byRemoval_mono {gone gone' : Nat → Prop} {m : Mark} (hm : byRemoval gone m) (hg : ∀ k, gone k → gone' k) :
    byRemoval gone' m := by
  rcases hm with hm | ⟨k, hk, he⟩
  · exact Or.inl hm
  · exact Or.inr ⟨k, hg k hk, he⟩

theorem not_byRemoval_left {gone : Nat → Prop} {k : Nat} {why : Departure} (hw : (Mark.left k why).byCall = false) :
    ¬ byRemoval gone (.left k why) := by
  rintro (hb | ⟨j, -, he⟩)
  · rw [hw] at hb
    exact absurd hb Bool.false_ne_true
  · cases he

theorem adds_unmountDialog {k : Nat} {modal : Modal} (hm : st.host.modal? k = some modal)
    (hp : .pushed k ∈ st.history) : Adds sc (byRemoval (· = k)) st (unmountDialog sc k modal st).stage := by
  unfold unmountDialog
  dsimp only
  split_ifs with hopen
  swap
  · exact .refl _ _ _
  intro hs
  have hk : st.host.driver? k = some modal.controller := Host.driver?_of_modal? hm
  obtain ⟨s, hphase⟩ : ∃ s, st.phase modal.controller = .shown s := by
    cases hp : st.phase modal.controller with
    | shown s => exact ⟨s, rfl⟩
    | _ => simp [hp, Phase.isOpen] at hopen
  have h1 := (rising_detach hs hk hp hphase).log .debug fun _ =>
    ⟨.debug, dialogLogger,
      .ok ("prompt " ++ Text.quoted ((st.detach k).request sc modal.controller).title ++ " " ++ "removed by host")⟩
  have hl := h1.leads_close (tame_run sc) (o := .dismissed) fun j hj => ?_
  swap
  · subst hj
    refine ⟨?_, fun _ => rfl⟩
    have hd := (hs.up hphase).2 j rfl
    exact (suffix_log _ _).subset (List.mem_cons_of_mem _ hd.1)
  obtain ⟨hsound, hext⟩ := hl.stage
  obtain ⟨ms, he, hms⟩ := hext.marks
  rw [stage_trigger]
  refine ⟨hsound, ms ++ [.detached k], by rw [List.append_assoc]; exact he, ?_⟩
  intro m hin
  rcases List.mem_append.1 hin with hin | hin
  · exact Or.inl (hms m hin)
  · exact Or.inr ⟨k, rfl, List.mem_singleton.1 hin⟩

theorem adds_handle (message : Message) (hgone : ∀ k, message = .unmount k → .pushed k ∈ st.history) :
    Adds sc (byRemoval fun k => message = .unmount k) st (handle sc message st).stage := by
  have call {st st' : Stage} (hf : Follows sc st st') :
      Adds sc (byRemoval fun k => message = .unmount k) st st' := adds_of_follows hf fun _ hm => Or.inl hm
  cases message with
  | mount k =>
    unfold handle
    dsimp only
    split
    · unfold mountDialog
      dsimp only
      split_ifs
      · split
        · exact .refl _ _ _
        · exact adds_updateDialog (fun _ => rfl) fun _ => rfl
      · exact .refl _ _ _
    · exact .refl _ _ _
  | changed k value =>
    unfold handle
    dsimp only
    split
    · exact call (follows_setText _ value)
    · exact .refl _ _ _
  | submitted k value =>
    unfold handle
    dsimp only
    split
    · exact call ((follows_setText _ value).trans (follows_trigger _ .primary))
    · exact .refl _ _ _
  | pressed k button =>
    unfold handle
    dsimp only
    split
    · split
      · exact call ((follows_setText _ _).trans (follows_pressControl _ button))
      · exact .refl _ _ _
    · exact .refl _ _ _
  | unmount k =>
    unfold handle
    dsimp only
    split
    · rename_i modal hm
      refine (adds_unmountDialog hm (hgone k rfl)).mono fun m hok => byRemoval_mono hok ?_
      rintro j rfl
      rfl
    · exact .refl _ _ _

theorem adds_handleAll (ms : List Message) (hgone : ∀ k, .unmount k ∈ ms → .pushed k ∈ st.history) :
    Adds sc (byRemoval fun k => .unmount k ∈ ms) st (handleAll sc ms st).stage := by
  induction ms generalizing st with
  | nil => exact .refl _ _ _
  | cons m rest ih =>
    have h1 : Adds sc (byRemoval fun k => .unmount k ∈ m :: rest) st (handle sc m st).stage :=
      (adds_handle m fun k hk => hgone k (hk ▸ List.mem_cons_self)).mono fun _ hok =>
        byRemoval_mono hok fun k hk => hk ▸ List.mem_cons_self
    intro hs
    unfold handleAll Ran.andThen
    split
    · obtain ⟨-, ns, he, -⟩ := h1 hs
      have hgone₁ : ∀ k, .unmount k ∈ rest → .pushed k ∈ (handle sc m st).stage.history := by
        intro k hk
        rw [he]
        exact List.mem_append_right _ (hgone k (List.mem_cons_of_mem _ hk))
      have h2 := (ih hgone₁).mono fun _ hok => byRemoval_mono hok fun k hk => List.mem_cons_of_mem m hk
      exact (h1.trans h2) hs
    · exact h1 hs

end LinePrompt.Screen
