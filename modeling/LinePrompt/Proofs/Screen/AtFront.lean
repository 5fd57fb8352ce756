/-
The dialog of an open prompt on top of an idle application.

Such a dialog can be used. It is mounted, since a dialog that is not waits for the message to appear (`Appears`); its
prompt is up on it, and the host has not taken it away (`AtFront`). Closing the prompt takes the dialog off the stack
first, and then runs the handlers (`close_atFront`).
-/
import LinePrompt.Proofs.Prompt.Errands
import LinePrompt.Proofs.Screen.Inputs
import LinePrompt.Proofs.Screen.Moments

namespace LinePrompt.Screen

open LinePrompt.Log LinePrompt.Prompt

variable {sc : Scene} {can : Input → Prop} {st st' : Stage} {ms rest : List Message} {x : Message} {m : Modal}
  {id k : Nat} {sets : Prop} {again : Caller} {o : Outcome}

/-! ## Dialogs that are still to appear -/

/-- a dialog that is not mounted yet waits to be told to appear -/
def Appears (ms : List Message) (st : Stage) : Prop :=
  ∀ k m, st.host.modal? k = some m → m.mounted = false → .mount k ∈ ms ∨ .mount k ∈ st.host.queue

theorem Appears.sends (h : Appears ms st) (hs : Recorded sc st) (hsend : Sends sets st st') : Appears ms st' := by
  obtain ⟨new, hh, hq, -⟩ := hsend.posted
  intro k m hm hmounted
  rw [hq]
  by_cases hk : k < st.host.screens.length
  · obtain ⟨m₀, hm₀, -, hmounted₀, -⟩ := Host.modal?_of_content? (hsend.old k hk) hm
    exact (h k m₀ hm₀ (hmounted₀.trans hmounted)).imp_right (List.mem_append_left _)
  · obtain ⟨-, -, hpushed⟩ := hsend.new k m (Nat.le_of_not_lt hk) hm
    rw [hh] at hpushed
    rcases List.mem_append.1 hpushed with hin | hin
    · exact Or.inr (List.mem_append_right _ (mount_mem_mail.2 hin))
    · exact absurd (hs.pushed_lt k hin) hk

theorem Appears.touches (h : Appears ms st) (ht : Touches k st st') : Appears ms st' := by
  obtain ⟨_, m', xs, -, -, hm', -, hmounted', hq, -⟩ := ht.field
  intro j mj hj hmounted
  by_cases hjk : j = k
  · obtain rfl : m' = mj := Option.some.inj (hm'.symm.trans (hjk ▸ hj))
    rw [hmounted'] at hmounted
    cases hmounted
  · rw [hq]
    exact (h j mj (ht.others j hjk ▸ hj) hmounted).imp_right (List.mem_append_left _)

/-- the message of a screen that appears mounts it, if it is a dialog -/
theorem Appears.mount (h : Appears (.mount k :: rest) st) (hok : (handle sc (.mount k) st).answer = .ok ()) :
    Appears rest (handle sc (.mount k) st).stage := by
  have hother : ∀ j m, j ≠ k → st.host.modal? j = some m → m.mounted = false →
      .mount j ∈ rest ∨ .mount j ∈ st.host.queue := by
    intro j m hj hm hmounted
    refine (h j m hm hmounted).imp_left fun hin => (List.mem_cons.1 hin).resolve_left ?_
    rintro he
    exact hj (Message.mount.inj he)
  intro j mj hj hmounted
  rcases hmodal : st.host.modal? k with _ | m
  · have hsame : (handle sc (.mount k) st).stage = st := by simp [handle, hmodal]
    rw [hsame] at hj ⊢
    exact hother j mj (by rintro rfl; simp [hmodal] at hj) hj hmounted
  · rw [(mount_returned hmodal hok).2] at hj ⊢
    simp only [updateDialog, Host.modal?_updateModal, Host.queue_updateModal] at hj ⊢
    split_ifs at hj with hjk
    · rw [hmodal] at hj
      cases hj
      cases hmounted
    · exact hother j mj hjk hj hmounted

theorem Reached.appears (hr : Reached sc can ms st) : Appears ms st := by
  induction hr with
  | start =>
    intro k m hm
    simp [Stage.empty, Host.empty, Host.modal?] at hm
  | @input i st hr _ ih =>
    rcases accept_cases sc i st with hsend | ⟨k, ht⟩
    · exact ih.sends hr.live.toRecorded hsend
    · exact ih.touches ht
  | round _ ih =>
    intro k m hm hmounted
    exact Or.inl ((ih k m hm hmounted).resolve_left List.not_mem_nil)
  | @handle x rest st hr hok ih =>
    by_cases hx : ∃ k, x = .mount k
    · obtain ⟨k, rfl⟩ := hx
      exact ih.mount hok
    · have hrest : Appears rest st := by
        intro k m hm hmounted
        refine (ih k m hm hmounted).imp_left fun hin => (List.mem_cons.1 hin).resolve_left ?_
        rintro rfl
        exact hx ⟨k, rfl⟩
      exact hrest.sends hr.live.toRecorded (sends_handle (fun k he => hx ⟨k, he⟩) st)

/-! ## The dialog at the front -/

/-- on top of an idle application stands the dialog of an open prompt -/
structure AtFront (sc : Scene) (can : Input → Prop) (st : Stage) (k : Nat) (m : Modal) : Prop where
  idle : Idle sc can st
  top : st.host.top? = some k
  modal : st.host.modal? k = some m
  isOpen : (st.phase m.controller).isOpen

namespace AtFront

variable (hf : AtFront sc can st k m)

include hf

theorem driver : st.host.driver? k = some m.controller := Host.driver?_of_modal? hf.modal

theorem sound : Sound sc st := hf.idle.reached.live.toSound

theorem pushed : .pushed k ∈ st.history :=
  pushed_of_mem_stackAt (hf.sound.stack ▸ List.mem_of_mem_head? hf.top)

theorem came : .began m.controller (.surfaceShow (.dialog k)) ∈ st.history :=
  hf.sound.shown m.controller k hf.driver hf.pushed

/-- its prompt is up on it -/
theorem shown : st.phase m.controller = .shown (.dialog k) := by
  obtain ⟨s, hs⟩ := Phase.isOpen_iff.1 hf.isOpen
  have hd : .began m.controller (.surfaceShow (.dialog k)) ∈ deeds m.controller st.history :=
    mem_deeds_of_began hf.came
  have ha := hf.sound.rest m.controller
  unfold AtRest at ha
  rw [← hf.sound.phase_eq, hs] at ha
  rw [ha.1] at hd
  cases List.mem_singleton.1 hd
  exact hs

/-- the host has not taken it away -/
theorem attached : m.detached = false := by
  by_contra hdet
  have hmark : st.host.isDetached k := by
    rw [Host.isDetached, hf.modal]
    simpa using hdet
  exact ((hf.sound.up hf.shown).2 k rfl).2 (hf.sound.detached k hmark)

theorem mounted : m.mounted = true := by
  by_contra hmounted
  rcases hf.idle.reached.appears k m hf.modal (by simpa using hmounted) with hin | hin
  · cases hin
  · rw [hf.idle.queue] at hin
    cases hin

theorem topDialog : topDialog? st = some (k, m) := by
  simp [topDialog?, hf.top, hf.modal, hf.mounted]

theorem lt : k < st.host.screens.length := Host.lt_of_modal? hf.modal

theorem isDetached : st.host.isDetached k = false := by
  rw [Host.isDetached, hf.modal]
  simpa using hf.attached

/-- no other prompt is up on it -/
theorem alone {i : Nat} (hi : st.phase i = .shown (.dialog k)) : i = m.controller := by
  obtain ⟨hu, hpushed⟩ := hf.sound.up hi
  have hcame : .began i (.surfaceShow (.dialog k)) ∈ deeds i st.history := by simp [hu.had]
  exact Option.some.inj ((hf.sound.driver i k (mem_deeds.1 hcame).1).symm.trans hf.driver)

end AtFront

theorem phase_setText (st : Stage) (i j : Nat) (text : String) : (st.setText i text).phase j = st.phase j := by
  unfold Stage.setText
  split_ifs
  · rfl
  · show ((st.update i ({ · with text })).controller j).phase = _
    rw [controller_update]
    split_ifs <;> rfl

/-- a prompt with another one to follow, whatever closes it -/
def sequelScene : Scene where
  request name :=
    if name = "a" then
      { Request.titled "A" with onPrimary := [.call (.prompt "a" .cancel)], onClosed := some [.call (.present "b")] }
    else .titled "B"
  surface _ := ⟨[], []⟩
  threshold := 10
  cancelLabel := "Cancel"
  escapeDismisses := true

/-- the prompt is up, and nothing waits -/
def sequelStage : Stage := (settle sequelScene (accept sequelScene (.call (.present "a")) .empty).stage).stage

def sequelDialog : Modal := ⟨0, false, true, .ofText "" 0, .input⟩

theorem sequel_atFront : AtFront sequelScene (fun _ => True) sequelStage 0 sequelDialog where
  idle := idle_settle (.input .start trivial) (by cbv)
  top := by cbv
  modal := by cbv
  isOpen := by cbv

/-! ## Closing the prompt of the dialog on top -/

/-- the stage on which the handlers of a closing run: the dialog has left -/
def takenOff (sc : Scene) (id k : Nat) (o : Outcome) (st : Stage) : Stage :=
  (((leaving sc id (.dialog k) o st).start.note (.began id (.surfaceClose (.dialog k)))).pop (.closed id)).note
    (.ended id (.surfaceClose (.dialog k)))

/-- the handlers of a closing -/
def handlersOf (r : Request) (o : Outcome) (t : String) : List Callback :=
  [.handler o t, .onClosed].filter fun cb => (handlerScript r cb).isSome

theorem host_leaving (st : Stage) (id : Nat) (s : Surface) (o : Outcome) :
    (leaving sc id s o st).start.host = st.host := by
  rw [leaving, Stage.debug, host_log]
  rfl

/-- closing a prompt that is up on a dialog, by what closing the dialog does -/
theorem close_dialog_eq (hp : st.phase id = .shown (.dialog k)) :
    close again sc id o st =
      (inTurn again sc id (st.request sc id) (handlersOf (st.request sc id) o (st.text id))
        ((closeDialog sc id k
            ((leaving sc id (.dialog k) o st).start.note (.began id (.surfaceClose (.dialog k))))).note
          (.ended id (.surfaceClose (.dialog k))))).andThen fun _ st => ⟨.ok true, st⟩ := by
  rw [close_eq hp]
  rfl

/-- Closing the prompt of the dialog on top takes the dialog off the stack, and then runs the handlers. -/
theorem close_atFront (hp : st.phase id = .shown (.dialog k)) (htop : st.host.top? = some k)
    (hdet : st.host.isDetached k = false) :
    close again sc id o st =
      (inTurn again sc id (st.request sc id) (handlersOf (st.request sc id) o (st.text id))
        (takenOff sc id k o st)).andThen fun _ st => ⟨.ok true, st⟩ := by
  have hhost : ((leaving sc id (.dialog k) o st).start.note (.began id (.surfaceClose (.dialog k)))).host = st.host :=
    host_leaving st id (.dialog k) o
  have hleaves :
      closeDialog sc id k ((leaving sc id (.dialog k) o st).start.note (.began id (.surfaceClose (.dialog k)))) =
      ((leaving sc id (.dialog k) o st).start.note (.began id (.surfaceClose (.dialog k)))).pop (.closed id) := by
    unfold closeDialog
    rw [hhost, if_neg (by rw [show (st.host.modal? k).any (·.detached) = false from hdet]; simp), if_pos htop]
  rw [close_dialog_eq hp, hleaves]
  rfl

end LinePrompt.Screen
