/-
Stages that follow each other by calls.

A stage follows another if it is sound whenever that one is, and leaves alone what a call leaves alone. Actions and
scripts lead to stages that follow, for any meaning `again` of the calls inside them under which stages follow
(`Tame`).
-/
import LinePrompt.Proofs.Prompt.Sound

namespace LinePrompt.Prompt

open LinePrompt.Log LinePrompt.Screen

variable {sc : Scene} {st st' st₁ st₂ st₃ : Stage} {id : Nat}

/-! ## Following -/

/-- the later stage is sound if the earlier one is, and leaves alone what a call leaves alone -/
def Follows (sc : Scene) (st st' : Stage) : Prop :=
  Sound sc st → Sound sc st' ∧ Extends sc (fun _ => True) st.history st'.history

theorem Follows.refl (sc : Scene) (st : Stage) : Follows sc st st := fun hs => ⟨hs, .refl _ _ _⟩

theorem Follows.trans (h12 : Follows sc st₁ st₂) (h23 : Follows sc st₂ st₃) : Follows sc st₁ st₃ := fun hs =>
  have h2 := h12 hs
  have h3 := h23 h2.1
  ⟨h3.1, h2.2.trans h3.2⟩

theorem Follows.andThen {α β : Type} {r : Ran α} {next : α → Stage → Ran β} (hr : Follows sc st r.stage)
    (hn : ∀ a st, Follows sc st (next a st).stage) : Follows sc st (r.andThen next).stage := by
  unfold Ran.andThen
  split
  · exact hr.trans (hn _ _)
  · exact hr

/-- a meaning of the calls inside a script under which stages follow each other -/
def Tame (sc : Scene) (again : Caller) : Prop := ∀ c st, Follows sc st (again c st).stage

/-- a mark of a call that touches no controller and ends no callback -/
theorem follows_note {m : Mark} (hm : m.isPlain) (hb : m.byCall) (may : ∀ h, May sc h m)
    (ht : ∀ i, m.touches i = false) (ho : ∀ h, openAt (m :: h) = openAt h) : Follows sc st (st.note m) := by
  intro hs
  have hr : Recorded sc (st.note m) := by
    refine hs.toRecorded.note hm (may _) ?_
    rintro i k rfl
    simpa [Mark.touches, Mark.isDeedOf] using ht i
  refine ⟨⟨hr, ?_⟩, .cons hr.legal hb (fun i _ _ => ht i) ?_⟩
  · intro i
    exact (hs.rest i).cons hr.legal hb (ht i)
  · rw [ho]

theorem follows_log (severity : Severity) (record : Unit → Record) : Follows sc st (st.log sc severity record) := by
  rcases log_eq st sc severity record with he | ⟨r, he⟩
  · rw [he]
    exact .refl sc st
  · rw [he]
    exact follows_note rfl rfl (fun _ => trivial) (fun _ => rfl) fun _ => rfl

/-- the one-shot application's text and result are nobody else's business -/
theorem follows_kept (kept : String) (result : Option (Outcome × String)) :
    Follows sc st { st with kept, result } := fun hs =>
  ⟨⟨⟨hs.legal, hs.controllers, hs.stack, hs.current_lt, hs.pushed_lt, hs.driver, hs.shown, hs.detached, hs.removed⟩,
    hs.rest⟩, .refl _ _ _⟩

theorem follows_finishWith (cue : Cue) : Follows sc st (finishWith sc cue st) := by
  unfold finishWith
  dsimp only
  exact ((follows_kept _ _).trans (follows_log _ _)).trans (follows_kept _ _)

theorem follows_create (name : String) : Follows sc st (st.create sc name) := by
  intro hs
  have hr := hs.toRecorded.create name
  refine ⟨⟨hr, ?_⟩, .cons hr.legal rfl (fun _ _ _ => rfl) (List.suffix_refl _)⟩
  intro i
  exact (hs.rest i).cons hr.legal rfl rfl

theorem follows_setText (id : Nat) (text : String) : Follows sc st (st.setText id text) := by
  intro hs
  have hr := hs.toRecorded.setText id text
  have hh := (setText_frame st id text).1
  have hl : Legal sc (.texted id text :: st.history) := hh ▸ hr.legal
  refine ⟨⟨hr, ?_⟩, ?_⟩
  · intro i
    rw [hh]
    exact (hs.rest i).cons hl rfl rfl
  · rw [hh]
    exact .cons hl rfl (fun _ _ _ => rfl) (List.suffix_refl _)

/-! ## Scripts -/

variable {again : Caller}

theorem follows_act (ha : Tame sc again) (cue : Cue) (action : Action) (st : Stage) :
    Follows sc st (act again sc cue action st).stage := by
  induction action with
  | call c =>
    exact (ha c st).andThen fun _ _ => follows_note rfl rfl (fun _ => trivial) (fun _ => rfl) fun _ => rfl
  | raise kind message => exact .refl sc st
  | attempt action ih =>
    rw [act]
    split
    · rename_i st' he
      rw [he] at ih
      exact ih
    · rename_i st' he
      rw [he] at ih
      exact ih
    · rename_i fault st' _ he
      rw [he] at ih
      exact ih.trans (follows_note rfl rfl (fun _ => trivial) (fun _ => rfl) fun _ => rfl)
  | keep => exact follows_kept _ _
  | finish => exact follows_finishWith cue

theorem follows_play (ha : Tame sc again) (cue : Cue) (script : Script) (st : Stage) :
    Follows sc st (play again sc cue script st).stage := by
  induction script generalizing st with
  | nil => exact .refl sc st
  | cons action rest ih => exact (follows_act ha cue action st).andThen fun _ st => ih st

end LinePrompt.Prompt
