/-
Frames of edits and presses.

The inputs of a frame are all taken before any of what they post is handled. Each one is taken by the dialog on top: an
edit changes the field at once and posts its new text, and a press posts the control. So after a frame the field is as
the last edit left it (`lastText`), and the queue holds the new texts and the presses in the order of the
inputs (`acceptAll_taking`).
-/
import LinePrompt.Proofs.Prompt.Backdrops
import LinePrompt.Proofs.Screen.AtFront

namespace LinePrompt.Screen

open LinePrompt.Prompt

variable {sc : Scene} {can : Input → Prop} {st : Stage} {m m₀ : Modal} {k : Nat} {i : Input} {inputs : List Input}
  {q : List Message} {w : Widget} {r : Request}

/-! ## One input -/

/-- is the input an edit of the field? -/
def Input.isEdit : Input → Bool
  | .setField _ => true
  | .key (.edit _) => true
  | _ => false

/-- the control that an input presses: by itself, by mouse, or by Enter where the focus is on it -/
def Input.pressed? (m : Modal) : Input → Option Widget
  | .button w => some w
  | .click w => some w
  | .key .enter => if m.focus = .input then none else some m.focus
  | _ => none

/-- the dialog after an edit or a press -/
def Modal.taking (m : Modal) : Input → Modal
  | .setField text => { m with field := m.field.setText text }
  | .key (.edit e) => if m.focus = .input then { m with field := m.field.edit e } else m
  | .click w => focusOn w m
  | _ => m

/-- what an edit or a press posts -/
def Input.posts (k : Nat) (m : Modal) (i : Input) : List Message :=
  match i.pressed? m with
  | some w => [.pressed k w]
  | none => if (m.taking i).field.chars = m.field.chars then [] else [.changed k (m.taking i).field.text]

/-- an edit of the field, or a press of a control that the dialog has -/
def Input.Uses (r : Request) (m : Modal) (i : Input) : Prop :=
  i.isEdit ∨ ∃ w, i.pressed? m = some w ∧ (controls r).contains w

theorem pressed?_of_isEdit (h : i.isEdit) : i.pressed? m = none := by
  unfold Input.isEdit at h
  split at h
  · rfl
  · rfl
  · cases h

/-- the stage with a dialog and a queue as they are now -/
def withDialog (st : Stage) (k : Nat) (m : Modal) (q : List Message) : Stage :=
  { st with host := { st.host.updateModal k (fun _ => m) with queue := q } }

@[simp] theorem controller_taking (m : Modal) (i : Input) : (m.taking i).controller = m.controller := by
  unfold Modal.taking focusOn
  split <;> (try split_ifs) <;> rfl

@[simp] theorem mounted_taking (m : Modal) (i : Input) : (m.taking i).mounted = m.mounted := by
  unfold Modal.taking focusOn
  split <;> (try split_ifs) <;> rfl

/-- what is no edit leaves the text of the field -/
theorem text_taking (h : i.isEdit = false) : (m.taking i).field.text = m.field.text := by
  unfold Modal.taking
  split
  · cases h
  · cases h
  · unfold focusOn
    split_ifs <;> rfl
  · rfl

theorem text_setField (m : Modal) (text : String) : (m.taking (.setField text)).field.text = text := by
  have hchars : (m.field.setText text).chars = text.toList := by
    unfold Field.setText
    dsimp only
    split_ifs <;> rfl
  show String.ofList (m.field.setText text).chars = text
  rw [hchars, String.ofList_toList]

theorem withDialog_self (hm : st.host.modal? k = some m) : withDialog st k m st.host.queue = st := by
  obtain ⟨hlt, hget⟩ := List.getElem?_eq_some_iff.1 (Host.modal?_eq_some.1 hm)
  have hscreens : st.host.screens.set k (.modal m) = st.host.screens := by
    rw [← hget]
    exact List.set_getElem_self hlt
  unfold withDialog Host.updateModal
  rw [hm]
  simp only [hscreens]

theorem modal?_withDialog (hm : st.host.modal? k = some m₀) : (withDialog st k m q).host.modal? k = some m := by
  show (st.host.updateModal k fun _ => m).modal? k = some m
  rw [Host.modal?_updateModal, if_pos rfl, hm]
  rfl

theorem top?_withDialog : (withDialog st k m q).host.top? = st.host.top? := by
  show (st.host.updateModal k fun _ => m).stack.head? = _
  rw [Host.stack_updateModal]
  rfl

theorem updateDialog_withDialog (st : Stage) (k : Nat) (m : Modal) (q : List Message) (f : Modal → Modal) :
    updateDialog (withDialog st k m q) k f = withDialog st k (f m) q := by
  have halter : Layer.alter f ∘ Layer.alter (fun _ => m) = Layer.alter fun _ => f m := by
    funext layer
    cases layer <;> rfl
  unfold updateDialog withDialog
  simp only [Host.updateModal_eq, List.modify_modify_eq, halter]

theorem changeField_withDialog (st : Stage) (k : Nat) (m : Modal) (q : List Message) (field : Field) :
    changeField (withDialog st k m q) k m field =
      withDialog st k { m with field } (q ++ if field.chars = m.field.chars then [] else [.changed k field.text]) := by
  unfold changeField
  rw [updateDialog_withDialog]
  dsimp only
  split_ifs
  · rw [List.append_nil]
  · rfl

/-- the dialog on top takes an edit or a press -/
theorem accept_taking (hm : st.host.modal? k = some m₀) (htop : st.host.top? = some k) (hmounted : m.mounted = true)
    (hi : i.Uses (st.request sc m.controller) m) :
    ∃ answer, accept sc i (withDialog st k m q) =
      ⟨.ok (.ok answer), withDialog st k (m.taking i) (q ++ i.posts k m)⟩ := by
  have hdialog : topDialog? (withDialog st k m q) = some (k, m) := by
    unfold topDialog?
    rw [top?_withDialog, htop]
    simp only [modal?_withDialog hm, hmounted, if_true]
  have hcontrol {w : Widget} (hw : (controls (st.request sc m.controller)).contains w) :
      hasControl sc (withDialog st k m q) m w = true := hw
  rcases hi with hedit | ⟨w, hpress, hw⟩
  · cases i with
    | setField text =>
      refine ⟨.nothing, ?_⟩
      simp only [accept, hdialog, changeField_withDialog]
      rfl
    | key key =>
      cases key with
      | edit e =>
        refine ⟨.nothing, ?_⟩
        simp only [accept, press, hdialog, keyOn, Input.posts, Input.pressed?, Modal.taking]
        by_cases hfocus : m.focus = .input
        · simp only [hfocus, if_true, changeField_withDialog]
          rfl
        · simp [hfocus]
      | _ => cases hedit
    | _ => cases hedit
  · cases i with
    | button w' =>
      obtain rfl : w' = w := Option.some.inj hpress
      refine ⟨.nothing, ?_⟩
      simp only [accept, hdialog, hcontrol hw, if_true]
      rfl
    | click w' =>
      obtain rfl : w' = w := Option.some.inj hpress
      refine ⟨.flag true, ?_⟩
      simp only [accept, hdialog, hcontrol hw, if_true, updateDialog_withDialog]
      rfl
    | key key =>
      cases key with
      | enter =>
        have hfocus : m.focus ≠ .input := by
          intro hfocus
          simp [Input.pressed?, hfocus] at hpress
        refine ⟨.nothing, ?_⟩
        simp only [accept, press, hdialog, keyOn, Input.posts, Input.pressed?, hfocus, if_false]
        rfl
      | _ => cases hpress
    | _ => cases hpress

/-! ## A frame -/

/-- the dialog after a frame -/
def Modal.takingAll (m : Modal) (inputs : List Input) : Modal := inputs.foldl Modal.taking m

/-- what a frame posts -/
def posted (k : Nat) : Modal → List Input → List Message
  | _, [] => []
  | m, i :: rest => i.posts k m ++ posted k (m.taking i) rest

/-- the controls that a frame presses -/
def pressesOf : Modal → List Input → List Widget
  | _, [] => []
  | m, i :: rest => (i.pressed? m).toList ++ pressesOf (m.taking i) rest

/-- the frame is made of edits of the field and presses of controls that the dialog has -/
def UsesAll (r : Request) : Modal → List Input → Prop
  | _, [] => True
  | m, i :: rest => i.Uses r m ∧ UsesAll r (m.taking i) rest

@[simp] theorem controller_takingAll (m : Modal) (inputs : List Input) :
    (m.takingAll inputs).controller = m.controller := by
  induction inputs generalizing m with
  | nil => rfl
  | cons i rest ih => exact (ih (m.taking i)).trans (controller_taking m i)

/-- a frame with no edit leaves the text of the field -/
theorem text_takingAll (h : ∀ i ∈ inputs, i.isEdit = false) : (m.takingAll inputs).field.text = m.field.text := by
  induction inputs generalizing m with
  | nil => rfl
  | cons i rest ih =>
    have hrest : ∀ j ∈ rest, j.isEdit = false := fun j hj => h j (List.mem_cons_of_mem _ hj)
    calc ((m.taking i).takingAll rest).field.text
      _ = (m.taking i).field.text := ih hrest
      _ = m.field.text := text_taking (h i List.mem_cons_self)

/-- the text of the last edit of a frame, or the one that the field had before if there is none -/
structure LastText (m : Modal) (inputs : List Input) (text : String) : Prop where
  unedited : (∀ i ∈ inputs, i.isEdit = false) → text = m.field.text
  edited : ∀ early i late, inputs = early ++ i :: late → i.isEdit = true → (∀ j ∈ late, j.isEdit = false) →
    text = ((m.takingAll early).taking i).field.text

/-- a frame leaves the text of its last edit in the field -/
theorem lastText (m : Modal) (inputs : List Input) : LastText m inputs (m.takingAll inputs).field.text where
  unedited := text_takingAll
  edited := by
    rintro early i late rfl - hlate
    have hsplit : m.takingAll (early ++ i :: late) = ((m.takingAll early).taking i).takingAll late :=
      List.foldl_append
    rw [hsplit, text_takingAll hlate]

/-- **A frame of edits and presses is taken by the dialog on top**, and nothing of it is handled yet. -/
theorem acceptAll_taking (hm : st.host.modal? k = some m₀) (htop : st.host.top? = some k) (hmounted : m.mounted = true)
    (hu : UsesAll (st.request sc m.controller) m inputs) :
    acceptAll sc inputs (withDialog st k m q) =
      ⟨.ok (.ok .nothing), withDialog st k (m.takingAll inputs) (q ++ posted k m inputs)⟩ := by
  induction inputs generalizing m q with
  | nil =>
    rw [posted, List.append_nil]
    rfl
  | cons i rest ih =>
    obtain ⟨hi, hrest⟩ := hu
    obtain ⟨answer, haccept⟩ := accept_taking (q := q) hm htop hmounted hi
    have hmore := ih (q := q ++ i.posts k m) ((mounted_taking m i).trans hmounted) (by rwa [controller_taking])
    rw [posted, ← List.append_assoc]
    unfold acceptAll
    rw [haccept]
    exact hmore

/-- an edit or a press posts to its dialog -/
theorem posts_cases {x : Message} (hx : x ∈ i.posts k m) :
    (∃ text, x = .changed k text) ∨ ∃ w, x = .pressed k w := by
  unfold Input.posts at hx
  split at hx
  · exact Or.inr ⟨_, List.mem_singleton.1 hx⟩
  · split_ifs at hx
    · cases hx
    · exact Or.inl ⟨_, List.mem_singleton.1 hx⟩

theorem posted_cases {x : Message} (hx : x ∈ posted k m inputs) :
    (∃ text, x = .changed k text) ∨ ∃ w, x = .pressed k w := by
  induction inputs generalizing m with
  | nil => cases hx
  | cons i rest ih =>
    rcases List.mem_append.1 hx with hx | hx
    · exact posts_cases hx
    · exact ih hx

/-- the first press of a frame is its first input, or comes later -/
theorem first_press {more : List Widget} (h : pressesOf m (i :: inputs) = w :: more) :
    i.pressed? m = some w ∨ i.pressed? m = none ∧ pressesOf (m.taking i) inputs = w :: more := by
  cases hpress : i.pressed? m with
  | some w' =>
    simp only [pressesOf, hpress, Option.toList_some] at h
    exact Or.inl (congrArg some (List.cons.inj h).1)
  | none =>
    simp only [pressesOf, hpress, Option.toList_none, List.nil_append] at h
    exact Or.inr ⟨rfl, h⟩

/-- what a frame posts, around its first press -/
theorem posted_of_press {more : List Widget} (k : Nat) (h : pressesOf m inputs = w :: more) :
    ∃ before rest, posted k m inputs = before ++ .pressed k w :: rest ∧
      (∀ x ∈ before, ∃ text, x = .changed k text) ∧
      ∀ x ∈ rest, (∃ text, x = .changed k text) ∨ ∃ w', x = .pressed k w' := by
  induction inputs generalizing m with
  | nil => cases h
  | cons i inputs ih =>
    rw [posted]
    rcases first_press h with hpress | ⟨hpress, hmore⟩
    · have hposts : i.posts k m = [.pressed k w] := by simp only [Input.posts, hpress]
      refine ⟨[], posted k (m.taking i) inputs, by rw [hposts]; rfl, ?_, fun x hx => posted_cases hx⟩
      intro x hx
      cases hx
    · obtain ⟨before, rest, hposted, hbefore, hrest⟩ := ih hmore
      refine ⟨i.posts k m ++ before, rest, by rw [hposted, List.append_assoc], ?_, hrest⟩
      intro x hx
      rcases List.mem_append.1 hx with hx | hx
      · simp only [Input.posts, hpress] at hx
        split_ifs at hx
        · cases hx
        · exact ⟨_, List.mem_singleton.1 hx⟩
      · exact hbefore x hx

/-- the control of the first press is one that the dialog has -/
theorem contains_of_press {more : List Widget} (hu : UsesAll r m inputs) (h : pressesOf m inputs = w :: more) :
    (controls r).contains w := by
  induction inputs generalizing m with
  | nil => cases h
  | cons i inputs ih =>
    obtain ⟨hi, hrest⟩ := hu
    rcases first_press h with hpress | ⟨-, hmore⟩
    · rcases hi with hedit | ⟨w', hw', hcontrol⟩
      · rw [pressed?_of_isEdit hedit] at hpress
        cases hpress
      · rw [hpress] at hw'
        exact Option.some.inj hw' ▸ hcontrol
    · exact ih hrest hmore

end LinePrompt.Screen
