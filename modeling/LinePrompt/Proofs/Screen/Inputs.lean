/-
What inputs do to an application.

An input either acts at once, by a call, a dismissal or a pop, and then it sends what calls send; or it touches the
dialog on top, whose field or focus it changes, and posts messages about that. A changed text is always posted, so that
what the dialog's prompt has heard once the messages are handled (`heard`) is what stands in the field. `accept_cases`
tells the two kinds apart, and `Tells` is what they have in common with the handling of a message.
-/
import LinePrompt.Proofs.Screen.Reached

namespace LinePrompt.Screen

open LinePrompt.Log LinePrompt.Prompt

variable {sc : Scene} {can : Input → Prop} {st st' : Stage} {m : Modal} {k : Nat} {xs ys : List Message}

/-! ## Messages of a dialog -/

/-- the dialog that the user's messages are about; screens that come and go are not his doing -/
def Message.inputOn? : Message → Option Nat
  | .changed k _ => some k
  | .submitted k _ => some k
  | .pressed k _ => some k
  | .mount _ => none
  | .unmount _ => none

/-- the text that a dialog's prompt has, given the one it has now, once these messages are handled -/
def heard (k : Nat) (text : String) : List Message → String
  | [] => text
  | .changed j value :: rest => heard k (if j = k then value else text) rest
  | .submitted j value :: rest => heard k (if j = k then value else text) rest
  | _ :: rest => heard k text rest

theorem heard_append (text : String) : heard k text (xs ++ ys) = heard k (heard k text xs) ys := by
  induction xs generalizing text with
  | nil => rfl
  | cons x xs ih => cases x <;> exact ih _

/-- messages about other dialogs, or about screens that come and go, are not heard -/
theorem heard_of_forall_ne (text : String) (hxs : ∀ x ∈ xs, x.inputOn? ≠ some k) : heard k text xs = text := by
  induction xs generalizing text with
  | nil => rfl
  | cons x xs ih =>
    have hx := hxs x List.mem_cons_self
    have hrest := ih text fun y hy => hxs y (List.mem_cons_of_mem _ hy)
    cases x with
    | changed j value => rw [heard, if_neg (by rintro rfl; exact hx rfl), hrest]
    | submitted j value => rw [heard, if_neg (by rintro rfl; exact hx rfl), hrest]
    | _ => exact hrest

theorem heard_mail (text : String) (ms : List Mark) : heard k text (mail ms) = text := by
  apply heard_of_forall_ne
  intro x hx
  obtain ⟨j, rfl | rfl⟩ := mem_mail hx <;> simp [Message.inputOn?]

/-- either something is heard, whatever the text was, or nothing is -/
theorem heard_cases (k : Nat) (xs : List Message) :
    (∃ value, ∀ text, heard k text xs = value) ∨ ∀ text, heard k text xs = text := by
  induction xs with
  | nil => exact Or.inr fun _ => rfl
  | cons x xs ih =>
    rcases ih with ⟨value, hv⟩ | hid
    · left
      refine ⟨value, fun text => ?_⟩
      cases x <;> exact hv _
    · cases x with
      | changed j value =>
        by_cases hj : j = k
        · exact Or.inl ⟨value, fun text => by rw [heard, if_pos hj, hid]⟩
        · exact Or.inr fun text => by rw [heard, if_neg hj, hid]
      | submitted j value =>
        by_cases hj : j = k
        · exact Or.inl ⟨value, fun text => by rw [heard, if_pos hj, hid]⟩
        · exact Or.inr fun text => by rw [heard, if_neg hj, hid]
      | _ => exact Or.inr hid

/-- hearing a text again that was heard last makes no difference -/
theorem heard_heard (text : String) : heard k (heard k text xs) xs = heard k text xs := by
  rcases heard_cases k xs with ⟨value, hv⟩ | hid
  · rw [hv, hv]
  · rw [hid, hid]

/-! ## Touching a dialog -/

/-- a mounted dialog is touched: nothing but it changes, and what it posts tells its prompt the text in its field -/
structure Touches (k : Nat) (st st' : Stage) : Prop where
  history : st'.history = st.history
  controllers : st'.controllers = st.controllers
  length : st'.host.screens.length = st.host.screens.length
  others : ∀ j, j ≠ k → st'.host.modal? j = st.host.modal? j
  field : ∃ m m' xs, st.host.modal? k = some m ∧ m.mounted ∧ st'.host.modal? k = some m' ∧
    m'.controller = m.controller ∧ m'.mounted ∧ st'.host.queue = st.host.queue ++ xs ∧
    (∀ x ∈ xs, x.inputOn? = some k) ∧ m'.field.text = heard k m.field.text xs

theorem mounted_of_topDialog? (htop : topDialog? st = some (k, m)) :
    k ∈ st.host.stack ∧ st.host.modal? k = some m ∧ m.mounted := by
  unfold topDialog? at htop
  split at htop
  · cases htop
  · rename_i j hj
    split at htop
    · rename_i m' hm'
      split_ifs at htop with hmounted
      cases htop
      exact ⟨List.mem_of_mem_head? hj, hm', hmounted⟩
    · cases htop

/-- a message that tells nothing new is posted -/
theorem touches_post {x : Message} (hm : st.host.modal? k = some m) (hmounted : m.mounted) (hx : x.inputOn? = some k)
    (ht : heard k m.field.text [x] = m.field.text) : Touches k st (postMessage st x) where
  history := rfl
  controllers := rfl
  length := rfl
  others _ _ := rfl
  field := ⟨m, m, [x], hm, hmounted, hm, rfl, hmounted, rfl, by simpa using hx, ht.symm⟩

/-- the dialog is changed, and perhaps a message is posted -/
theorem touches_update (xs : List Message) {f : Modal → Modal} (hm : st.host.modal? k = some m) (hmounted : m.mounted)
    (hc : (f m).controller = m.controller) (hf : (f m).mounted = m.mounted) (hxs : ∀ x ∈ xs, x.inputOn? = some k)
    (ht : (f m).field.text = heard k m.field.text xs) : Touches k st (xs.foldl postMessage (updateDialog st k f)) := by
  have hposted (st : Stage) : (xs.foldl postMessage st) =
      { st with host := { st.host with queue := st.host.queue ++ xs } } := by
    clear hxs ht
    induction xs generalizing st with
    | nil => simp
    | cons x xs ih => simp [ih, postMessage, Host.post]
  rw [hposted]
  exact {
    history := rfl
    controllers := rfl
    length := Host.length_updateModal _ _ _
    others := fun j hj => (Host.modal?_updateModal _ _ _ j).trans (if_neg hj)
    field := by
      refine ⟨m, f m, xs, hm, hmounted, ?_, hc, hf ▸ hmounted, ?_, hxs, ht⟩
      · show (st.host.updateModal k f).modal? k = _
        rw [Host.modal?_updateModal, if_pos rfl, hm]
        rfl
      · exact congrArg (· ++ xs) (Host.queue_updateModal _ _ _) }

theorem touches_focusOn (xs : List Message) (w : Widget) (hm : st.host.modal? k = some m) (hmounted : m.mounted)
    (hxs : ∀ x ∈ xs, x.inputOn? = some k) (ht : heard k m.field.text xs = m.field.text) :
    Touches k st (xs.foldl postMessage (updateDialog st k (focusOn w))) := by
  refine touches_update xs hm hmounted ?_ ?_ hxs ?_
  · unfold focusOn
    split_ifs <;> rfl
  · unfold focusOn
    split_ifs <;> rfl
  · rw [ht]
    unfold focusOn
    split_ifs <;> rfl

theorem touches_changeField (field : Field) (hm : st.host.modal? k = some m) (hmounted : m.mounted) :
    Touches k st (changeField st k m field) := by
  unfold changeField
  dsimp only
  split_ifs with hsame
  · refine touches_update [] hm hmounted rfl rfl (by simp) ?_
    exact congrArg String.ofList hsame
  · refine touches_update [.changed k field.text] hm hmounted rfl rfl ?_ ?_
    · simp [Message.inputOn?]
    · simp [heard]

/-! ## Inputs -/

/-- is this a call from outside that sets a text? -/
def Input.setsText : Input → Bool
  | .call c => c.setsText
  | _ => false

theorem press_cases (key : Key) (st : Stage) :
    Sends False st (press sc key st).stage ∨ ∃ k, Touches k st (press sc key st).stage := by
  unfold press
  split
  swap
  · exact Or.inl (.refl _ st)
  rename_i k m htop
  obtain ⟨-, hm, hmounted⟩ := mounted_of_topDialog? htop
  cases key with
  | escape =>
    left
    simp only [keyOn]
    split_ifs
    · exact sends_trigger _ .dismissed st
    · exact .refl _ st
  | tab => exact Or.inr ⟨k, touches_focusOn [] _ hm hmounted (by simp) rfl⟩
  | backTab => exact Or.inr ⟨k, touches_focusOn [] _ hm hmounted (by simp) rfl⟩
  | enter =>
    right
    simp only [keyOn]
    split_ifs
    · exact ⟨k, touches_post hm hmounted rfl (by simp [heard])⟩
    · exact ⟨k, touches_post hm hmounted rfl rfl⟩
  | edit e =>
    simp only [keyOn]
    split_ifs
    · exact Or.inr ⟨k, touches_changeField _ hm hmounted⟩
    · exact Or.inl (.refl _ st)
  | quit => exact Or.inl (.refl _ st)
  | other => exact Or.inl (.refl _ st)

/-- an input acts at once, or touches the dialog on top -/
theorem accept_cases (sc : Scene) (i : Input) (st : Stage) :
    Sends i.setsText st (accept sc i st).stage ∨ ∃ k, Touches k st (accept sc i st).stage := by
  cases i with
  | key key =>
    rw [stage_accept_key]
    exact (press_cases key st).imp_left fun hs => hs.mono False.elim
  | setField text =>
    unfold accept
    dsimp only
    split
    · rename_i k m htop
      obtain ⟨-, hm, hmounted⟩ := mounted_of_topDialog? htop
      exact Or.inr ⟨k, touches_changeField _ hm hmounted⟩
    · exact Or.inl (.refl _ st)
  | button w =>
    unfold accept
    dsimp only
    split
    · rename_i k m htop
      obtain ⟨-, hm, hmounted⟩ := mounted_of_topDialog? htop
      split_ifs
      · exact Or.inr ⟨k, touches_post hm hmounted rfl rfl⟩
      · exact Or.inl (.refl _ st)
    · exact Or.inl (.refl _ st)
  | click w =>
    unfold accept
    dsimp only
    split
    · rename_i k m htop
      obtain ⟨-, hm, hmounted⟩ := mounted_of_topDialog? htop
      split_ifs
      · exact Or.inr ⟨k, touches_focusOn [.pressed k w] w hm hmounted (by simp [Message.inputOn?]) rfl⟩
      · exact Or.inl (.refl _ st)
    · exact Or.inl (.refl _ st)
  | clickAside => exact Or.inl (.refl _ st)
  | pop =>
    left
    unfold accept
    dsimp only
    split
    · exact .refl _ st
    · exact sends_pop .popped
  | call c =>
    left
    rw [stage_accept_call]
    exact (sending_run sc c st).mono And.left
  | quit => exact Or.inl (.refl _ st)

/-! ## Screens that are told -/

/-- whatever came or went between two stages is told, what waited still waits, and dialogs stay with their prompts -/
structure Tells (st st' : Stage) : Prop where
  marks : ∃ ms, st'.history = ms ++ st.history ∧ ∀ x ∈ mail ms, x ∈ st'.host.queue
  waits : ∀ x ∈ st.host.queue, x ∈ st'.host.queue
  driver : ∀ k, k < st.host.screens.length → st'.host.driver? k = st.host.driver? k

theorem tells_of_sends {sets : Prop} (hs : Sends sets st st') : Tells st st' := by
  obtain ⟨ms, hh, hq, -⟩ := hs.posted
  refine ⟨⟨ms, hh, ?_⟩, ?_, fun k hk => Host.driver?_of_content? (hs.old k hk)⟩
  · intro x hx
    rw [hq]
    exact List.mem_append_right _ hx
  · intro x hx
    rw [hq]
    exact List.mem_append_left _ hx

theorem Touches.tells (ht : Touches k st st') : Tells st st' := by
  obtain ⟨m, m', xs, hm, -, hm', hc, -, hq, -⟩ := ht.field
  refine ⟨⟨[], ht.history, by simp [mail]⟩, ?_, ?_⟩
  · intro x hx
    rw [hq]
    exact List.mem_append_left _ hx
  · intro j _
    unfold Host.driver?
    by_cases hj : j = k
    · rw [hj, hm, hm']
      exact congrArg some hc
    · rw [ht.others j hj]

theorem tells_accept (sc : Scene) (i : Input) (st : Stage) : Tells st (accept sc i st).stage := by
  rcases accept_cases sc i st with hs | ⟨k, ht⟩
  · exact tells_of_sends hs
  · exact ht.tells

theorem tells_handle (sc : Scene) (x : Message) (st : Stage) : Tells st (handle sc x st).stage := by
  obtain ⟨ms, hh, hq⟩ := posted_handle sc x st
  refine ⟨⟨ms, hh, ?_⟩, ?_, fun k hk => driver?_handle x hk⟩
  · intro y hy
    rw [hq]
    exact List.mem_append_right _ hy
  · intro y hy
    rw [hq]
    exact List.mem_append_left _ hy

end LinePrompt.Screen
