/-
How screens leave the stack over a whole session.

A screen leaves from the top, once, and for one of three reasons: its own prompt is closed, the host pops it, or the
application ends. Closing a prompt takes no other screen away, also if its own dialog is gone already or is covered.
A dialog that is on top when its prompt is closed has left before the handler begins, so that what the handler brings
up comes to stand above the screens that remain (`Legal.stackAt_append`). All of it in `screens_depart`.
-/
import LinePrompt.Proofs.Screen.Dialogs

namespace LinePrompt.Screen

open LinePrompt.Prompt

variable {sc : Scene} {st : Stage} {h : List Mark} {i k : Nat}

/-! ## What comes to stand above -/

/-- the screens that were pushed, newest first -/
def pushes : List Mark → List Nat
  | [] => []
  | .pushed k :: ms => k :: pushes ms
  | _ :: ms => pushes ms

/-- did the screen leave? -/
def departed (ms : List Mark) (k : Nat) : Bool :=
  ms.any fun
    | .left j _ => j == k
    | _ => false

theorem departed_iff {ms : List Mark} : departed ms k ↔ ∃ why, .left k why ∈ ms := by
  simp only [departed, List.any_eq_true]
  constructor
  · rintro ⟨m, hin, hm⟩
    cases m with
    | left j why =>
      obtain rfl : j = k := by simpa using hm
      exact ⟨why, hin⟩
    | _ => simp at hm
  · rintro ⟨why, hin⟩
    exact ⟨_, hin, by simp⟩

/-- the stack after further marks: the screens pushed since that have not left, above some of those that were there -/
theorem stackAt_append {ms : List Mark} (hl : Legal sc (ms ++ h)) :
    ∃ rest, rest <:+ stackAt h ∧ stackAt (ms ++ h) = (pushes ms).filter (fun k => !departed ms k) ++ rest := by
  induction ms with
  | nil => exact ⟨stackAt h, List.suffix_refl _, rfl⟩
  | cons m ms ih =>
    obtain ⟨rest, hrest, he⟩ := ih hl.2
    cases m with
    | pushed k =>
      have hnew : departed ms k = false := by
        by_contra hd
        obtain ⟨why, hw⟩ := departed_iff.1 (by simpa using hd)
        exact hl.1 (hl.2.not_mem_stackAt (List.mem_append_left _ hw)).1
      refine ⟨rest, hrest, ?_⟩
      have hsame : departed (.pushed k :: ms) = departed ms := by
        funext j
        simp [departed]
      rw [List.cons_append, stackAt, he, pushes, hsame, List.filter_cons_of_pos (by simp [hnew])]
      rfl
    | left k why =>
      have hn : ((pushes ms).filter (fun k => !departed ms k) ++ rest).Nodup := he ▸ hl.2.nodup_stackAt
      have htop : (stackAt (ms ++ h)).head? = some k := hl.1.1
      have hmore : (pushes ms).filter (fun j => !departed (.left k why :: ms) j) =
          ((pushes ms).filter fun j => !departed ms j).filter (· ≠ k) := by
        rw [List.filter_filter]
        refine List.filter_congr ?_
        intro j _
        simp [departed, eq_comm, Bool.beq_eq_decide_eq]
      have hsame : pushes (.left k why :: ms) = pushes ms := rfl
      rw [List.cons_append, stackAt, hsame, hmore]
      rw [he] at htop ⊢
      cases hp : (pushes ms).filter (fun j => !departed ms j) with
      | nil =>
        rw [hp, List.nil_append] at htop
        obtain ⟨rest', rfl⟩ := List.head?_eq_some_iff.1 htop
        exact ⟨rest', (List.suffix_cons _ _).trans hrest, by simp⟩
      | cons a as =>
        rw [hp] at htop hn
        obtain rfl : a = k := by simpa using htop
        have hout : ∀ j ∈ as, decide (j ≠ a) = true := by
          intro j hj
          have hne : j ≠ a := by
            rintro rfl
            exact (List.nodup_cons.1 hn).1 (List.mem_append_left _ hj)
          simpa using hne
        refine ⟨rest, hrest, ?_⟩
        rw [List.filter_cons_of_neg (by simp), List.filter_eq_self.2 hout]
        simp
    | _ => exact ⟨rest, hrest, he⟩

/-! ## Callbacks and dialogs -/

/-- a dialog's closing is begun by the prompt that drives it, and the prompt is closed by then -/
theorem driver_of_close {h' : List Mark} (hr : Recorded sc st) (hs : h' <:+ st.history)
    (hb : .began i (.surfaceClose (.dialog k)) :: h <:+ h') :
    st.host.driver? k = some i ∧ (phaseAt sc h i).isClosed := by
  obtain ⟨s, o, rest, hp, hshow, he⟩ := hr.legal.began_closing (hb.trans hs) (by simp)
  obtain rfl := surfaceClose_of_mem_lifeline (he ▸ List.mem_append_right _ List.mem_cons_self)
  have hsub : h <:+ st.history := (List.suffix_cons _ _).trans (hb.trans hs)
  exact ⟨hr.driver i k (hsub.subset hshow), by rw [hp]; rfl⟩

/-- when a screen leaves because of a closed prompt, that prompt's dialog is being closed, and it is the screen -/
theorem left_by_close (hr : Recorded sc st) (hl : .left k (.closed i) :: h <:+ st.history) :
    st.host.driver? k = some i ∧ (phaseAt sc h i).isClosed ∧ h.head? = some (.began i (.surfaceClose (.dialog k))) := by
  have hhead := (hr.legal.may hl).2 i rfl
  obtain ⟨h₁, rfl⟩ := List.head?_eq_some_iff.1 hhead
  have hs : .began i (.surfaceClose (.dialog k)) :: h₁ <:+ st.history := (List.suffix_cons _ _).trans hl
  obtain ⟨hd, hc⟩ := driver_of_close hr hs (List.suffix_refl _)
  exact ⟨hd, hc, rfl⟩

/-- a prompt drives one dialog that was ever on the stack -/
theorem dialog_unique {j : Nat} (hr : Recorded sc st) (hj : st.host.driver? j = some i)
    (hk : st.host.driver? k = some i) (hpj : .pushed j ∈ st.history) (hpk : .pushed k ∈ st.history) : j = k := by
  have he := hr.legal.surface_unique (hr.shown i j hj hpj) (hr.shown i k hk hpk)
  cases he
  rfl

/-- when a handler begins, the surface its prompt came up on has been closed, and the prompt was not dismissed -/
theorem close_ended_before_handler {h' : List Mark} {o : Outcome} {t : String} (hl : Legal sc h')
    (hb : .began i (.handler o t) :: h <:+ h') :
    ∃ s, .began i (.surfaceShow s) ∈ h ∧ .ended i (.surfaceClose s) ∈ h ∧ phaseAt sc h i = .closed o ∧
      o ≠ .dismissed := by
  obtain ⟨s, o', rest, hp, hshow, he⟩ := hl.began_closing hb (by simp)
  obtain ⟨rfl, -, hsome⟩ := handler_of_mem_lifeline (he ▸ List.mem_append_right _ List.mem_cons_self)
  refine ⟨s, hshow, ?_, hp, ?_⟩
  · rcases surfaceClose_ended_or he with hin | hm | hm | hm
    · exact (mem_deeds.1 hin).1
    · cases hm
    · cases hm
    · cases hm
  · rintro rfl
    simp at hsome

/-- when a handler begins, its prompt's dialog has left if it was on top when the prompt was closed -/
theorem left_before_handler {o o' : Outcome} {t : String} {before : List Mark} (hr : Recorded sc st)
    (hb : .began i (.handler o t) :: h <:+ st.history) (hm : .moved i (.closed o') :: before <:+ h)
    (htop : (stackAt before).head? = some k) (hk : st.host.driver? k = some i) : ∃ why, .left k why ∈ h := by
  have hl : Legal sc h := (hr.legal.of_suffix hb).2
  have hsub : h <:+ st.history := (List.suffix_cons _ _).trans hb
  have hbefore : before <:+ h := (List.suffix_cons _ _).trans hm
  have hpushed : .pushed k ∈ st.history :=
    hsub.subset (hbefore.subset (pushed_of_mem_stackAt (List.mem_of_mem_head? htop)))
  obtain ⟨s, hshow, hended, hp, ho⟩ := close_ended_before_handler hr.legal hb
  obtain rfl : s = .dialog k := hr.legal.surface_unique (hsub.subset hshow) (hr.shown i k hk hpushed)
  obtain ⟨later, h₁, hsplit⟩ := List.append_of_mem hended
  have hs : .ended i (.surfaceClose (.dialog k)) :: h₁ <:+ h := ⟨later, hsplit.symm⟩
  have hs₁ : h₁ <:+ h := (List.suffix_cons _ _).trans hs
  obtain ⟨-, -, hw⟩ := hl.may hs
  rcases hw k rfl with ⟨-, hdis⟩ | ⟨why, hleft⟩ | ⟨o₁, before₁, hm₁, hcov⟩
  -- a dismissed prompt has no handler
  · rw [hl.phaseAt_closed hs₁ hdis] at hp
    cases hp
    exact absurd rfl ho
  · exact ⟨why, hs₁.subset hleft⟩
  -- the dialog was on top when the prompt was closed, so it was not covered
  · obtain ⟨-, rfl⟩ := hl.closed_once hm (hm₁.trans hs₁)
    obtain ⟨under, hst⟩ := List.head?_eq_some_iff.1 htop
    have hn := (hl.of_suffix hbefore).nodup_stackAt
    rw [hst] at hn hcov
    exact absurd hcov (List.nodup_cons.1 hn).1

/-! ## Every session -/

/-- how screens leave the stack over a session in which the host is asked for `n` pops -/
structure Departures (sc : Scene) (n : Nat) (showing : Showing) : Prop where
  /-- the history of the session tells the stack at every stage that is seen -/
  told : ∀ shot ∈ showing.shots, shot.stage.history <:+ showing.stage.history ∧
    shot.stage.host.stack = stackAt shot.stage.history
  /-- a screen that is on the stack no more left it from the top -/
  left : ∀ m h k, m :: h <:+ showing.stage.history → k ∈ stackAt h → k ∉ stackAt (m :: h) →
    ∃ why, m = .left k why ∧ stackAt h = k :: stackAt (m :: h)
  once : ∀ k why h, .left k why :: h <:+ showing.stage.history → ∀ why', .left k why' ∉ h
  /-- a closed prompt takes its own dialog away, while that is being closed -/
  closed : ∀ i k h, .left k (.closed i) :: h <:+ showing.stage.history →
    showing.stage.host.driver? k = some i ∧ (phaseAt sc h i).isClosed ∧
      h.head? = some (.began i (.surfaceClose (.dialog k)))
  /-- the host pops no more often than it is asked to -/
  popped : popCount showing.stage.history ≤ n
  /-- no screen has left because of the end as long as a stage is seen -/
  ended : ∀ shot ∈ showing.shots, ∀ k, .left k .ended ∉ shot.stage.history
  /-- a prompt whose dialog has left takes nothing away when it is closed -/
  spared : ∀ i j k h, .left j (.closed i) :: h <:+ showing.stage.history → showing.stage.host.driver? k = some i →
    ∀ why, .left k why ∉ h
  /-- a dialog on top when its prompt is closed is off the stack when the handler begins -/
  off : ∀ i o t h k o' before, .began i (.handler o t) :: h <:+ showing.stage.history →
    .moved i (.closed o') :: before <:+ h → (stackAt before).head? = some k →
    showing.stage.host.driver? k = some i → k ∉ stackAt h
  /-- what was pushed since a handler began and has not left stands above the screens that remain, newest on top -/
  above : ∀ shot ∈ showing.shots, ∀ i o t ms h, shot.stage.history = ms ++ .began i (.handler o t) :: h →
    ∃ rest, rest <:+ stackAt h ∧
      shot.stage.host.stack = (pushes ms).filter (fun k => !departed ms k) ++ rest

/-- **Screens leave the stack from the top, once, and for a reason.** For every session: whatever comes up at the start,
whatever input, pops and calls follow, whatever the prompts' scripts do. -/
theorem screens_depart (sc : Scene) (names : List String) (gestures : List Gesture) :
    Departures sc (popsAsked (gestures.flatMap Gesture.inputs)) (playSession sc names gestures) := by
  have hk := session_kept sc names gestures
  have hr := hk.final
  exact {
    told := fun shot hshot => ⟨(hk.seen shot hshot).2, (hk.seen shot hshot).1.stack⟩
    left := by
      intro m h k hs hin hout
      cases m with
      | pushed j => exact absurd (List.mem_cons_of_mem _ hin) hout
      | left j why =>
        obtain ⟨rest, hst⟩ := List.head?_eq_some_iff.1 (hr.legal.may hs).1
        obtain rfl : k = j := by
          by_contra hne
          exact hout ((List.mem_erase_of_ne hne).2 hin)
        exact ⟨why, rfl, by simp [stackAt, hst]⟩
      | _ => exact absurd hin hout
    once := by
      intro k why h hs why' hin
      have hl := hr.legal.of_suffix hs
      exact (hl.2.not_mem_stackAt hin).2 (List.mem_of_mem_head? hl.1.1)
    closed := fun i k h hs => left_by_close hr hs
    popped := hk.pops
    ended := fun shot hshot => (hk.seen shot hshot).1.alive
    spared := by
      intro i j k h hs hd why hin
      have hl := hr.legal.of_suffix hs
      have hsub : h <:+ (playSession sc names gestures).stage.history := (List.suffix_cons _ _).trans hs
      have hpj : .pushed j ∈ h := pushed_of_mem_stackAt (List.mem_of_mem_head? hl.1.1)
      have hpk : .pushed k ∈ h := (hl.2.not_mem_stackAt hin).1
      obtain rfl := dialog_unique hr (left_by_close hr hs).1 hd (hsub.subset hpj) (hsub.subset hpk)
      exact (hl.2.not_mem_stackAt hin).2 (List.mem_of_mem_head? hl.1.1)
    off := by
      intro i o t h k o' before hb hm htop hd
      obtain ⟨why, hleft⟩ := left_before_handler hr hb hm htop hd
      exact ((hr.legal.of_suffix hb).2.not_mem_stackAt hleft).2
    above := by
      intro shot hshot i o t ms h he
      have hrun := (hk.seen shot hshot).1
      have hl := hrun.legal
      rw [hrun.stack, he]
      rw [he] at hl
      exact stackAt_append (h := .began i (.handler o t) :: h) hl }

/-- a prompt whose handler brings up a notice -/
def noticeScene : Scene where
  request name := { Request.titled name with onPrimary := [.call (.notice "n")] }
  surface _ := ⟨[], []⟩
  threshold := 100
  cancelLabel := "Cancel"
  escapeDismisses := true

/-- the prompt is closed from outside, and the host pops what its handler has brought up -/
def noticeSession : Showing := playSession noticeScene ["a"] [.frame [.call (.prompt "a" .primary), .pop]]

/-- what the start of a session with one prompt leaves behind, newest first -/
def broughtUp : List Mark :=
  [.ended 0 (.surfaceShow (.dialog 0)), .pushed 0, .began 0 (.surfaceShow (.dialog 0)), .moved 0 (.shown (.dialog 0)),
    .made 0 "a"]

/-- what closing the prompt leaves behind before its handler begins -/
def takenDown : List Mark :=
  [.ended 0 (.surfaceClose (.dialog 0)), .left 0 (.closed 0), .began 0 (.surfaceClose (.dialog 0)),
    .moved 0 (.closed .primary)]

/-- what its handler leaves behind -/
def noticed : List Mark := [.returned (.notice "n") .nothing, .pushed 1]

theorem notice_shots : noticeSession.shots.map
    (fun shot => (shot.stage.host.stack, shot.stage.host.driver? 0, shot.stage.history)) =
      [([0], some 0, broughtUp),
        ([], some 0, .left 1 .popped :: .ended 0 (.handler .primary "") ::
          (noticed ++ .began 0 (.handler .primary "") :: (takenDown ++ broughtUp)))] := by
  cbv

/-- A screen that a handler pushes need not be on the stack when the application is idle again: the host can pop it
before. -/
theorem pushed_screen_gone :
    ¬ ∀ shot ∈ noticeSession.shots, ∀ i j k o t later during h before,
        shot.stage.history = later ++ .ended i (.handler o t) :: (during ++ .began i (.handler o t) :: h) →
        .moved i (.closed o) :: before <:+ h → (stackAt before).head? = some j →
        shot.stage.host.driver? j = some i → .pushed k ∈ during → k ∈ shot.stage.host.stack := by
  intro hall
  obtain ⟨shot, hshot, he⟩ : ∃ shot ∈ noticeSession.shots,
      (shot.stage.host.stack, shot.stage.host.driver? 0, shot.stage.history) =
        (([], some 0, .left 1 .popped :: .ended 0 (.handler .primary "") ::
          (noticed ++ .began 0 (.handler .primary "") :: (takenDown ++ broughtUp))) : List Nat × _ × _) :=
    List.mem_map.1 (by rw [notice_shots]; simp)
  obtain ⟨hstack, hdriver, hhistory⟩ : _ ∧ _ ∧ _ := by simpa only [Prod.mk.injEq] using he
  have hin := hall shot hshot 0 0 1 .primary "" [.left 1 .popped] noticed (takenDown ++ broughtUp) broughtUp hhistory
    ⟨takenDown.dropLast, rfl⟩ rfl hdriver (by simp [noticed])
  rw [hstack] at hin
  exact absurd hin List.not_mem_nil

end LinePrompt.Screen
