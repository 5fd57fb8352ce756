/-
What a dialog's prompt will have heard.

Edits reach a prompt only by messages that wait, and several dialogs and rounds may be under way at once. `InTouch` is
what holds of an application in which only dialogs set texts: messages about a dialog wait only where it is mounted, a
dialog that is not mounted yet will be by just one message and nobody has set its prompt's text, and a mounted dialog's
prompt, as long as it is open, will have heard the text in the field once what waits is handled. Every step keeps it
(`Reached.inTouch`), so that on an idle application, where nothing waits, the prompt has the text in the field.
-/
import LinePrompt.Proofs.Prompt.Lifecycle
import LinePrompt.Proofs.Screen.Inputs

namespace LinePrompt.Screen

open LinePrompt.Log LinePrompt.Prompt

variable {sc : Scene} {can : Input → Prop} {st st' : Stage} {ms rest : List Message} {x : Message} {m : Modal}
  {i k : Nat} {h : List Mark}

/-! ## Messages that appear once -/

/-- a screen is told to appear once, since it is pushed once -/
theorem count_mount_mail (hl : Legal sc h) (k : Nat) : (mail h).count (.mount k) ≤ 1 := by
  induction h with
  | nil => simp [mail]
  | cons mark h ih =>
    have hrest := ih hl.2
    cases mark with
    | pushed j =>
      have hnew : .pushed j ∉ h := hl.1
      rw [mail, List.count_append]
      by_cases hj : j = k
      · rw [← hj, List.count_eq_zero.2 fun hin => hnew (mount_mem_mail.1 hin)]
        simp
      · simpa [hj] using hrest
    | left j why =>
      rw [mail, List.count_append]
      simpa using hrest
    | _ => exact hrest

/-! ## Texts of a history -/

/-- a text that nobody set stays -/
theorem textAt_append {ms : List Mark} (hi : i < (controllersAt sc h).length) (hms : ∀ j t, .texted j t ∉ ms) :
    textAt sc (ms ++ h) i = textAt sc h i := by
  induction ms with
  | nil => rfl
  | cons mark ms ih =>
    rw [← ih fun j t hin => hms j t (List.mem_cons_of_mem _ hin)]
    have hlt := (controllerAt_name (List.suffix_append ms h) hi).1
    cases mark with
    | made j name => rw [List.cons_append, textAt, controllerAt_made, if_neg (Nat.ne_of_lt hlt), textAt]
    | moved j phase => rw [List.cons_append, textAt_moved]
    | texted j t => exact absurd List.mem_cons_self (hms j t)
    | _ => rfl

/-- an open prompt whose text nobody set has the one it started with -/
theorem text_of_not_texted (hr : Recorded sc st) (hopen : (st.phase i).isOpen) (hnone : ∀ t, .texted i t ∉ st.history) :
    st.text i = (st.request sc i).startText := by
  obtain ⟨s, hs⟩ := Phase.isOpen_iff.1 hopen
  rw [hr.phase_eq] at hs
  have hlast : lastText? i st.history = none := by
    have hno : ∀ t, .texted i t ∉ st.history := hnone
    generalize st.history = h at hno
    induction h with
    | nil => rfl
    | cons mark h ih =>
      have hrest := ih fun t hin => hno t (List.mem_cons_of_mem _ hin)
      cases mark with
      | made j name =>
        rw [lastText?]
        split_ifs
        · rfl
        · exact hrest
      | texted j t =>
        rw [lastText?, if_neg, hrest]
        rintro rfl
        exact hno t List.mem_cons_self
      | _ => exact hrest
  rw [hr.text_eq, hr.request_eq, hr.legal.textAt_eq (lt_of_phaseAt_ne_created (by simp [hs])) (by rw [hs]; rfl), hlast]
  rfl

/-! ## The invariant -/

/-- what waits to be handled, in its order -/
def waiting (ms : List Message) (st : Stage) : List Message := ms ++ st.host.queue

/-- each dialog's prompt will have heard the text in its field once what waits is handled -/
structure InTouch (sc : Scene) (ms : List Message) (st : Stage) : Prop where
  up : ∀ k m, st.host.modal? k = some m → .pushed k ∈ st.history
  about : ∀ x ∈ waiting ms st, ∀ k, x.inputOn? = some k → ∃ m, st.host.modal? k = some m ∧ m.mounted
  posted : ∀ k, (waiting ms st).count (.mount k) ≤ (mail st.history).count (.mount k)
  mounted : ∀ k m, st.host.modal? k = some m → m.mounted → .mount k ∉ waiting ms st
  unmounted : ∀ k m, st.host.modal? k = some m → m.mounted = false →
    .mount k ∈ waiting ms st ∧ ∀ t, .texted m.controller t ∉ st.history
  known : ∀ i t, .texted i t ∈ st.history → i < st.controllers.length
  agree : ∀ k m, st.host.modal? k = some m → m.mounted → (st.phase m.controller).isOpen →
    m.field.text = heard k (st.text m.controller) (waiting ms st)

theorem inTouch_start : InTouch sc [] .empty where
  up k m hm := by simp [Stage.empty, Host.empty, Host.modal?] at hm
  about x hx := by simp [waiting, Stage.empty, Host.empty] at hx
  posted k := by simp [waiting, Stage.empty, Host.empty]
  mounted k m hm := by simp [Stage.empty, Host.empty, Host.modal?] at hm
  unmounted k m hm := by simp [Stage.empty, Host.empty, Host.modal?] at hm
  known i t hin := by simp [Stage.empty] at hin
  agree k m hm := by simp [Stage.empty, Host.empty, Host.modal?] at hm

/-- a round begins: what waits is the same as before -/
theorem InTouch.emptied (ht : InTouch sc [] st) : InTouch sc st.host.queue (emptied st) := by
  have hw : waiting st.host.queue (Screen.emptied st) = waiting [] st := List.append_nil _
  exact {
    up := ht.up
    about := hw ▸ ht.about
    posted := hw ▸ ht.posted
    mounted := hw ▸ ht.mounted
    unmounted := hw ▸ ht.unmounted
    known := ht.known
    agree := hw ▸ ht.agree }

/-- a message that is not heard goes -/
theorem InTouch.drop (ht : InTouch sc (x :: rest) st) (hx : ∀ k t xs, heard k t (x :: xs) = heard k t xs)
    (hm : ∀ k m, st.host.modal? k = some m → x ≠ .mount k) : InTouch sc rest st := by
  have hsub : ∀ y ∈ waiting rest st, y ∈ waiting (x :: rest) st := fun y hy => List.mem_cons_of_mem _ hy
  exact {
    up := ht.up
    about := fun y hy => ht.about y (hsub y hy)
    posted := fun k => Nat.le_trans (List.count_le_count_cons ..) (ht.posted k)
    mounted := fun k m hk hmt hin => ht.mounted k m hk hmt (hsub _ hin)
    unmounted := by
      intro k m hk hmt
      obtain ⟨hin, hno⟩ := ht.unmounted k m hk hmt
      exact ⟨(List.mem_cons.1 hin).resolve_left fun he => hm k m hk he.symm, hno⟩
    known := ht.known
    agree := by
      intro k m hk hmt hopen
      rw [ht.agree k m hk hmt hopen]
      exact hx k _ _ }

/-- what calls send keeps the prompts in touch, as long as they set no text -/
theorem InTouch.sends (ht : InTouch sc ms st) (hs : Sound sc st) (hr : Recorded sc st') (hsend : Sends False st st')
    (hscript : ¬ ScriptSets st'.history) : InTouch sc ms st' := by
  obtain ⟨new, hh, hq, hset⟩ := hsend.posted
  have hnew : ∀ j t, .texted j t ∉ new := by
    intro j t hin
    rcases hset ⟨j, t, hin⟩ with hf | hsc
    · exact hf
    · exact hscript (hsc.mono fun y hy => hh ▸ List.mem_append_left _ hy)
  have hold : ∀ j t, .texted j t ∈ st'.history → .texted j t ∈ st.history := by
    intro j t hin
    rw [hh] at hin
    exact (List.mem_append.1 hin).resolve_left (hnew j t)
  have hw : waiting ms st' = waiting ms st ++ mail new := by
    rw [waiting, hq, waiting, List.append_assoc]
  have hsub : ∀ y ∈ waiting ms st, y ∈ waiting ms st' := fun y hy => hw ▸ List.mem_append_left _ hy
  -- a dialog that was there before has the same prompt and the same text
  have hback : ∀ k m', k < st.host.screens.length → st'.host.modal? k = some m' → ∃ m, st.host.modal? k = some m ∧
      m.controller = m'.controller ∧ m.mounted = m'.mounted ∧ m.field.chars = m'.field.chars :=
    fun k m' hk hm' => Host.modal?_of_content? (hsend.old k hk) hm'
  have hfresh : ∀ k m', ¬ k < st.host.screens.length → st'.host.modal? k = some m' → m'.mounted = false ∧
      st.controllers.length ≤ m'.controller ∧ .pushed k ∈ st'.history :=
    fun k m' hk hm' => hsend.new k m' (Nat.le_of_not_lt hk) hm'
  exact {
    up := by
      intro k m' hm'
      by_cases hk : k < st.host.screens.length
      · obtain ⟨m, hm, -⟩ := hback k m' hk hm'
        exact hsend.suffix.subset (ht.up k m hm)
      · exact (hfresh k m' hk hm').2.2
    about := by
      intro y hy k hyk
      rw [hw] at hy
      rcases List.mem_append.1 hy with hy | hy
      · obtain ⟨m, hm, hmt⟩ := ht.about y hy k hyk
        have he := hsend.old k (Host.lt_of_modal? hm)
        obtain ⟨m', hm', -, hmt', -⟩ := Host.modal?_of_content? he.symm hm
        exact ⟨m', hm', hmt' ▸ hmt⟩
      · obtain ⟨j, rfl | rfl⟩ := mem_mail hy <;> cases hyk
    posted := by
      intro k
      rw [hw, hh, mail_append, List.count_append, List.count_append]
      exact Nat.add_le_add_right (ht.posted k) _
    mounted := by
      intro k m' hm' hmt' hin
      by_cases hk : k < st.host.screens.length
      · obtain ⟨m, hm, -, hmt, -⟩ := hback k m' hk hm'
        rw [hw] at hin
        rcases List.mem_append.1 hin with hin | hin
        · exact ht.mounted k m hm (hmt ▸ hmt') hin
        · obtain ⟨later, h, hsplit⟩ := List.append_of_mem (mount_mem_mail.1 hin)
          have hpushed : .pushed k :: (h ++ st.history) <:+ st'.history := ⟨later, by rw [hh, hsplit]; simp⟩
          exact hr.legal.may hpushed (List.mem_append_right _ (ht.up k m hm))
      · rw [(hfresh k m' hk hm').1] at hmt'
        cases hmt'
    unmounted := by
      intro k m' hm' hmt'
      by_cases hk : k < st.host.screens.length
      · obtain ⟨m, hm, hc, hmt, -⟩ := hback k m' hk hm'
        obtain ⟨hin, hno⟩ := ht.unmounted k m hm (hmt ▸ hmt')
        exact ⟨hsub _ hin, fun t hin => hno t (hc ▸ hold _ t hin)⟩
      · obtain ⟨-, hc, hp⟩ := hfresh k m' hk hm'
        refine ⟨?_, fun t hin => ?_⟩
        · rw [hh] at hp
          rcases List.mem_append.1 hp with hp | hp
          · exact hw ▸ List.mem_append_right _ (mount_mem_mail.2 hp)
          · exact absurd (hs.pushed_lt k hp) hk
        · have hlt := ht.known _ t (hold _ t hin)
          omega
    known := fun i t hin => Nat.lt_of_lt_of_le (ht.known i t (hold i t hin)) hsend.more
    agree := by
      intro k m' hm' hmt' hopen
      by_cases hk : k < st.host.screens.length
      · obtain ⟨m, hm, hc, hmt, hchars⟩ := hback k m' hk hm'
        have hd : st.host.driver? k = some m'.controller := hc ▸ Host.driver?_of_modal? hm
        have hbefore := open_before hs hr hsend.suffix (ht.up k m hm) hd hopen
        have hagree := ht.agree k m hm (hmt ▸ hmt') (hc ▸ hbefore)
        obtain ⟨s, hshown⟩ := Phase.isOpen_iff.1 hbefore
        have hlt : m'.controller < (controllersAt sc st.history).length :=
          lt_of_phaseAt_ne_created (by rw [← hs.phase_eq, hshown]; simp)
        have htext : st'.text m'.controller = st.text m'.controller := by
          rw [hr.text_eq, hs.text_eq, hh, textAt_append hlt hnew]
        calc m'.field.text
          _ = m.field.text := congrArg String.ofList hchars.symm
          _ = heard k (st.text m.controller) (waiting ms st) := hagree
          _ = heard k (st'.text m'.controller) (waiting ms st') := by
            rw [hw, heard_append, heard_mail, htext, hc]
      · rw [(hfresh k m' hk hm').1] at hmt'
        cases hmt' }

/-- a dialog that is touched posts the text it then has -/
theorem InTouch.touches (ht : InTouch sc ms st) (htouch : Touches k st st') : InTouch sc ms st' := by
  obtain ⟨m, m', xs, hm, hmt, hm', hc, hmt', hq, hxs, htext⟩ := htouch.field
  have hw : waiting ms st' = waiting ms st ++ xs := by rw [waiting, hq, waiting, List.append_assoc]
  have hnomount : ∀ j, .mount j ∉ xs := by
    intro j hin
    cases hxs _ hin
  have hphase : ∀ i, st'.phase i = st.phase i := by
    intro i
    rw [Stage.phase, Stage.controller, htouch.controllers, Stage.phase, Stage.controller]
  have hsame : ∀ i, st'.text i = st.text i := by
    intro i
    rw [Stage.text, Stage.controller, htouch.controllers, Stage.text, Stage.controller]
  exact {
    up := by
      intro j mj hj
      rw [htouch.history]
      by_cases hjk : j = k
      · exact hjk ▸ ht.up k m hm
      · exact ht.up j mj (htouch.others j hjk ▸ hj)
    about := by
      intro y hy j hyj
      by_cases hjk : j = k
      · exact ⟨m', hjk ▸ hm', hmt'⟩
      · rw [hw] at hy
        rcases List.mem_append.1 hy with hy | hy
        · rw [htouch.others j hjk]
          exact ht.about y hy j hyj
        · exact absurd (Option.some.inj (hyj.symm.trans (hxs y hy))) hjk
    posted := by
      intro j
      rw [hw, List.count_append, List.count_eq_zero.2 (hnomount j), htouch.history]
      exact ht.posted j
    mounted := by
      intro j mj hj hmj hin
      rw [hw] at hin
      have hin := (List.mem_append.1 hin).resolve_right (hnomount j)
      by_cases hjk : j = k
      · exact ht.mounted k m hm hmt (hjk ▸ hin)
      · exact ht.mounted j mj (htouch.others j hjk ▸ hj) hmj hin
    unmounted := by
      intro j mj hj hmj
      by_cases hjk : j = k
      · obtain rfl : m' = mj := Option.some.inj (hm'.symm.trans (hjk ▸ hj))
        rw [hmt'] at hmj
        cases hmj
      · obtain ⟨hin, hno⟩ := ht.unmounted j mj (htouch.others j hjk ▸ hj) hmj
        rw [hw, htouch.history]
        exact ⟨List.mem_append_left _ hin, hno⟩
    known := by
      rw [htouch.history, htouch.controllers]
      exact ht.known
    agree := by
      intro j mj hj hmj hopen
      rw [hphase] at hopen
      rw [hsame, hw, heard_append]
      by_cases hjk : j = k
      · subst hjk
        obtain rfl : m' = mj := Option.some.inj (hm'.symm.trans hj)
        rw [htext, ht.agree j m hm hmt (hc ▸ hopen), hc]
      · rw [heard_of_forall_ne _ fun y hy he => hjk (Option.some.inj (he.symm.trans (hxs y hy)))]
        exact ht.agree j mj (htouch.others j hjk ▸ hj) hmj hopen }

/-- a message about another dialog is not heard -/
theorem heard_cons_of_ne {j : Nat} (hx : x.inputOn? = some k) (hj : j ≠ k) (t : String) (xs : List Message) :
    heard j t (x :: xs) = heard j t xs := by
  have hone : heard j t [x] = t := by
    apply heard_of_forall_ne
    intro y hy he
    obtain rfl := List.mem_singleton.1 hy
    exact hj (Option.some.inj (he.symm.trans hx))
  show heard j t ([x] ++ xs) = _
  rw [heard_append, hone]

/-- the message of a dialog reaches its prompt, with a text that what waits behind it leads on from -/
theorem InTouch.hears (ht : InTouch sc (x :: rest) st) (hs : Sound sc st) (hx : x.inputOn? = some k)
    (hm : st.host.modal? k = some m) (hmt : m.mounted) {value : String}
    (hv : (st.phase m.controller).isOpen → m.field.text = heard k value (waiting rest st)) :
    InTouch sc rest (st.setText m.controller value) := by
  have hr := hs.toRecorded.setText m.controller value
  obtain ⟨hh, hhost, -, hlen⟩ := setText_frame st m.controller value
  have hsub : ∀ y ∈ waiting rest st, y ∈ waiting (x :: rest) st := fun y hy => List.mem_cons_of_mem _ hy
  have hw : waiting rest (st.setText m.controller value) = waiting rest st := by rw [waiting, hhost, waiting]
  -- no other dialog has this prompt
  have hother : ∀ j mj, st.host.modal? j = some mj → j ≠ k → mj.controller ≠ m.controller := by
    intro j mj hj hjk he
    exact hjk (dialog_unique hs.toRecorded (he ▸ Host.driver?_of_modal? hj) (Host.driver?_of_modal? hm) (ht.up j mj hj)
      (ht.up k m hm))
  have hphase : ∀ i, (st.setText m.controller value).phase i = st.phase i := by
    intro i
    rw [hr.phase_eq, hh, phaseAt_texted, hs.phase_eq]
  rw [← hhost] at hm hother
  exact {
    up := by
      rw [hhost, hh]
      exact fun j mj hj => List.mem_cons_of_mem _ (ht.up j mj hj)
    about := by
      rw [hw, hhost]
      exact fun y hy => ht.about y (hsub y hy)
    posted := by
      intro j
      rw [hw, hh]
      exact Nat.le_trans (List.count_le_count_cons ..) (ht.posted j)
    mounted := by
      rw [hw, hhost]
      exact fun j mj hj hmj hin => ht.mounted j mj hj hmj (hsub _ hin)
    unmounted := by
      intro j mj hj hmj
      have hjk : j ≠ k := by
        rintro rfl
        obtain rfl : m = mj := Option.some.inj (hm.symm.trans hj)
        rw [hmt] at hmj
        cases hmj
      obtain ⟨hin, hno⟩ := ht.unmounted j mj (hhost ▸ hj) hmj
      rw [hw, hh]
      refine ⟨(List.mem_cons.1 hin).resolve_left ?_, fun t hin => ?_⟩
      · rintro rfl
        cases hx
      · rcases List.mem_cons.1 hin with he | hin
        · exact hother j mj hj hjk (Mark.texted.inj he).1
        · exact hno t hin
    known := by
      intro i t hin
      rw [hlen]
      rw [hh] at hin
      rcases List.mem_cons.1 hin with he | hin
      · obtain ⟨rfl, -⟩ := Mark.texted.inj he
        have hb := hs.shown _ k (hhost ▸ Host.driver?_of_modal? hm) (ht.up k m (hhost ▸ hm))
        rw [hs.controllers]
        apply lt_of_phaseAt_ne_created
        rw [← hs.phase_eq]
        exact phase_ne_created hs hb
      · exact ht.known i t hin
    agree := by
      intro j mj hj hmj hopen
      rw [hphase] at hopen
      rw [hw, hr.text_eq, hh, textAt_texted]
      by_cases hjk : j = k
      · subst hjk
        obtain rfl : m = mj := Option.some.inj (hm.symm.trans hj)
        obtain ⟨s, hshown⟩ := Phase.isOpen_iff.1 hopen
        rw [hs.phase_eq] at hshown
        rw [if_pos ⟨⟨rfl, lt_of_phaseAt_ne_created (by simp [hshown])⟩, by simp [hshown, Phase.isClosed]⟩]
        exact hv hopen
      · rw [if_neg fun htakes => hother j mj hj hjk htakes.1.1.symm, ← hs.text_eq,
          ht.agree j mj (hhost ▸ hj) hmj hopen]
        exact heard_cons_of_ne hx hjk _ _ }

/-- a dialog that is mounted starts with its prompt's text, and nothing waits about it -/
theorem InTouch.mount (ht : InTouch sc (.mount k :: rest) st) (hs : Sound sc st) (hm : st.host.modal? k = some m)
    (caret : Nat) : InTouch sc rest (updateDialog st k fun m' => { m' with
      mounted := true
      field := .ofText (st.text m.controller) caret }) := by
  set f : Modal → Modal := fun m' => { m' with
    mounted := true
    field := .ofText (st.text m.controller) caret } with hf
  have hmt : m.mounted = false := by
    by_contra hmt
    exact ht.mounted k m hm (by simpa using hmt) List.mem_cons_self
  have hsub : ∀ y ∈ waiting rest st, y ∈ waiting (.mount k :: rest) st := fun y hy => List.mem_cons_of_mem _ hy
  have hw : waiting rest (updateDialog st k f) = waiting rest st :=
    congrArg (rest ++ ·) (Host.queue_updateModal _ _ _)
  have hmodal : ∀ j, (updateDialog st k f).host.modal? j = if j = k then some (f m) else st.host.modal? j := by
    intro j
    show (st.host.updateModal k f).modal? j = _
    rw [Host.modal?_updateModal, hm]
    rfl
  have hnone : ∀ y ∈ waiting rest st, y.inputOn? ≠ some k := by
    intro y hy hyk
    obtain ⟨m', hm', hmt'⟩ := ht.about y (hsub y hy) k hyk
    obtain rfl : m = m' := Option.some.inj (hm.symm.trans hm')
    rw [hmt] at hmt'
    cases hmt'
  -- the message is the only one to mount it
  have honce : .mount k ∉ waiting rest st := by
    have hcount : (waiting (.mount k :: rest) st).count (.mount k) ≤ 1 :=
      Nat.le_trans (ht.posted k) (count_mount_mail hs.legal k)
    rw [waiting, List.cons_append, List.count_cons_self] at hcount
    exact List.count_eq_zero.1 (by rw [waiting]; omega)
  exact {
    up := by
      intro j mj hj
      rw [hmodal] at hj
      split_ifs at hj with hjk
      · exact hjk ▸ ht.up k m hm
      · exact ht.up j mj hj
    about := by
      rw [hw]
      intro y hy j hyj
      rw [hmodal]
      split_ifs with hjk
      · exact ⟨f m, rfl, rfl⟩
      · exact ht.about y (hsub y hy) j hyj
    posted := by
      rw [hw]
      exact fun j => Nat.le_trans (List.count_le_count_cons ..) (ht.posted j)
    mounted := by
      rw [hw]
      intro j mj hj hmj hin
      rw [hmodal] at hj
      split_ifs at hj with hjk
      · exact honce (hjk ▸ hin)
      · exact ht.mounted j mj hj hmj (hsub _ hin)
    unmounted := by
      rw [hw]
      intro j mj hj hmj
      rw [hmodal] at hj
      split_ifs at hj with hjk
      · obtain rfl := Option.some.inj hj
        cases hmj
      · obtain ⟨hin, hno⟩ := ht.unmounted j mj hj hmj
        exact ⟨(List.mem_cons.1 hin).resolve_left fun he => hjk (Message.mount.inj he), hno⟩
    known := ht.known
    agree := by
      rw [hw]
      intro j mj hj hmj hopen
      rw [hmodal] at hj
      split_ifs at hj with hjk
      · obtain rfl := Option.some.inj hj
        rw [hjk, heard_of_forall_ne _ hnone]
        exact String.ofList_toList
      · exact ht.agree j mj hj hmj hopen }

/-! ## Every step -/

/-- handling a message keeps the prompts in touch -/
theorem InTouch.after_handle (ht : InTouch sc (x :: rest) st) (hs : Sound sc st)
    (hr : Recorded sc (handle sc x st).stage) (hok : (handle sc x st).answer = .ok ())
    (hscript : ¬ ScriptSets (handle sc x st).stage.history) : InTouch sc rest (handle sc x st).stage := by
  have hfirst : x ∈ waiting (x :: rest) st := List.mem_cons_self
  cases x with
  | mount k =>
    cases hm : st.host.modal? k with
    | some m =>
      rw [(mount_returned hm hok).2]
      exact ht.mount hs hm _
    | none =>
      have he : (handle sc (.mount k) st).stage = st := by simp [handle, hm]
      rw [he]
      refine ht.drop (fun _ _ _ => rfl) ?_
      rintro j m hj he
      cases he
      rw [hm] at hj
      cases hj
  | changed k value =>
    obtain ⟨m, hm, hmt⟩ := ht.about _ hfirst k rfl
    have he : (handle sc (.changed k value) st).stage = st.setText m.controller value := by simp [handle, hm]
    rw [he]
    apply ht.hears hs rfl hm hmt
    intro hopen
    rw [ht.agree k m hm hmt hopen, waiting, List.cons_append, heard, if_pos rfl, waiting]
  | submitted k value =>
    obtain ⟨m, hm, hmt⟩ := ht.about _ hfirst k rfl
    have he : (handle sc (.submitted k value) st).stage =
        (trigger sc m.controller .primary (st.setText m.controller value)).stage := by simp [handle, hm]
    rw [he] at hr hscript ⊢
    have hset : InTouch sc rest (st.setText m.controller value) := by
      apply ht.hears hs rfl hm hmt
      intro hopen
      rw [ht.agree k m hm hmt hopen, waiting, List.cons_append, heard, if_pos rfl, waiting]
    exact hset.sends (follows_setText _ _ hs).1 hr (sends_trigger _ _ _) hscript
  | pressed k w =>
    obtain ⟨m, hm, hmt⟩ := ht.about _ hfirst k rfl
    by_cases hopen : (st.phase m.controller).isOpen
    · have he : (handle sc (.pressed k w) st).stage =
          (pressControl sc m.controller w (st.setText m.controller m.field.text)).stage := by
        simp [handle, hm, hopen]
      rw [he] at hr hscript ⊢
      have hset : InTouch sc rest (st.setText m.controller m.field.text) := by
        apply ht.hears hs rfl hm hmt
        intro hopen
        have hagree : m.field.text = heard k (st.text m.controller) (waiting rest st) := ht.agree k m hm hmt hopen
        rw [hagree, heard_heard]
      exact hset.sends (follows_setText _ _ hs).1 hr (sends_pressControl _ _ _) hscript
    · have he : (handle sc (.pressed k w) st).stage = st := by simp [handle, hm, hopen]
      rw [he]
      exact ht.drop (fun _ _ _ => rfl) (by simp)
  | unmount k =>
    have hdrop : InTouch sc rest st := ht.drop (fun _ _ _ => rfl) (by simp)
    have hsend : Sends False st (handle sc (.unmount k) st).stage := by
      unfold handle
      dsimp only
      split
      · exact sends_unmountDialog k _ st
      · exact .refl _ st
    exact hdrop.sends hs hr hsend hscript

/-- **In an application in which only dialogs set texts, prompts stay in touch with their dialogs.** -/
theorem Reached.inTouch (hcan : ∀ i, can i → i.setsText = false) (hr : Reached sc can ms st)
    (hscript : ¬ ScriptSets st.history) : InTouch sc ms st := by
  induction hr with
  | start => exact inTouch_start
  | @input i st hr hi ih =>
    have hafter := (hr.input hi).live
    rcases accept_cases sc i st with hsend | ⟨k, htouch⟩
    · have hsend : Sends False st (accept sc i st).stage := hsend.mono (by simp [hcan i hi])
      have hbefore : ¬ ScriptSets st.history := fun hs => hscript (hs.mono fun _ hin => hsend.suffix.subset hin)
      exact (ih hbefore).sends hr.live.toSound hafter.toRecorded hsend hscript
    · rw [htouch.history] at hscript
      exact (ih hscript).touches htouch
  | round _ ih => exact (ih hscript).emptied
  | @handle x rest st hr hok ih =>
    have hbefore : ¬ ScriptSets st.history :=
      fun hs => hscript (hs.mono fun _ hin => (suffix_handle sc x st).subset hin)
    exact (ih hbefore).after_handle hr.live.toSound (hr.handle hok).live.toRecorded hok hscript

end LinePrompt.Screen
