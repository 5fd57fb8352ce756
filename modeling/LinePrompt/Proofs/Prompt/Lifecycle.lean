/-
The life of a controller: its phase, its outcome and its text at every moment of a run.

The moments of a run are the histories that its own ends with. `controller_lifecycle` says that a controller goes from
created to shown to closed one step at a time, that outcome and text rest once it is closed, and that the text its
handler gets is the one it was last given before the trigger that closed it, however often the surface or a handler
sets a text or triggers it again. No text is left out of that: each call that sets one leaves its mark
(`texted_of_madeIn`).
-/
import LinePrompt.Proofs.Prompt.Errands

namespace LinePrompt.Prompt

variable {sc : Scene} {h h' : List Mark} {id : Nat} {st : Stage} {o : Outcome}

/-! ## Texts -/

/-- the text that a controller was last given since it was made -/
def lastText? (id : Nat) : List Mark → Option String
  | [] => none
  | .made i _ :: h => if i = id then none else lastText? id h
  | .texted i text :: h => if i = id then some text else lastText? id h
  | _ :: h => lastText? id h

/-- until it is closed a controller has the text it was last given, or the one it started with -/
theorem Legal.textAt_eq (hl : Legal sc h) (hi : id < (controllersAt sc h).length)
    (hp : (phaseAt sc h id).isClosed = false) :
    textAt sc h id = (lastText? id h).getD (requestAt sc h id).startText := by
  induction h with
  | nil => simp [controllersAt] at hi
  | cons m h ih =>
    cases m with
    | made i name =>
      obtain rfl : i = (controllersAt sc h).length := hl.1
      unfold textAt requestAt
      rw [controllerAt_made, lastText?]
      by_cases hid : id = (controllersAt sc h).length
      · rw [if_pos hid, if_pos hid.symm]
        rfl
      · rw [if_neg hid, if_neg (Ne.symm hid)]
        have hlt : id < (controllersAt sc h).length := by
          simp only [controllersAt, List.length_append, List.length_singleton] at hi
          omega
        exact ih hl.2 hlt (by rwa [phaseAt_made] at hp)
    | moved i phase =>
      have hlt : id < (controllersAt sc h).length := by simpa [controllersAt] using hi
      have hopen : (phaseAt sc h id).isClosed = false := by
        cases hq : phaseAt sc h id with
        | closed o =>
          rw [hl.phaseAt_closed (List.suffix_cons _ _) hq] at hp
          exact hp
        | _ => rfl
      rw [textAt_moved, requestAt_moved]
      exact ih hl.2 hlt hopen
    | texted i text =>
      have hlt : id < (controllersAt sc h).length := by
        simp only [controllersAt] at hi
        split_ifs at hi
        · exact hi
        · simpa using hi
      rw [phaseAt_texted] at hp
      rw [textAt_texted, requestAt_texted, lastText?]
      by_cases hid : i = id
      · rw [if_pos ⟨⟨hid, hlt⟩, by simp [hp]⟩, if_pos hid]
        rfl
      · rw [if_neg fun ht => hid ht.1.1, if_neg hid]
        exact ih hl.2 hlt hp
    | _ => exact ih hl.2 hi hp

/-- Whoever sets a text, that it was set stands in the history of the run, at the moment of the call. -/
theorem texted_of_madeIn {depth : Nat} {calls : List Call} {m : Occasion} {name text : String}
    (hm : MadeIn sc depth calls m)
    (hdepth : m.depth ≠ 0) (hcall : m.call = .prompt name (.setText text)) :
    .texted ((m.stage.ensure sc name).currentId name) text :: (m.stage.ensure sc name).history <:+
      (runWithin sc depth calls .empty).history := by
  obtain ⟨within, hwithin⟩ := Nat.exists_eq_succ_of_ne_zero hdepth
  have hran : (m.ran sc).stage = (m.stage.ensure sc name).setText ((m.stage.ensure sc name).currentId name) text := by
    rw [Occasion.ran, hwithin, hcall]
    rfl
  have hsuffix := suffix_of_madeIn hm
  rw [hran] at hsuffix
  have hmark (st : Stage) (id : Nat) : (st.setText id text).history = .texted id text :: st.history := by
    unfold Stage.setText
    split <;> rfl
  rwa [hmark] at hsuffix

/-! ## Phases -/

theorem Legal.begins {name : String} (hl : Legal sc h') (hs : .made id name :: h <:+ h') :
    phaseAt sc (.made id name :: h) id = .created := by
  have hid : id = (controllersAt sc h).length := hl.may hs
  rw [phaseAt, controllerAt_made, if_pos hid]
  rfl

theorem Legal.steps {m : Mark} (hl : Legal sc h') (hs : m :: h <:+ h') (id : Nat) :
    phaseAt sc (m :: h) id = phaseAt sc h id ∨ (phaseAt sc h id).Next (phaseAt sc (m :: h) id) := by
  have may := hl.may hs
  cases m with
  | made i name => exact Or.inl (phaseAt_made i name)
  | texted i text => exact Or.inl (phaseAt_texted i text)
  | moved i phase =>
    rw [phaseAt_moved]
    split_ifs with hi
    · obtain ⟨rfl, -⟩ := hi
      exact Or.inr may.2
    · exact Or.inl rfl
  | _ => exact Or.inl rfl

/-- a closed controller was closed at some moment, before which it was not -/
theorem Legal.exists_moved (hl : Legal sc h) (hp : phaseAt sc h id = .closed o) :
    ∃ h₀, .moved id (.closed o) :: h₀ <:+ h ∧ id < (controllersAt sc h₀).length ∧
      (phaseAt sc h₀ id).isClosed = false := by
  induction h with
  | nil => simp [phaseAt, controllerAt, controllersAt, Controller.blank] at hp
  | cons m h ih =>
    by_cases hq : phaseAt sc h id = .closed o
    · obtain ⟨h₀, hs, hrest⟩ := ih hl.2 hq
      exact ⟨h₀, hs.trans (List.suffix_cons _ _), hrest⟩
    · cases m with
      | moved i phase =>
        rw [phaseAt_moved] at hp
        split_ifs at hp with hi
        · obtain ⟨rfl, hlt⟩ := hi
          subst hp
          refine ⟨h, List.suffix_refl _, hlt, ?_⟩
          have hn : (phaseAt sc h i).Next (.closed o) := hl.1.2
          cases hc : phaseAt sc h i with
          | closed o' => rw [hc] at hn; exact hn.elim
          | _ => rfl
        · exact absurd hp hq
      | made i name => rw [phaseAt_made] at hp; exact absurd hp hq
      | texted i text => rw [phaseAt_texted] at hp; exact absurd hp hq
      | _ => exact absurd hp hq

theorem Phase.outcome?_eq_some {p : Phase} : p.outcome? = some o ↔ p = .closed o := by
  cases p <;> simp [Phase.outcome?]

/-- the handler begins on a closed controller, with its text -/
theorem Legal.handler {t : String} (hl : Legal sc h') (hs : .began id (.handler o t) :: h <:+ h') :
    phaseAt sc h id = .closed o ∧ t = textAt sc h id := by
  obtain ⟨s, o', rest, hp, -, he⟩ := hl.began_closing hs (by simp)
  obtain ⟨rfl, ht, -⟩ := handler_of_mem_lifeline (he ▸ List.mem_append_right _ List.mem_cons_self)
  exact ⟨hp, ht⟩

/-! ## Every run -/

/-- what becomes of a controller, at every moment of a run -/
structure Lifecycle (sc : Scene) (st : Stage) (id : Nat) : Prop where
  /-- the history tells the controller -/
  told : st.controller id = controllerAt sc st.history id
  begins : ∀ name h, .made id name :: h <:+ st.history → phaseAt sc (.made id name :: h) id = .created
  /-- from created to shown to closed, one step at a time -/
  steps : ∀ m h, m :: h <:+ st.history →
    phaseAt sc (m :: h) id = phaseAt sc h id ∨ (phaseAt sc h id).Next (phaseAt sc (m :: h) id)
  unset : ∀ h, h <:+ st.history → ((phaseAt sc h id).outcome? = none ↔ (phaseAt sc h id).isClosed = false)
  /-- outcome and text rest once the controller is closed -/
  fixed : ∀ h h' o, h <:+ h' → h' <:+ st.history → (phaseAt sc h id).outcome? = some o →
    (phaseAt sc h' id).outcome? = some o ∧ textAt sc h' id = textAt sc h id
  /-- the handler's text is the one last given before the trigger that closed the controller, and stays its text -/
  handled : ∀ o t h, .began id (.handler o t) :: h <:+ st.history →
    ∃ since before, h = since ++ .moved id (.closed o) :: before ∧
      t = (lastText? id before).getD (requestAt sc before id).startText ∧
      ∀ h', .moved id (.closed o) :: before <:+ h' → h' <:+ st.history → textAt sc h' id = t

theorem Sound.lifecycle (hs : Sound sc st) (id : Nat) : Lifecycle sc st id where
  told := by rw [Stage.controller, hs.controllers, controllerAt]
  begins name h hm := hs.legal.begins hm
  steps m h hm := hs.legal.steps hm id
  unset h _ := by cases phaseAt sc h id <;> simp [Phase.outcome?, Phase.isClosed]
  fixed h h' o hh hh' ho := by
    rw [Phase.outcome?_eq_some] at ho
    have hl := hs.legal.of_suffix hh'
    refine ⟨?_, hl.textAt_closed hh ho⟩
    rw [hl.phaseAt_closed hh ho]
    rfl
  handled o t h hb := by
    obtain ⟨hp, ht⟩ := hs.legal.handler hb
    have hl : Legal sc h := (hs.legal.of_suffix hb).2
    obtain ⟨before, hsuf, hlt, hopen⟩ := hl.exists_moved hp
    obtain ⟨since, rfl⟩ := hsuf
    have hclosed : phaseAt sc (.moved id (.closed o) :: before) id = .closed o := by
      rw [phaseAt_moved, if_pos ⟨rfl, hlt⟩]
    have hbefore : textAt sc before id = t := by
      rw [ht, hl.textAt_closed (List.suffix_append _ _) hclosed, textAt_moved]
    refine ⟨since, before, rfl, ?_, ?_⟩
    · rw [← hbefore]
      exact (hl.of_suffix (List.suffix_append _ _)).2.textAt_eq hlt hopen
    · intro h' hh hh'
      rw [(hs.legal.of_suffix hh').textAt_closed hh hclosed, textAt_moved, hbefore]

/-- **A controller lives once.** For every scene, every sequence of calls and every bound on how deeply they nest; the
stages that further calls lead to only add to the history. -/
theorem controller_lifecycle (sc : Scene) (depth : Nat) (calls : List Call) (id : Nat) :
    Lifecycle sc (runWithin sc depth calls .empty) id ∧
      ∀ more, (runWithin sc depth calls .empty).history <:+ (runWithin sc depth (calls ++ more) .empty).history := by
  have hs := sound_runWithin sc depth calls
  refine ⟨hs.lifecycle id, ?_⟩
  intro more
  have happ : runWithin sc depth (calls ++ more) .empty = runWithin sc depth more (runWithin sc depth calls .empty) :=
    List.foldl_append
  rw [happ]
  exact (follows_runWithin sc depth more _ hs).2.suffix

/-- a prompt whose surface sets texts as it comes up and as it leaves -/
def restless : Scene where
  request title := { Request.titled title with onPrimary := [] }
  surface place := ⟨[.call (.prompt place (.setText "early"))], [.call (.prompt place (.setText "late"))]⟩
  threshold := 10
  cancelLabel := "Cancel"
  escapeDismisses := true

/-- The handler gets the text that was set before the trigger; the one that the surface sets then is marked, and the
prompt keeps its own. -/
theorem controller_lifecycle_restless :
    let calls := [.prompt "a" (.display none), .prompt "a" (.setText "typed"), .prompt "a" .primary]
    let st := runWithin restless 3 calls .empty
    (∃ h, .began 0 (.handler .primary "typed") :: h <:+ st.history ∧ .texted 0 "late" ∈ h) ∧ st.text 0 = "typed" := by
  intro calls st
  have hbegan : .began 0 (.handler .primary "typed") :: st.history.drop 2 <:+ st.history := ⟨st.history.take 1, rfl⟩
  have hlate : .texted 0 "late" ∈ st.history.drop 2 := by
    have hmark : (st.history.drop 2)[2]? = some (.texted 0 "late") := rfl
    exact List.mem_of_getElem? hmark
  have hlife : Lifecycle restless st 0 := (controller_lifecycle restless 3 calls 0).1
  refine ⟨⟨_, hbegan, hlate⟩, ?_⟩
  obtain ⟨since, before, hsplit, -, hstays⟩ := hlife.handled _ _ _ hbegan
  have hclosed : .moved 0 (.closed .primary) :: before <:+ st.history :=
    (List.IsSuffix.trans ⟨since, hsplit.symm⟩ (List.suffix_cons _ _)).trans hbegan
  rw [Stage.text, hlife.told]
  exact hstays _ hclosed (List.suffix_refl _)

end LinePrompt.Prompt
