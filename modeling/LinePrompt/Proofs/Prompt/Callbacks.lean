/-
The callbacks of a controller over a whole run.

A run is any sequence of calls from outside, on scripts that call each other and every controller back, raise and
swallow faults as they like. `callbacks_in_order` says what each controller has had after it: its callbacks are a
beginning of its lifeline, all of it if it is closed and no callback was cut short, and each callback that ended had
finished whatever began inside of it.
-/
import LinePrompt.Proofs.Prompt.Calls

namespace LinePrompt.Prompt

variable {sc : Scene} {h : List Mark} {id : Nat} {st : Stage} {r : Request} {s : Surface} {o : Outcome} {t : String}

/-! ## Lifelines -/

/-- the callbacks that closing a prompt runs -/
def closing (r : Request) (s : Surface) (o : Outcome) (t : String) : List Callback :=
  .surfaceClose s :: [.handler o t, .onClosed].filter fun cb => (handlerScript r cb).isSome

/-- a prompt comes up, and then each callback of its closing begins and ends before the next begins -/
theorem lifeline_eq (r : Request) (id : Nat) (s : Surface) (o : Outcome) (t : String) :
    lifeline r id s o t =
      .began id (.surfaceShow s) :: (closing r s o t).flatMap fun cb => [.began id cb, .ended id cb] := by
  unfold lifeline scripted closing
  split_ifs with hh hc hc <;> simp [hh, hc]

theorem began_of_flatMap_eq {cb : Callback} {had rest : List Mark} {cbs : List Callback}
    (he : had ++ .ended id cb :: rest = cbs.flatMap fun cb => [.began id cb, .ended id cb]) :
    .began id cb ∈ had ∧ cb ∈ cbs := by
  induction cbs generalizing had with
  | nil => simp at he
  | cons c cbs ih =>
    rcases had with _ | ⟨a, _ | ⟨b, had⟩⟩
    · simp at he
    · simp only [List.flatMap_cons, List.cons_append, List.nil_append, List.cons.injEq, Mark.ended.injEq] at he
      obtain ⟨rfl, ⟨-, rfl⟩, -⟩ := he
      exact ⟨List.mem_cons_self, List.mem_cons_self⟩
    · simp only [List.flatMap_cons, List.cons_append, List.nil_append, List.cons.injEq] at he
      obtain ⟨hb, hc⟩ := ih he.2.2
      exact ⟨List.mem_cons_of_mem _ (List.mem_cons_of_mem _ hb), List.mem_cons_of_mem _ hc⟩

/-- what ends on a lifeline has begun there -/
theorem began_of_lifeline_eq {cb : Callback} {had rest : List Mark}
    (he : had ++ .ended id cb :: rest = lifeline r id s o t) : .began id cb ∈ had ∧ ∀ s, cb ≠ .surfaceShow s := by
  rw [lifeline_eq] at he
  rcases had with _ | ⟨a, had⟩
  · simp at he
  · obtain ⟨-, he⟩ := List.cons.inj he
    obtain ⟨hb, hc⟩ := began_of_flatMap_eq he
    refine ⟨List.mem_cons_of_mem _ hb, ?_⟩
    rintro s' rfl
    simp [closing] at hc

/-! ## Every run -/

/-- what a controller has had at the end of a run -/
structure InOrder (sc : Scene) (st : Stage) (id : Nat) : Prop where
  /-- at most one coming up, one closing of the surface, one handler and one `onClosed`, each begun after the one before
  has returned, or in the case of the coming up, has begun; the outcome is the one recorded -/
  ordered : ∃ s o t, deeds id st.history <+: lifeline (st.request sc id) id s o t ∧
    ∀ o', st.phase id = .closed o' → o = o' ∧ t = st.text id
  /-- the handler that is called is the one of the recorded outcome -/
  handler : ∀ o t, .began id (.handler o t) ∈ st.history →
    st.phase id = .closed o ∧ ((st.request sc id).handlerFor o).isSome
  /-- if the prompt is closed and no callback of its closing was cut short, none of them is missing -/
  complete : ∀ o, st.phase id = .closed o →
    (∀ cb, (∀ s, cb ≠ .surfaceShow s) → .began id cb ∈ st.history → .ended id cb ∈ st.history) →
    ∃ s, deeds id st.history = lifeline (st.request sc id) id s o (st.text id)
  /-- when a callback ends, whatever began inside of it is over -/
  nested : ∀ cb h, .ended id cb :: h <:+ st.history →
    ∃ h₀, .began id cb :: h₀ <:+ h ∧ openAt (.ended id cb :: h) = openAt h₀

theorem Legal.nested {cb : Callback} {h' : List Mark} (hl : Legal sc h') (hs : .ended id cb :: h <:+ h') :
    ∃ h₀, .began id cb :: h₀ <:+ h ∧ openAt (.ended id cb :: h) = openAt h₀ := by
  obtain ⟨hopen, -, -⟩ := hl.may hs
  obtain ⟨inner, rest, he⟩ := List.append_of_mem hopen
  have hrest : (id, cb) :: rest <:+ openAt h := ⟨inner, he.symm⟩
  obtain ⟨h₀, hb, ho⟩ := openAt_below hrest
  refine ⟨h₀, hb, ?_⟩
  rw [openAt_ended (hl.of_suffix hs).2.nodup_openAt hrest, ho]

theorem Sound.inOrder (hs : Sound sc st) (id : Nat) : InOrder sc st id where
  ordered := by
    rw [hs.phase_eq, hs.text_eq, hs.request_eq]
    exact hs.legal.deeds_prefix id
  handler o t hb := by
    obtain ⟨later, h, he⟩ := List.append_of_mem hb
    have hbegan : .began id (.handler o t) :: h <:+ st.history := ⟨later, he.symm⟩
    have hsuf : h <:+ st.history := (List.suffix_cons _ _).trans hbegan
    obtain ⟨s, o', rest, hp, -, hl⟩ := hs.legal.began_closing hbegan (by simp)
    obtain ⟨rfl, -, hsome⟩ := handler_of_mem_lifeline (hl ▸ List.mem_append_right _ List.mem_cons_self)
    have hlt : id < (controllersAt sc h).length := lt_of_phaseAt_ne_created (by simp [hp])
    rw [hs.phase_eq, hs.request_eq, hs.legal.phaseAt_closed hsuf hp, requestAt_of_lt hsuf hlt]
    exact ⟨rfl, hsome⟩
  complete o hp hall := by
    have ha := hs.rest id
    unfold AtRest at ha
    rw [hs.phase_eq] at hp
    simp only [hp] at ha
    rw [hs.text_eq, hs.request_eq]
    obtain ⟨s, todo, he, rfl | ⟨cb, rest, rfl, -⟩⟩ := ha
    · exact ⟨s, by simpa using he⟩
    -- a callback that began and did not end would have been cut short
    · exfalso
      obtain ⟨hb, hcb⟩ := began_of_lifeline_eq he
      have hended : Mark.ended id cb ∈ deeds id st.history := by
        refine mem_deeds.2 ⟨hall cb hcb (mem_deeds.1 hb).1, ?_⟩
        cases cb with
        | surfaceShow s => exact absurd rfl (hcb s)
        | _ => simp [Mark.isDeedOf]
      have hn : (lifeline (requestAt sc st.history id) id s o (textAt sc st.history id)).Nodup :=
        nodup_lifeline _ _ _ _
      rw [← he] at hn
      exact List.disjoint_of_nodup_append hn hended List.mem_cons_self
  nested cb h he := hs.legal.nested he

/-- **Each callback of a controller comes once, in its order and in full.** For every scene, every sequence of calls
and every bound on how deeply they nest, over the whole run and for each controller. -/
theorem callbacks_in_order (sc : Scene) (depth : Nat) (calls : List Call) (id : Nat) :
    InOrder sc (runWithin sc depth calls .empty) id :=
  (sound_runWithin sc depth calls).inOrder id

/-- a prompt whose handler and whose `onClosed` trigger it again; no record is made -/
def insistent : Scene where
  request title := { Request.titled title with
    onPrimary := [.call (.prompt title .cancel)]
    onClosed := some [.call (.prompt title .primary)] }
  surface _ := ⟨[], []⟩
  threshold := 50
  cancelLabel := "Cancel"
  escapeDismisses := true

/-- each of its callbacks is called once, and the triggers inside of them are refused -/
theorem callbacks_in_order_insistent :
    let st := runWithin insistent 3 [.prompt "a" (.display none), .prompt "a" .primary, .prompt "a" .dismiss] .empty
    st.phase 0 = .closed .primary ∧ deeds 0 st.history =
      [.began 0 (.surfaceShow (.scripted "a")), .began 0 (.surfaceClose (.scripted "a")),
        .ended 0 (.surfaceClose (.scripted "a")), .began 0 (.handler .primary ""), .ended 0 (.handler .primary ""),
        .began 0 .onClosed, .ended 0 .onClosed] := by
  intro st
  have hhistory : st.history =
      [.ended 0 .onClosed, .returned (.prompt "a" .primary) (.flag false), .began 0 .onClosed,
        .ended 0 (.handler .primary ""), .returned (.prompt "a" .cancel) (.flag false), .began 0 (.handler .primary ""),
        .ended 0 (.surfaceClose (.scripted "a")), .began 0 (.surfaceClose (.scripted "a")), .moved 0 (.closed .primary),
        .ended 0 (.surfaceShow (.scripted "a")), .began 0 (.surfaceShow (.scripted "a")),
        .moved 0 (.shown (.scripted "a")), .made 0 "a"] := rfl
  have horder : InOrder insistent st 0 := callbacks_in_order insistent 3 _ 0
  obtain ⟨s, hdeeds⟩ := horder.complete .primary rfl fun cb hcb hbegan => by
    rw [hhistory] at hbegan ⊢
    simp at hbegan ⊢
    tauto
  have hs : s = .scripted "a" := by
    have hcame : .began 0 (.surfaceShow s) ∈ deeds 0 st.history := by
      rw [hdeeds]
      exact List.mem_cons_self
    have hbegan := (mem_deeds.1 hcame).1
    rw [hhistory] at hbegan
    simpa using hbegan
  subst hs
  exact ⟨rfl, hdeeds⟩

end LinePrompt.Prompt
