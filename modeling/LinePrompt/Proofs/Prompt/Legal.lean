/-
Legal histories: each mark was due when it was made.

`May` says what may happen after a history: a controller moves one step at a time, a callback begins and ends where
its controller's lifeline has it next, a screen is pushed once and leaves from the top, and a prompt takes no screen
but its own dialog. A legal history is one of which every moment keeps to that.

- `Legal.ordered`: the callbacks of each controller are a beginning of its lifeline.
- `Legal.phaseAt_closed`, `Legal.textAt_closed`: a closed controller stays as it is.
- `Legal.nodup_openAt`, `Legal.nodup_stackAt`: nothing is under way twice, and no screen is on the stack twice.
- `Legal.not_mem_stackAt`: a screen that left does not come back.
-/
import LinePrompt.Proofs.Prompt.History

namespace LinePrompt.Prompt

variable {sc : Scene} {h h' : List Mark} {id : Nat}

/-! ## What may happen -/

/-- from created to shown to closed, one step at a time -/
def Phase.Next : Phase → Phase → Prop
  | .created, .shown _ => True
  | .shown _, .closed _ => True
  | _, _ => False

/-- is this the next mark of the controller's callbacks? -/
def Due (sc : Scene) (h : List Mark) (id : Nat) (m : Mark) : Prop :=
  match phaseAt sc h id with
  | .created => False
  | .shown s => deeds id h = [] ∧ m = .began id (.surfaceShow s)
  | .closed o => ∃ s, deeds id h ++ [m] <+: lifeline (requestAt sc h id) id s o (textAt sc h id)

/-- a closed controller's dialog has nothing left to do with the stack: it was taken away and the controller dismissed,
it left, or it was covered when the controller was closed -/
def Withdrawn (sc : Scene) (h : List Mark) (id k : Nat) : Prop :=
  (.detached k ∈ h ∧ phaseAt sc h id = .closed .dismissed) ∨ (∃ why, .left k why ∈ h) ∨
    ∃ o h₀, .moved id (.closed o) :: h₀ <:+ h ∧ k ∈ (stackAt h₀).tail

/-- what may happen after a history -/
def May (sc : Scene) (h : List Mark) : Mark → Prop
  | .made i _ => i = (controllersAt sc h).length
  | .moved i phase => i < (controllersAt sc h).length ∧ (phaseAt sc h i).Next phase
  | .pushed k => .pushed k ∉ h
  | .left k why => (stackAt h).head? = some k ∧
      ∀ i, why = .closed i → h.head? = some (.began i (.surfaceClose (.dialog k)))
  | .began i cb => Due sc h i (.began i cb)
  | .ended i cb => (i, cb) ∈ openAt h ∧ ((Mark.ended i cb).isDeedOf i → Due sc h i (.ended i cb)) ∧
      ∀ k, cb = .surfaceClose (.dialog k) → Withdrawn sc h i k
  | .detached k => .pushed k ∈ h
  | _ => True

/-- every mark could be made when it was -/
def Legal (sc : Scene) : List Mark → Prop
  | [] => True
  | m :: h => May sc h m ∧ Legal sc h

theorem Legal.of_suffix (hl : Legal sc h') (hs : h <:+ h') : Legal sc h := by
  obtain ⟨ms, rfl⟩ := hs
  induction ms with
  | nil => exact hl
  | cons m ms ih => exact ih hl.2

theorem Legal.may {m : Mark} (hl : Legal sc h') (hs : m :: h <:+ h') : May sc h m := (hl.of_suffix hs).1

/-! ## Controllers -/

/-- a controller that was made keeps its number and its name -/
theorem controllerAt_name (hs : h <:+ h') (hi : id < (controllersAt sc h).length) :
    id < (controllersAt sc h').length ∧ (controllerAt sc h' id).name = (controllerAt sc h id).name := by
  obtain ⟨ms, rfl⟩ := hs
  induction ms with
  | nil => exact ⟨hi, rfl⟩
  | cons m ms ih =>
    obtain ⟨hlt, hname⟩ := ih
    rw [← hname]
    cases m with
    | made i name =>
      refine ⟨by simpa [controllersAt] using Nat.lt_succ_of_lt hlt, ?_⟩
      rw [List.cons_append, controllerAt_made, if_neg (Nat.ne_of_lt hlt)]
    | moved i phase =>
      refine ⟨by simpa [controllersAt] using hlt, ?_⟩
      rw [List.cons_append, controllerAt_moved]
      split_ifs <;> rfl
    | texted i text =>
      refine ⟨?_, ?_⟩
      · simp only [List.cons_append, controllersAt]
        split_ifs
        · exact hlt
        · simpa using hlt
      · rw [List.cons_append, controllerAt_texted]
        split_ifs <;> rfl
    | _ => exact ⟨hlt, rfl⟩

/-- controllers are never unmade -/
theorem length_controllersAt_le (hs : h <:+ h') : (controllersAt sc h).length ≤ (controllersAt sc h').length := by
  by_contra hlt
  exact Nat.lt_irrefl _ (controllerAt_name hs (Nat.lt_of_not_le hlt)).1

theorem requestAt_of_lt (hs : h <:+ h') (hi : id < (controllersAt sc h).length) :
    requestAt sc h' id = requestAt sc h id :=
  congrArg sc.request (controllerAt_name hs hi).2

theorem Legal.phaseAt_closed {o : Outcome} (hl : Legal sc h') (hs : h <:+ h') (hp : phaseAt sc h id = .closed o) :
    phaseAt sc h' id = .closed o := by
  obtain ⟨ms, rfl⟩ := hs
  induction ms with
  | nil => exact hp
  | cons m ms ih =>
    have hq := ih hl.2
    cases m with
    | made i name => rw [List.cons_append, phaseAt_made, hq]
    | texted i text => rw [List.cons_append, phaseAt_texted, hq]
    | moved i phase =>
      rw [List.cons_append, phaseAt_moved, hq, if_neg]
      rintro ⟨rfl, -⟩
      have hn : (phaseAt sc (ms ++ h) i).Next phase := hl.1.2
      rw [hq] at hn
      cases phase <;> exact hn
    | _ => exact hq

theorem Legal.textAt_closed {o : Outcome} (hl : Legal sc h') (hs : h <:+ h') (hp : phaseAt sc h id = .closed o) :
    textAt sc h' id = textAt sc h id := by
  obtain ⟨ms, rfl⟩ := hs
  induction ms with
  | nil => rfl
  | cons m ms ih =>
    have hl' : Legal sc (ms ++ h) := hl.2
    have hq := hl'.phaseAt_closed (List.suffix_append ms h) hp
    have ht := ih hl'
    cases m with
    | made i name =>
      have hlt : id < (controllersAt sc (ms ++ h)).length := lt_of_phaseAt_ne_created (by simp [hq])
      rw [List.cons_append, textAt, controllerAt_made, if_neg (Nat.ne_of_lt hlt)]
      exact ht
    | moved i phase => rw [List.cons_append, textAt_moved, ht]
    | texted i text =>
      rw [List.cons_append, textAt_texted, if_neg, ht]
      rintro ⟨-, hn⟩
      exact hn (by rw [hq]; rfl)
    | _ => exact ht

/-- a controller is closed once -/
theorem Legal.closed_once {o o' : Outcome} {h₁ h₂ : List Mark} (hl : Legal sc h)
    (h1 : .moved id (.closed o) :: h₁ <:+ h) (h2 : .moved id (.closed o') :: h₂ <:+ h) : o = o' ∧ h₁ = h₂ := by
  have later {o o' : Outcome} {h₁ h₂ : List Mark} (h1 : .moved id (.closed o) :: h₁ <:+ h₂)
      (h2 : .moved id (.closed o') :: h₂ <:+ h) : False := by
    have hl₂ := hl.of_suffix h2
    obtain ⟨hlt, -⟩ := hl₂.2.may h1
    have hp : phaseAt sc (.moved id (.closed o) :: h₁) id = .closed o := by rw [phaseAt_moved, if_pos ⟨rfl, hlt⟩]
    have hn : (phaseAt sc h₂ id).Next (.closed o') := hl₂.1.2
    rw [hl₂.2.phaseAt_closed h1 hp] at hn
    exact hn
  rcases List.suffix_or_suffix_of_suffix h1 h2 with hs | hs
  · rcases List.suffix_cons_iff.1 hs with he | hs
    · cases he
      exact ⟨rfl, rfl⟩
    · exact (later hs h2).elim
  · rcases List.suffix_cons_iff.1 hs with he | hs
    · cases he
      exact ⟨rfl, rfl⟩
    · exact (later hs h1).elim

/-! ## Callbacks -/

/-- does a mark move the controller, or count for the order of its callbacks? -/
def Mark.touches (id : Nat) : Mark → Bool
  | .moved i _ => i == id
  | m => m.isDeedOf id

/-- between two moments the controller did not move and had no callback; its text rests once it is closed -/
structure Untouched (sc : Scene) (h h' : List Mark) (id : Nat) : Prop where
  phase : phaseAt sc h' id = phaseAt sc h id
  deeds : deeds id h' = deeds id h
  rest : (phaseAt sc h id).isClosed →
    requestAt sc h' id = requestAt sc h id ∧ textAt sc h' id = textAt sc h id

theorem Untouched.refl (sc : Scene) (h : List Mark) (id : Nat) : Untouched sc h h id := ⟨rfl, rfl, fun _ => ⟨rfl, rfl⟩⟩

theorem Untouched.trans {h₁ h₂ h₃ : List Mark} (h12 : Untouched sc h₁ h₂ id) (h23 : Untouched sc h₂ h₃ id) :
    Untouched sc h₁ h₃ id where
  phase := h23.phase.trans h12.phase
  deeds := h23.deeds.trans h12.deeds
  rest hc :=
    have h2 := h23.rest (by rwa [h12.phase])
    have h1 := h12.rest hc
    ⟨h2.1.trans h1.1, h2.2.trans h1.2⟩

/-- a mark that does not touch the controller leaves it as it is -/
theorem Legal.untouched {m : Mark} (hl : Legal sc (m :: h)) (hm : m.touches id = false) :
    Untouched sc h (m :: h) id where
  phase := by
    cases m with
    | made i name => exact phaseAt_made i name
    | texted i text => exact phaseAt_texted i text
    | moved i phase =>
      rw [phaseAt_moved, if_neg]
      rintro ⟨rfl, -⟩
      simp [Mark.touches] at hm
    | _ => rfl
  deeds := by
    cases m with
    | moved i phase => exact deeds_cons_of_not_isDeedOf rfl
    | _ => exact deeds_cons_of_not_isDeedOf hm
  rest hc := by
    have hs : h <:+ m :: h := List.suffix_cons m h
    obtain ⟨o, ho⟩ : ∃ o, phaseAt sc h id = .closed o := by
      cases hp : phaseAt sc h id with
      | closed o => exact ⟨o, rfl⟩
      | _ => simp [hp, Phase.isClosed] at hc
    exact ⟨requestAt_of_lt hs (lt_of_phaseAt_ne_created (by simp [ho])), hl.textAt_closed hs ho⟩

/-- the callbacks that a controller has had so far, by its phase -/
def Ordered (sc : Scene) (h : List Mark) (id : Nat) : Prop :=
  match phaseAt sc h id with
  | .created => deeds id h = []
  | .shown s => deeds id h <+: [.began id (.surfaceShow s)]
  | .closed o => ∃ s, deeds id h <+: lifeline (requestAt sc h id) id s o (textAt sc h id)

theorem Ordered.untouched (ho : Ordered sc h id) (hu : Untouched sc h h' id) : Ordered sc h' id := by
  unfold Ordered at ho ⊢
  rw [hu.phase, hu.deeds]
  cases hp : phaseAt sc h id with
  | created => simpa only [hp] using ho
  | shown s => simpa only [hp] using ho
  | closed o =>
    obtain ⟨hr, ht⟩ := hu.rest (by simp [hp, Phase.isClosed])
    rw [hr, ht]
    simpa only [hp] using ho

/-- a callback's mark leaves the order as it is due to be -/
theorem Ordered.due {m : Mark} (hm : m.isDeedOf id) (hd : Due sc h id m)
    (hc : controllersAt sc (m :: h) = controllersAt sc h) : Ordered sc (m :: h) id := by
  unfold Ordered
  unfold Due at hd
  rw [deeds_cons_of_isDeedOf hm]
  simp only [phaseAt, requestAt, textAt, controllerAt, hc] at hd ⊢
  cases hq : ((controllersAt sc h).getD id .blank).phase with
  | created => simp only [hq] at hd
  | shown s =>
    simp only [hq] at hd
    simp [hd.1, hd.2]
  | closed o => simpa only [hq] using hd

/-- a controller that moves has had the callbacks of the phase it moves to -/
theorem Ordered.moved {i : Nat} {phase : Phase} (ho : Ordered sc h i) (hi : i < (controllersAt sc h).length)
    (hn : (phaseAt sc h i).Next phase) : Ordered sc (.moved i phase :: h) i := by
  have hp : phaseAt sc (.moved i phase :: h) i = phase := by rw [phaseAt_moved, if_pos ⟨rfl, hi⟩]
  unfold Ordered at ho ⊢
  rw [hp, deeds_cons_of_not_isDeedOf rfl]
  cases hq : phaseAt sc h i with
  | created =>
    simp only [hq] at ho hn
    cases phase with
    | shown s => simp [ho]
    | _ => exact hn.elim
  | shown s =>
    simp only [hq] at ho hn
    cases phase with
    | closed o => exact ⟨s, ho.trans ⟨_, rfl⟩⟩
    | _ => exact hn.elim
  | closed o =>
    rw [hq] at hn
    cases phase <;> exact hn.elim

theorem Legal.ordered (hl : Legal sc h) (id : Nat) : Ordered sc h id := by
  induction h with
  | nil => simp [Ordered, phaseAt, controllerAt, controllersAt, Controller.blank, deeds]
  | cons m h ih =>
    have ho := ih hl.2
    by_cases hm : m.touches id = false
    · exact ho.untouched (hl.untouched hm)
    cases m with
    | moved i phase =>
      obtain rfl : i = id := by simpa [Mark.touches] using hm
      exact ho.moved hl.1.1 hl.1.2
    | began i cb =>
      obtain rfl : i = id := by simpa [Mark.touches, Mark.isDeedOf] using hm
      exact Ordered.due (by simp [Mark.isDeedOf]) hl.1 rfl
    | ended i cb =>
      have hd : (Mark.ended i cb).isDeedOf id := by simpa [Mark.touches] using hm
      obtain rfl : i = id := by
        cases cb <;> simp_all [Mark.isDeedOf]
      exact Ordered.due hd (hl.1.2.1 hd) rfl
    | _ => simp [Mark.touches, Mark.isDeedOf] at hm

/-- the callbacks that a controller has had begin a lifeline, with the outcome and the text of a closed controller -/
theorem Legal.deeds_prefix (hl : Legal sc h) (id : Nat) :
    ∃ s o t, deeds id h <+: lifeline (requestAt sc h id) id s o t ∧
      ∀ o', phaseAt sc h id = .closed o' → o = o' ∧ t = textAt sc h id := by
  have ho := hl.ordered id
  unfold Ordered at ho
  cases hp : phaseAt sc h id with
  | created =>
    simp only [hp] at ho
    exact ⟨.scripted "", .dismissed, "", ho ▸ List.nil_prefix, by simp⟩
  | shown s =>
    simp only [hp] at ho
    exact ⟨s, .dismissed, "", ho.trans ⟨_, rfl⟩, by simp⟩
  | closed o =>
    simp only [hp] at ho
    obtain ⟨s, ho⟩ := ho
    refine ⟨s, o, _, ho, ?_⟩
    intro o' he
    exact ⟨Phase.closed.inj he, rfl⟩

/-- no mark of a controller's callbacks is made twice -/
theorem Legal.nodup_deeds (hl : Legal sc h) (id : Nat) : (deeds id h).Nodup := by
  obtain ⟨s, o, t, ho, -⟩ := hl.deeds_prefix id
  exact List.Nodup.sublist ho.sublist (nodup_lifeline _ _ _ _)

/-- a controller comes up on one surface -/
theorem Legal.surface_unique {s s' : Surface} (hl : Legal sc h) (hs : .began id (.surfaceShow s) ∈ h)
    (hs' : .began id (.surfaceShow s') ∈ h) : s = s' := by
  obtain ⟨s₀, o, t, ho, -⟩ := hl.deeds_prefix id
  have h1 := surfaceShow_of_mem_lifeline (ho.subset (mem_deeds_of_began hs))
  have h2 := surfaceShow_of_mem_lifeline (ho.subset (mem_deeds_of_began hs'))
  rw [h1, h2]

/-- a callback other than the coming up begins on a closed controller, which came up before -/
theorem Legal.began_closing {cb : Callback} (hl : Legal sc h') (hs : .began id cb :: h <:+ h')
    (hcb : ∀ s, cb ≠ .surfaceShow s) :
    ∃ s o rest, phaseAt sc h id = .closed o ∧ .began id (.surfaceShow s) ∈ h ∧
      deeds id h ++ .began id cb :: rest = lifeline (requestAt sc h id) id s o (textAt sc h id) := by
  have hd : Due sc h id (.began id cb) := hl.may hs
  unfold Due at hd
  cases hp : phaseAt sc h id with
  | created => simp only [hp] at hd
  | shown s =>
    simp only [hp] at hd
    obtain ⟨-, he⟩ := hd
    cases he
    exact absurd rfl (hcb s)
  | closed o =>
    simp only [hp] at hd
    obtain ⟨s, hd⟩ := hd
    have hshow := surfaceShow_mem_of_prefix hd (by simp)
    obtain ⟨rest, he⟩ := hd
    refine ⟨s, o, rest, rfl, ?_, by simpa using he⟩
    rcases List.mem_append.1 hshow with hin | hin
    · exact (mem_deeds.1 hin).1
    · cases List.mem_singleton.1 hin
      exact absurd rfl (hcb s)

theorem Legal.not_mem_of_isDeedOf {m : Mark} {i : Nat} (hl : Legal sc (m :: h)) (hm : m.isDeedOf i) : m ∉ h := by
  intro hin
  have hn := hl.nodup_deeds i
  rw [deeds_cons_of_isDeedOf hm] at hn
  exact List.disjoint_of_nodup_append hn (mem_deeds.2 ⟨hin, hm⟩) (List.mem_singleton_self m)

theorem Legal.nodup_openAt (hl : Legal sc h) : (openAt h).Nodup := by
  induction h with
  | nil => exact List.nodup_nil
  | cons m h ih =>
    have hn := ih hl.2
    cases m with
    | began i cb =>
      refine List.nodup_cons.2 ⟨?_, hn⟩
      intro hin
      exact hl.not_mem_of_isDeedOf (i := i) (by simp [Mark.isDeedOf]) (began_of_mem_openAt hin)
    | ended i cb => exact hn.sublist ((List.tail_sublist _).trans (List.dropWhile_sublist _))
    | _ => exact hn

/-! ## Screens -/

theorem Legal.pushed_of_detached {k : Nat} (hl : Legal sc h) (hk : .detached k ∈ h) : Mark.pushed k ∈ h := by
  induction h with
  | nil => simp at hk
  | cons m h ih =>
    rcases List.mem_cons.1 hk with rfl | hk
    · exact List.mem_cons_of_mem _ hl.1
    · exact List.mem_cons_of_mem _ (ih hl.2 hk)

theorem Legal.nodup_stackAt (hl : Legal sc h) : (stackAt h).Nodup := by
  induction h with
  | nil => exact List.nodup_nil
  | cons m h ih =>
    have hn := ih hl.2
    cases m with
    | pushed k => exact List.nodup_cons.2 ⟨fun hin => hl.1 (pushed_of_mem_stackAt hin), hn⟩
    | left k why => exact hn.erase k
    | _ => exact hn

/-- a screen that left was pushed before, and does not come back -/
theorem Legal.not_mem_stackAt {k : Nat} {why : Departure} (hl : Legal sc h) (hk : .left k why ∈ h) :
    Mark.pushed k ∈ h ∧ k ∉ stackAt h := by
  induction h with
  | nil => simp at hk
  | cons m h ih =>
    rcases List.mem_cons.1 hk with rfl | hq
    · have hin : k ∈ stackAt h := List.mem_of_mem_head? hl.1.1
      exact ⟨List.mem_cons_of_mem _ (pushed_of_mem_stackAt hin), hl.2.nodup_stackAt.not_mem_erase⟩
    · obtain ⟨hp, hout⟩ := ih hl.2 hq
      refine ⟨List.mem_cons_of_mem _ hp, ?_⟩
      cases m with
      | pushed j =>
        intro hin
        rcases List.mem_cons.1 hin with rfl | hin
        · exact hl.1 hp
        · exact hout hin
      | left j why => exact fun hin => hout (List.mem_of_mem_erase hin)
      | _ => exact hout

end LinePrompt.Prompt
