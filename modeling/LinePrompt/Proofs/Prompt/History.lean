/-
What a history tells.

A history lists what happened, newest first. Reading it gives back the controllers (`controllersAt`) and the screen
stack (`stackAt`) of every moment of the run: the moments are the histories that it ends with. Further views are the
callbacks of one controller in their order (`deeds`), which `lifeline` lists as they should come, and the callbacks
that are under way (`openAt`): a callback that ended has taken with it whatever began inside of it.
-/
import Mathlib.Data.List.GetD
import Mathlib.Data.List.Infix
import Mathlib.Data.List.Nodup
import Mathlib.Tactic.Common
import LinePrompt.Prompt.Scenario

namespace LinePrompt.Prompt

variable {sc : Scene} {h h' : List Mark} {id : Nat}

/-- whatever a history tells was made at some moment -/
theorem exists_moment {m : Mark} (hm : m ∈ h) : ∃ h₀, m :: h₀ <:+ h := by
  obtain ⟨later, h₀, rfl⟩ := List.append_of_mem hm
  exact ⟨h₀, List.suffix_append _ _⟩

/-! ## Controllers -/

/-- the controllers that a history leaves -/
def controllersAt (sc : Scene) : List Mark → List Controller
  | [] => []
  | .made _ name :: h => controllersAt sc h ++ [Controller.fresh sc name]
  | .moved id phase :: h => (controllersAt sc h).modify id ({ · with phase })
  | .texted id text :: h =>
    if ((controllersAt sc h).getD id .blank).phase.isClosed then controllersAt sc h
    else (controllersAt sc h).modify id ({ · with text })
  | _ :: h => controllersAt sc h

def controllerAt (sc : Scene) (h : List Mark) (id : Nat) : Controller := (controllersAt sc h).getD id .blank

def phaseAt (sc : Scene) (h : List Mark) (id : Nat) : Phase := (controllerAt sc h id).phase

def textAt (sc : Scene) (h : List Mark) (id : Nat) : String := (controllerAt sc h id).text

def requestAt (sc : Scene) (h : List Mark) (id : Nat) : Request := sc.request (controllerAt sc h id).name

theorem getD_modify {α : Type} (l : List α) (f : α → α) (i j : Nat) (d : α) :
    (l.modify i f).getD j d = if i = j ∧ j < l.length then f (l.getD j d) else l.getD j d := by
  rw [List.getD_eq_getElem?_getD, List.getD_eq_getElem?_getD, List.getElem?_modify]
  by_cases hj : j < l.length
  · by_cases hi : i = j
    · simp [hi, hj]
    · simp [hi, hj]
  · simp [hj]

theorem controllerAt_made (i : Nat) (name : String) :
    controllerAt sc (.made i name :: h) id =
      if id = (controllersAt sc h).length then .fresh sc name else controllerAt sc h id := by
  simp only [controllerAt, controllersAt, List.getD_eq_getElem?_getD, List.getElem?_append]
  split_ifs with h1 h2 h2
  · omega
  · rfl
  · simp [h2]
  · have h3 : id - (controllersAt sc h).length ≠ 0 := by omega
    simp [List.getElem?_eq_none (Nat.le_of_not_lt h1), h3]

theorem controllerAt_moved (i : Nat) (phase : Phase) :
    controllerAt sc (.moved i phase :: h) id =
      if i = id ∧ id < (controllersAt sc h).length then { controllerAt sc h id with phase }
      else controllerAt sc h id :=
  getD_modify _ _ _ _ _

/-- does a text set on controller `i` show on this one? -/
def Takes (sc : Scene) (h : List Mark) (i id : Nat) : Prop :=
  (i = id ∧ id < (controllersAt sc h).length) ∧ ¬ (phaseAt sc h id).isClosed

instance (sc : Scene) (h : List Mark) (i id : Nat) : Decidable (Takes sc h i id) := by
  unfold Takes; infer_instance

theorem controllerAt_texted (i : Nat) (text : String) :
    controllerAt sc (.texted i text :: h) id =
      if Takes sc h i id then { controllerAt sc h id with text } else controllerAt sc h id := by
  simp only [controllerAt, controllersAt]
  by_cases hc : (((controllersAt sc h).getD i .blank).phase).isClosed
  · rw [if_pos hc, if_neg]
    rintro ⟨⟨rfl, -⟩, hn⟩
    exact hn hc
  · rw [if_neg hc, getD_modify]
    by_cases hi : i = id ∧ id < (controllersAt sc h).length
    · obtain ⟨rfl, hl⟩ := hi
      rw [if_pos ⟨rfl, hl⟩, if_pos ⟨⟨rfl, hl⟩, hc⟩]
    · rw [if_neg hi, if_neg fun hn => hi hn.1]

@[simp] theorem phaseAt_made (i : Nat) (name : String) : phaseAt sc (.made i name :: h) id = phaseAt sc h id := by
  rw [phaseAt, controllerAt_made]
  split_ifs with hi
  · rw [hi, phaseAt, controllerAt, List.getD_eq_default _ _ (Nat.le_refl _)]
    rfl
  · rfl

@[simp] theorem phaseAt_texted (i : Nat) (text : String) :
    phaseAt sc (.texted i text :: h) id = phaseAt sc h id := by
  rw [phaseAt, controllerAt_texted]
  split_ifs <;> rfl

theorem phaseAt_moved (i : Nat) (phase : Phase) :
    phaseAt sc (.moved i phase :: h) id =
      if i = id ∧ id < (controllersAt sc h).length then phase else phaseAt sc h id := by
  rw [phaseAt, controllerAt_moved]
  split_ifs <;> rfl

@[simp] theorem textAt_moved (i : Nat) (phase : Phase) :
    textAt sc (.moved i phase :: h) id = textAt sc h id := by
  rw [textAt, controllerAt_moved]
  split_ifs <;> rfl

theorem textAt_texted (i : Nat) (text : String) :
    textAt sc (.texted i text :: h) id = if Takes sc h i id then text else textAt sc h id := by
  rw [textAt, controllerAt_texted]
  split_ifs <;> rfl

@[simp] theorem requestAt_moved (i : Nat) (phase : Phase) :
    requestAt sc (.moved i phase :: h) id = requestAt sc h id := by
  rw [requestAt, controllerAt_moved]
  split_ifs <;> rfl

@[simp] theorem requestAt_texted (i : Nat) (text : String) :
    requestAt sc (.texted i text :: h) id = requestAt sc h id := by
  rw [requestAt, controllerAt_texted]
  split_ifs <;> rfl

/-- a number is given out once -/
theorem lt_of_phaseAt_ne_created (hp : phaseAt sc h id ≠ .created) : id < (controllersAt sc h).length := by
  by_contra hl
  apply hp
  rw [phaseAt, controllerAt, List.getD_eq_default _ _ (Nat.le_of_not_lt hl)]
  rfl

/-! ## Screens -/

/-- the screen stack that a history leaves, top first -/
def stackAt : List Mark → List Nat
  | [] => []
  | .pushed k :: h => k :: stackAt h
  | .left k _ :: h => (stackAt h).erase k
  | _ :: h => stackAt h

theorem pushed_of_mem_stackAt {k : Nat} (hk : k ∈ stackAt h) : Mark.pushed k ∈ h := by
  induction h with
  | nil => simp [stackAt] at hk
  | cons m h ih =>
    cases m with
    | pushed j =>
      rcases List.mem_cons.1 hk with rfl | hk
      · exact List.mem_cons_self
      · exact List.mem_cons_of_mem _ (ih hk)
    | left j why => exact List.mem_cons_of_mem _ (ih (List.mem_of_mem_erase hk))
    | _ => exact List.mem_cons_of_mem _ (ih hk)

/-- a pushed screen is on the stack or has left it -/
theorem left_of_pushed {k : Nat} (hp : Mark.pushed k ∈ h) (hk : k ∉ stackAt h) : ∃ why, Mark.left k why ∈ h := by
  induction h with
  | nil => simp at hp
  | cons m h ih =>
    have later : (∃ why, Mark.left k why ∈ h) → ∃ why, Mark.left k why ∈ m :: h :=
      fun ⟨why, hw⟩ => ⟨why, List.mem_cons_of_mem _ hw⟩
    rcases List.mem_cons.1 hp with rfl | hq
    · exact absurd List.mem_cons_self hk
    · cases m with
      | pushed j => exact later (ih hq fun hn => hk (List.mem_cons_of_mem _ hn))
      | left j why =>
        by_cases hj : k = j
        · exact ⟨why, hj ▸ List.mem_cons_self⟩
        · exact later (ih hq fun hn => hk ((List.mem_erase_of_ne hj).2 hn))
      | _ => exact later (ih hq hk)

/-! ## Callbacks -/

/-- does a mark count for the order of a controller's callbacks? The end of its coming up does not: the prompt may be
closed while it comes up. -/
def Mark.isDeedOf (id : Nat) : Mark → Bool
  | .began i _ => i == id
  | .ended _ (.surfaceShow _) => false
  | .ended i _ => i == id
  | _ => false

/-- the marks of a controller's callbacks, oldest first -/
def deeds (id : Nat) (h : List Mark) : List Mark := (h.filter (Mark.isDeedOf id)).reverse

theorem deeds_cons_of_isDeedOf {m : Mark} (hm : m.isDeedOf id) : deeds id (m :: h) = deeds id h ++ [m] := by
  simp [deeds, hm]

@[simp] theorem deeds_cons_of_not_isDeedOf {m : Mark} (hm : m.isDeedOf id = false) :
    deeds id (m :: h) = deeds id h := by
  simp [deeds, hm]

theorem mem_deeds {m : Mark} : m ∈ deeds id h ↔ m ∈ h ∧ m.isDeedOf id := by
  simp [deeds]

theorem mem_deeds_of_began {cb : Callback} (hb : .began id cb ∈ h) : .began id cb ∈ deeds id h :=
  mem_deeds.2 ⟨hb, by simp [Mark.isDeedOf]⟩

/-- a callback with its end, if the request has a script for it -/
def scripted (r : Request) (id : Nat) (cb : Callback) : List Mark :=
  if (handlerScript r cb).isSome then [.began id cb, .ended id cb] else []

/-- the callbacks of a controller in the order of their coming, for a prompt that came up on a surface and was closed
by an outcome with a text: each comes once, and the next begins when the one before has returned -/
def lifeline (r : Request) (id : Nat) (s : Surface) (o : Outcome) (text : String) : List Mark :=
  [.began id (.surfaceShow s), .began id (.surfaceClose s), .ended id (.surfaceClose s)] ++
    (scripted r id (.handler o text) ++ scripted r id .onClosed)

section Lifeline

variable {r : Request} {s s' : Surface} {o o' : Outcome} {text text' : String}

theorem nodup_lifeline (r : Request) (s : Surface) (o : Outcome) (text : String) :
    (lifeline r id s o text).Nodup := by
  unfold lifeline scripted
  split_ifs <;> simp

theorem surfaceShow_of_mem_lifeline (hm : .began id (.surfaceShow s') ∈ lifeline r id s o text) : s' = s := by
  unfold lifeline scripted at hm
  split_ifs at hm <;> simpa using hm

theorem surfaceClose_of_mem_lifeline (hm : .began id (.surfaceClose s') ∈ lifeline r id s o text) : s' = s := by
  unfold lifeline scripted at hm
  split_ifs at hm <;> simpa using hm

theorem handler_of_mem_lifeline (hm : .began id (.handler o' text') ∈ lifeline r id s o text) :
    o' = o ∧ text' = text ∧ (r.handlerFor o).isSome := by
  unfold lifeline scripted at hm
  split_ifs at hm with hh hc <;> simp_all [handlerScript]

/-- the first mark of a lifeline is that of the coming up -/
theorem surfaceShow_mem_of_prefix {ms : List Mark} (hp : ms <+: lifeline r id s o text) (hne : ms ≠ []) :
    .began id (.surfaceShow s) ∈ ms := by
  obtain ⟨rest, he⟩ := hp
  cases ms with
  | nil => exact absurd rfl hne
  | cons m ms =>
    obtain ⟨rfl, -⟩ := List.cons.inj he
    exact List.mem_cons_self

/-- the marks of a lifeline come after the end of the surface's closing, but for the first three -/
theorem surfaceClose_ended_or {m : Mark} {had rest : List Mark} (he : had ++ m :: rest = lifeline r id s o text) :
    .ended id (.surfaceClose s) ∈ had ∨ m = .began id (.surfaceShow s) ∨ m = .began id (.surfaceClose s) ∨
      m = .ended id (.surfaceClose s) := by
  rcases had with _ | ⟨a, _ | ⟨b, _ | ⟨c, had⟩⟩⟩
  · exact Or.inr (Or.inl (List.cons.inj he).1)
  · exact Or.inr (Or.inr (Or.inl (List.cons.inj (List.cons.inj he).2).1))
  · exact Or.inr (Or.inr (Or.inr (List.cons.inj (List.cons.inj (List.cons.inj he).2).2).1))
  · obtain ⟨rfl, -⟩ := List.cons.inj (List.cons.inj (List.cons.inj he).2).2
    exact Or.inl (by simp)

end Lifeline

/-! ## Callbacks under way -/

/-- the callbacks that began and did not end, the latest first; the end of one takes with it what began inside -/
def openAt : List Mark → List (Nat × Callback)
  | [] => []
  | .began id cb :: h => (id, cb) :: openAt h
  | .ended id cb :: h => ((openAt h).dropWhile (· ≠ (id, cb))).tail
  | _ :: h => openAt h

theorem began_of_mem_openAt {i : Nat} {cb : Callback} (hc : (i, cb) ∈ openAt h) : Mark.began i cb ∈ h := by
  induction h with
  | nil => simp [openAt] at hc
  | cons m h ih =>
    cases m with
    | began j c =>
      rcases List.mem_cons.1 hc with he | hc
      · cases he
        exact List.mem_cons_self
      · exact List.mem_cons_of_mem _ (ih hc)
    | ended j c =>
      have hs := (List.dropWhile_suffix _).subset ((List.tail_suffix _).subset hc)
      exact List.mem_cons_of_mem _ (ih hs)
    | _ => exact List.mem_cons_of_mem _ (ih hc)

/-- below an open callback lies what was open when it began -/
theorem openAt_below {x : Nat × Callback} {rest : List (Nat × Callback)} (hs : x :: rest <:+ openAt h) :
    ∃ h₀, Mark.began x.1 x.2 :: h₀ <:+ h ∧ openAt h₀ = rest := by
  induction h with
  | nil => simp [openAt] at hs
  | cons m h ih =>
    have later : x :: rest <:+ openAt h → ∃ h₀, Mark.began x.1 x.2 :: h₀ <:+ m :: h ∧ openAt h₀ = rest :=
      fun hs => (ih hs).imp fun _ h₀ => ⟨h₀.1.trans (List.suffix_cons _ _), h₀.2⟩
    cases m with
    | began j c =>
      rcases List.suffix_cons_iff.1 hs with he | hs
      · cases he
        exact ⟨h, List.suffix_refl _, rfl⟩
      · exact later hs
    | ended j c => exact later (hs.trans ((List.tail_suffix _).trans (List.dropWhile_suffix _)))
    | _ => exact later hs

/-- the end of an open callback leaves open what was open when it began -/
theorem openAt_ended {cb : Callback} {rest : List (Nat × Callback)} (hn : (openAt h).Nodup)
    (hs : (id, cb) :: rest <:+ openAt h) : openAt (.ended id cb :: h) = rest := by
  obtain ⟨inner, hi⟩ := hs
  rw [← hi] at hn
  have hout : ∀ x ∈ inner, decide (x ≠ (id, cb)) = true := by
    intro x hx
    have hne : x ≠ (id, cb) := by
      rintro rfl
      exact List.disjoint_of_nodup_append hn hx List.mem_cons_self
    simpa using hne
  rw [openAt, ← hi, List.dropWhile_append_of_pos hout]
  simp

end LinePrompt.Prompt
