/-
Prompts by their names, and the circle that calls stay in.

A prompt is what its name stands for: the controller made for it last, or a fresh one if none was made yet
(`Stage.prompt`). The first call on a prompt makes its controller, which nobody notices (`prompt_ensure`); every other
change of a stage changes at most the prompt it is about (`prompt_create`, `prompt_update`), because two names never
stand for one controller (`Tidy`).

A circle is a choice of prompts and scripted surfaces. A call is within it if it is about these alone, and a scene keeps
to it if all that their scripts call is within it.
-/
import Mathlib.Data.Set.Basic
import LinePrompt.Proofs.Prompt.Sound

namespace LinePrompt.Prompt

open LinePrompt.Log LinePrompt.Screen

variable {sc : Scene} {st : Stage} {id : Nat} {name : String}

/-! ## Prompts -/

/-- how a prompt stands: the controller its name stands for, fresh if there is none yet -/
def Stage.prompt (st : Stage) (sc : Scene) (name : String) : Controller :=
  match st.current? name with
  | some id => st.controller id
  | none => .fresh sc name

theorem prompt_eq (hid : st.current? name = some id) : st.prompt sc name = st.controller id := by
  rw [Stage.prompt, hid]

/-- a name stands for a controller that was made for it -/
def Tidy (st : Stage) : Prop :=
  ∀ name id, st.current? name = some id → id < st.controllers.length ∧ (st.controller id).name = name

theorem tidy_empty : Tidy .empty := by
  intro name id hid
  simp [Stage.empty, Stage.current?] at hid

/-- the request of a name's controller is that of the name -/
theorem Tidy.request_eq (ht : Tidy st) (hid : st.current? name = some id) : st.request sc id = sc.request name := by
  rw [Stage.request, (ht name id hid).2]

/-! ## Changes of a stage -/

theorem controller_update (f : Controller → Controller) (i : Nat) :
    (st.update id f).controller i =
      if id = i ∧ i < st.controllers.length then f (st.controller i) else st.controller i :=
  getD_modify _ _ _ _ _

theorem controller_create (i : Nat) (hi : i < st.controllers.length) :
    (st.create sc name).controller i = st.controller i := by
  simp only [Stage.controller, Stage.create, Stage.note]
  exact List.getD_append _ _ _ _ hi

theorem controller_create_self : (st.create sc name).controller st.controllers.length = .fresh sc name := by
  simp [Stage.controller, Stage.create, Stage.note]

theorem lookup_filter_ne {β : Type} (l : List (String × β)) {a b : String} (hab : a ≠ b) :
    (l.filter (·.1 ≠ b)).lookup a = l.lookup a := by
  induction l with
  | nil => rfl
  | cons p l ih =>
    by_cases hp : p.1 = b
    · rw [List.filter_cons_of_neg (by simpa using hp), ih, List.lookup_cons, beq_eq_false_iff_ne.2 (hp ▸ hab)]
    · rw [List.filter_cons_of_pos (by simpa using hp), List.lookup_cons, List.lookup_cons, ih]

theorem current?_create (other : String) :
    (st.create sc name).current? other =
      if other = name then some st.controllers.length else st.current? other := by
  simp only [Stage.current?, Stage.create, Stage.note, List.lookup_cons]
  by_cases ho : other = name
  · simp [ho]
  · simp only [ho, beq_eq_false_iff_ne.2 ho, if_false]
    exact lookup_filter_ne st.current ho

theorem current?_create_self (st : Stage) (sc : Scene) (name : String) :
    (st.create sc name).current? name = some st.controllers.length := by
  rw [current?_create, if_pos rfl]

theorem length_create : (st.create sc name).controllers.length = st.controllers.length + 1 := by
  simp [Stage.create, Stage.note]

theorem Tidy.create (ht : Tidy st) : Tidy (st.create sc name) := by
  intro other id hid
  rw [current?_create] at hid
  rw [length_create]
  split_ifs at hid with ho
  · obtain rfl : st.controllers.length = id := Option.some.inj hid
    exact ⟨Nat.lt_succ_self _, by rw [controller_create_self]; exact ho.symm⟩
  · obtain ⟨hlt, hname⟩ := ht other id hid
    exact ⟨Nat.lt_succ_of_lt hlt, by rw [controller_create id hlt, hname]⟩

/-- a prompt made anew is fresh, and the others are as they were -/
theorem Tidy.prompt_create (ht : Tidy st) (other : String) :
    (st.create sc name).prompt sc other = if other = name then .fresh sc name else st.prompt sc other := by
  unfold Stage.prompt
  rw [current?_create]
  split_ifs with ho
  · exact controller_create_self
  · cases hid : st.current? other with
    | none => rfl
    | some id => exact controller_create id (ht other id hid).1

/-- the first call on a prompt finds it as it was -/
theorem Tidy.prompt_ensure (ht : Tidy st) (other : String) :
    (st.ensure sc name).prompt sc other = st.prompt sc other := by
  unfold Stage.ensure
  split_ifs with hc
  · rfl
  · rw [ht.prompt_create]
    split_ifs with ho
    · rw [Stage.prompt, ho, Option.not_isSome_iff_eq_none.1 hc]
    · rfl

theorem Tidy.ensure (ht : Tidy st) : Tidy (st.ensure sc name) := by
  unfold Stage.ensure
  split_ifs
  · exact ht
  · exact ht.create

/-- an ensured name stands for its current number -/
theorem current?_ensure (st : Stage) (sc : Scene) (name : String) :
    (st.ensure sc name).current? name = some ((st.ensure sc name).currentId name) := by
  unfold Stage.currentId Stage.ensure
  split_ifs with hc
  · obtain ⟨id, hid⟩ := Option.isSome_iff_exists.1 hc
    rw [hid, Option.getD_some]
  · rw [current?_create_self, Option.getD_some]

theorem Tidy.update {f : Controller → Controller} (ht : Tidy st) (id : Nat) (hf : ∀ c, (f c).name = c.name) :
    Tidy (st.update id f) := by
  intro other i hi
  obtain ⟨hlt, hname⟩ := ht other i hi
  refine ⟨by simpa [Stage.update] using hlt, ?_⟩
  rw [controller_update]
  split_ifs
  · rw [hf, hname]
  · exact hname

/-- a change of a name's controller changes that prompt alone -/
theorem Tidy.prompt_update (ht : Tidy st) (hid : st.current? name = some id) (f : Controller → Controller)
    (other : String) :
    (st.update id f).prompt sc other = if other = name then f (st.prompt sc other) else st.prompt sc other := by
  have hcur : (st.update id f).current? other = st.current? other := rfl
  unfold Stage.prompt
  rw [hcur]
  by_cases ho : other = name
  · subst ho
    rw [if_pos rfl, hid]
    exact (controller_update f id).trans (if_pos ⟨rfl, (ht other id hid).1⟩)
  · rw [if_neg ho]
    cases hi : st.current? other with
    | none => rfl
    | some i =>
      have hne : id ≠ i := by
        rintro rfl
        exact ho ((ht other id hi).2.symm.trans (ht name id hid).2)
      exact (controller_update f i).trans (if_neg fun h => hne h.1)

theorem Tidy.setPhase (ht : Tidy st) (id : Nat) (phase : Phase) : Tidy (st.setPhase id phase) :=
  ht.update id fun _ => rfl

theorem Tidy.prompt_setPhase (ht : Tidy st) (hid : st.current? name = some id) (phase : Phase) (other : String) :
    (st.setPhase id phase).prompt sc other =
      if other = name then { st.prompt sc other with phase } else st.prompt sc other :=
  ht.prompt_update hid _ other

theorem Tidy.setText (ht : Tidy st) (id : Nat) (text : String) : Tidy (st.setText id text) := by
  unfold Stage.setText
  split
  · exact ht
  · exact ht.update id fun _ => rfl

/-- what setting a text makes of a controller -/
def Controller.withText (c : Controller) (text : String) : Controller := if c.phase.isClosed then c else { c with text }

theorem Tidy.prompt_setText (ht : Tidy st) (hid : st.current? name = some id) (text : String) (other : String) :
    (st.setText id text).prompt sc other =
      if other = name then (st.prompt sc other).withText text else st.prompt sc other := by
  have hphase : (st.prompt sc name).phase = st.phase id := by rw [prompt_eq hid, Stage.phase]
  unfold Stage.setText
  split
  · rename_i hc
    split_ifs with ho
    · subst ho
      rw [Controller.withText, hphase, if_pos hc]
      rfl
    · rfl
  · rename_i hc
    refine (ht.prompt_update hid _ other).trans ?_
    split_ifs with ho
    · subst ho
      rw [Controller.withText, hphase, if_neg hc]
    · rfl

@[simp] theorem prompt_log (severity : Severity) (record : Unit → Record) (other : String) :
    (st.log sc severity record).prompt sc other = st.prompt sc other := by
  rcases log_eq st sc severity record with he | ⟨r, he⟩ <;> rw [he]
  rfl

theorem Tidy.log (ht : Tidy st) (severity : Severity) (record : Unit → Record) :
    Tidy (st.log sc severity record) := by
  rcases log_eq st sc severity record with he | ⟨r, he⟩ <;> rw [he] <;> exact ht

/-! ## Circles -/

/-- prompts and surfaces that calls may be about -/
structure Circle where
  names : Set String
  /-- the names of scripted surfaces -/
  places : Set String
  /-- may a prompt get a fresh controller? -/
  renewals : Prop
  /-- may dialogs and notices be put on the screen stack? -/
  screens : Prop

/-- the circle of all calls -/
def Circle.everything : Circle := ⟨Set.univ, Set.univ, True, True⟩

/-- does the circle have the surface? -/
def Circle.Holds (C : Circle) : Surface → Prop
  | .scripted place => place ∈ C.places
  | .dialog _ => C.screens

def Verb.Within (C : Circle) (name : String) : Verb → Prop
  | .renew => C.renewals
  | .display place => place.getD name ∈ C.places
  | _ => True

def Call.Within (C : Circle) : Call → Prop
  | .prompt name verb => name ∈ C.names ∧ verb.Within C name
  | .present name => name ∈ C.names ∧ C.renewals ∧ C.screens
  | .notice _ => C.screens

/-- an action that calls within the circle, or raises; nothing but the one-shot application keeps and finishes -/
def Action.Within (C : Circle) : Action → Prop
  | .call c => c.Within C
  | .raise _ _ => True
  | .attempt action => action.Within C
  | .keep => False
  | .finish => False

def Script.Within (C : Circle) (script : Script) : Prop := ∀ action ∈ script, action.Within C

/-- the scripts of the circle's prompts and surfaces stay within it -/
structure Scene.Within (C : Circle) (sc : Scene) : Prop where
  handler : ∀ name ∈ C.names, ∀ cb script, handlerScript (sc.request name) cb = some script → Script.Within C script
  onShow : ∀ place ∈ C.places, Script.Within C (sc.surface place).onShow
  onClose : ∀ place ∈ C.places, Script.Within C (sc.surface place).onClose

end LinePrompt.Prompt
