/-
Two runs side by side.

Twins are two scenes that differ in this alone: some scripts of the first call the alternate control of prompts that
have none, where the second leaves these calls out. The same call on both, from stages on which the prompts of a circle
stand alike, takes both to stages on which they do (`lock_exec`), with the same answer and the same sights but for
those of the calls left out, and leaves the prompts outside of the circle alone. Numbers of controllers may differ, and
so may everything about prompts outside of the circle; when no prompt is muted the twins are one scene, and the sights
are the same.

The proof follows the calls from an action up to `exec`, with one lemma for each of the computations of a call, which
has to hold for any meaning of the calls inside (`Lock`). A call left out is one that might have nested too deeply: a
run in which that happens tells nothing about its twin, hence the first case of `Match`.
-/
import LinePrompt.Proofs.Prompt.Sights

namespace LinePrompt.Prompt

open LinePrompt.Log LinePrompt.Screen

/-! ## Leaving out refused calls -/

/-- a call of the alternate control of one of these prompts -/
def Call.Mutes (muted : Set String) : Call → Prop
  | .prompt name .alternate => name ∈ muted
  | _ => False

theorem Call.eq_alternate {muted : Set String} {c : Call} (hm : c.Mutes muted) :
    ∃ n ∈ muted, c = .prompt n .alternate := by
  cases c with
  | prompt n verb => cases verb <;> first | exact ⟨n, hm, rfl⟩ | exact hm.elim
  | _ => exact hm.elim

/-- such a call in a script, perhaps in an attempt -/
def Action.Mutes (muted : Set String) : Action → Prop
  | .call c => c.Mutes muted
  | .attempt action => action.Mutes muted
  | _ => False

/-- the second list is the first without some of its elements, each of which has the property -/
inductive Without {α : Type} (p : α → Prop) : List α → List α → Prop where
  | nil : Without p [] []
  | keep (x : α) {l l' : List α} : Without p l l' → Without p (x :: l) (x :: l')
  | drop {x : α} {l l' : List α} : p x → Without p l l' → Without p (x :: l) l'

theorem Without.refl {α : Type} (p : α → Prop) (l : List α) : Without p l l := by
  induction l with
  | nil => exact .nil
  | cons x l ih => exact .keep x ih

structure Request.Thins (muted : Set String) (r r' : Request) : Prop where
  title : r'.title = r.title
  initialValue : r'.initialValue = r.initialValue
  cancelLabel : r'.cancelLabel = r.cancelLabel
  handler : ∀ cb, Option.Rel (Without (Action.Mutes muted)) (handlerScript r cb) (handlerScript r' cb)

/-- the second scene is the first with some calls of the alternate control left out of its scripts -/
structure Scene.Thins (muted : Set String) (sc sc' : Scene) : Prop where
  request : ∀ name, (sc.request name).Thins muted (sc'.request name)
  onShow : ∀ place, Without (Action.Mutes muted) (sc.surface place).onShow (sc'.surface place).onShow
  onClose : ∀ place, Without (Action.Mutes muted) (sc.surface place).onClose (sc'.surface place).onClose
  threshold : sc'.threshold = sc.threshold

theorem Scene.Thins.refl (muted : Set String) (sc : Scene) : sc.Thins muted sc where
  request name := ⟨rfl, rfl, rfl, fun cb => by
    cases handlerScript (sc.request name) cb with
    | none => exact .none
    | some script => exact .some (.refl _ script)⟩
  onShow place := .refl _ _
  onClose place := .refl _ _
  threshold := rfl

theorem Request.Thins.hasAlternate {muted : Set String} {r r' : Request} (h : r.Thins muted r') :
    r'.hasAlternate = r.hasAlternate := by
  have same {x y : Option Script} (hr : Option.Rel (Without (Action.Mutes muted)) x y) : y.isSome = x.isSome := by
    cases hr <;> rfl
  exact same (h.handler (.handler .alternate ""))

/-- what is seen of a refused call of the alternate control: a record -/
def Scene.refusal (sc : Scene) (name : String) : List Sight :=
  sc.records .debug
    (.about .debug promptLogger (sc.request name).title "alternate trigger ignored: no alternate handler" [])

/-- the second list has all of the first but what is seen of some refused calls: their records and their answers -/
inductive Faded (sc : Scene) (muted : Set String) : List Sight → List Sight → Prop where
  | nil : Faded sc muted [] []
  | keep (s : Sight) {l l' : List Sight} : Faded sc muted l l' → Faded sc muted (s :: l) (s :: l')
  | drop {name : String} {l l' : List Sight} : name ∈ muted → Faded sc muted l l' →
    Faded sc muted (sc.refusal name ++ .returned (.prompt name .alternate) (.flag false) :: l) l'

namespace Faded

variable {sc : Scene} {muted : Set String} {l₁ l₂ l₁' l₂' : List Sight}

theorem refl (sc : Scene) (muted : Set String) (l : List Sight) : Faded sc muted l l := by
  induction l with
  | nil => exact .nil
  | cons s l ih => exact .keep s ih

theorem append (h₁ : Faded sc muted l₁ l₁') (h₂ : Faded sc muted l₂ l₂') :
    Faded sc muted (l₁ ++ l₂) (l₁' ++ l₂') := by
  induction h₁ with
  | nil => exact h₂
  | keep s _ ih => exact .keep s ih
  | drop hn _ ih =>
    rw [List.append_assoc, List.cons_append]
    exact .drop hn ih

/-- with nobody muted nothing fades -/
theorem eq_of_empty (h : Faded sc ∅ l₁ l₁') : l₁' = l₁ := by
  induction h with
  | nil => rfl
  | keep s _ ih => rw [ih]
  | drop hn => exact hn.elim

end Faded

/-! ## Twins -/

/-- two scenes that keep to a circle, the second with some refused calls left out -/
structure Twins where
  circle : Circle
  /-- the prompts whose alternate control may be left alone -/
  muted : Set String
  full : Scene
  thin : Scene
  thins : full.Thins muted thin
  within : full.Within circle
  refused : ∀ name ∈ muted, (full.request name).hasAlternate = false

/-- the same screens, whichever controllers drive the dialogs among them -/
structure SameScreens (h h' : Host) : Prop where
  stack : h'.stack = h.stack
  length : h'.screens.length = h.screens.length
  detached : ∀ k, h'.isDetached k = h.isDetached k

/-- a controller that was made for the prompt -/
structure Named (st : Stage) (id : Nat) (name : String) : Prop where
  lt : id < st.controllers.length
  name : (st.controller id).name = name

theorem Keeps.named {C : Circle} {sc : Scene} {st st' : Stage} {id : Nat} {name : String} (hk : Keeps C sc st st')
    (hn : Named st id name) : Named st' id name :=
  ⟨Nat.lt_of_lt_of_le hn.lt hk.length, (hk.name id hn.lt).trans hn.name⟩

namespace Twins

variable {P : Twins} {a b a' b' a'' b'' : Stage} {i j : Nat} {name : String} {α β : Type}

/-- the prompts of the circle stand alike on both stages, and are up on its surfaces -/
structure Alike (P : Twins) (a b : Stage) : Prop where
  left : Legible a
  right : Legible b
  prompts : ∀ n ∈ P.circle.names, b.prompt P.thin n = a.prompt P.full n
  placed : ∀ n ∈ P.circle.names, ∀ s, (a.prompt P.full n).phase = .shown s → P.circle.Holds s
  screens : P.circle.screens → SameScreens a.host b.host

/-- both stages move on, are alike, and the same is seen of both but for refused calls -/
structure Steps (P : Twins) (a b a' b' : Stage) : Prop where
  alike : P.Alike a' b'
  left : Keeps P.circle P.full a a'
  right : Keeps P.circle P.thin b b'
  seen : Faded P.full P.muted (a.sightsSince a') (b.sightsSince b')

theorem Steps.trans (h₁ : P.Steps a b a' b') (h₂ : P.Steps a' b' a'' b'') : P.Steps a b a'' b'' where
  alike := h₂.alike
  left := h₁.left.trans h₂.left
  right := h₁.right.trans h₂.right
  seen := by
    rw [h₁.left.sightsSince_trans h₁.alike.left h₂.left, h₁.right.sightsSince_trans h₁.alike.right h₂.right]
    exact h₁.seen.append h₂.seen

/-- changes of both stages that show the same -/
theorem Steps.of_turns {s : List Sight} (ha : Turns P.circle P.full a a' s) (hb : Turns P.circle P.thin b b' s)
    (prompts : ∀ n ∈ P.circle.names, b'.prompt P.thin n = a'.prompt P.full n)
    (placed : ∀ n ∈ P.circle.names, ∀ s, (a'.prompt P.full n).phase = .shown s → P.circle.Holds s)
    (screens : P.circle.screens → SameScreens a'.host b'.host) : P.Steps a b a' b' where
  alike := ⟨ha.legible, hb.legible, prompts, placed, screens⟩
  left := ha.keeps
  right := hb.keeps
  seen := by
    rw [ha.seen, hb.seen]
    exact .refl _ _ _

/-- changes that leave prompts and screens as they are -/
theorem Alike.steps (h : P.Alike a b) {s : List Sight} (ha : Turns P.circle P.full a a' s)
    (hb : Turns P.circle P.thin b b' s) (hpa : ∀ n, a'.prompt P.full n = a.prompt P.full n)
    (hpb : ∀ n, b'.prompt P.thin n = b.prompt P.thin n) (hha : a'.host = a.host) (hhb : b'.host = b.host) :
    P.Steps a b a' b' := by
  refine .of_turns ha hb (fun n hn => ?_) (fun n hn s hs => ?_) (fun hscreens => ?_)
  · rw [hpa, hpb, h.prompts n hn]
  · rw [hpa] at hs
    exact h.placed n hn s hs
  · rw [hha, hhb]
    exact h.screens hscreens

theorem Alike.refl (h : P.Alike a b) : P.Steps a b a b :=
  h.steps (.refl h.left) (.refl h.right) (fun _ => rfl) (fun _ => rfl) rfl rfl

theorem fresh_eq (P : Twins) (name : String) : Controller.fresh P.thin name = Controller.fresh P.full name := by
  unfold Controller.fresh Request.startText
  rw [(P.thins.request name).initialValue]

/-- before the first call the prompts stand alike -/
theorem alike_empty (P : Twins) : P.Alike .empty .empty where
  left := legible_empty
  right := legible_empty
  prompts n _ := P.fresh_eq n
  placed n _ s hs := by simp [Stage.prompt, Stage.current?, Stage.empty, Controller.fresh] at hs
  screens _ := ⟨rfl, rfl, fun _ => rfl⟩

/-! ## Changes of both stages -/

theorem Alike.note (h : P.Alike a b) {m : Mark} (hm : m.about? = none) : P.Steps a b (a.note m) (b.note m) := by
  have hnone {st : Stage} : ∀ id, m.about? = some id → id < st.controllers.length := by simp [hm]
  have hsight : m.sight? (fun id => (b.controller id).name) = m.sight? fun id => (a.controller id).name :=
    Mark.sight?_congr (by simp [hm])
  have hb : Turns P.circle P.thin b (b.note m) _ := turns_note h.right hnone
  rw [hsight] at hb
  exact h.steps (turns_note h.left hnone) hb (fun _ => rfl) (fun _ => rfl) rfl rfl

/-- marks of a callback of the same prompt -/
theorem Alike.about (h : P.Alike a b) {m m' : Mark} (hi : Named a i name) (hj : Named b j name)
    (hm : m.about? = some i) (hm' : m'.about? = some j)
    (hs : m.sight? (fun _ => name) = m'.sight? fun _ => name) : P.Steps a b (a.note m) (b.note m') := by
  have ha : Turns P.circle P.full a (a.note m) _ := turns_about h.left hi.lt hm
  have hb : Turns P.circle P.thin b (b.note m') _ := turns_about h.right hj.lt hm'
  rw [hi.name] at ha
  rw [hj.name, ← hs] at hb
  exact h.steps ha hb (fun _ => rfl) (fun _ => rfl) rfl rfl

theorem Alike.log (h : P.Alike a b) (severity : Severity) {record record' : Unit → Record}
    (hr : record' () = record ()) : P.Steps a b (a.log P.full severity record) (b.log P.thin severity record') := by
  have hb : Turns P.circle P.thin b (b.log P.thin severity record') (P.full.records severity (record ())) := by
    have hrec : P.full.records severity (record ()) = P.thin.records severity (record' ()) := by
      rw [Scene.records, Scene.records, P.thins.threshold, hr]
    rw [hrec]
    exact turns_log h.right _ _
  exact h.steps (turns_log h.left _ _) hb (fun n => prompt_log _ _ n) (fun n => prompt_log _ _ n) (host_log _ _)
    (host_log _ _)

theorem title_eq (hi : Named a i name) (hj : Named b j name) :
    (b.request P.thin j).title = (a.request P.full i).title := by
  rw [Stage.request, Stage.request, hi.name, hj.name, (P.thins.request name).title]

theorem Alike.debug (h : P.Alike a b) (hi : Named a i name) (hj : Named b j name) (message : String)
    (args : List String) : P.Steps a b (a.debug P.full i message args) (b.debug P.thin j message args) :=
  h.log .debug (by rw [title_eq hi hj])

theorem Alike.report (h : P.Alike a b) (hi : Named a i name) (hj : Named b j name) (severity : Severity)
    (logger after : String) :
    P.Steps a b (a.report P.full i severity logger after) (b.report P.thin j severity logger after) :=
  h.log severity (by rw [title_eq hi hj])

theorem Alike.named (h : P.Alike a b) (hi : a.current? name = some i) (hj : b.current? name = some j) :
    Named a i name ∧ Named b j name :=
  ⟨⟨(h.left.tidy name i hi).1, (h.left.tidy name i hi).2⟩, ⟨(h.right.tidy name j hj).1, (h.right.tidy name j hj).2⟩⟩

theorem Alike.phase_eq (h : P.Alike a b) (hn : name ∈ P.circle.names) (hi : a.current? name = some i)
    (hj : b.current? name = some j) : b.phase j = a.phase i := by
  have hp := h.prompts name hn
  rw [prompt_eq hi, prompt_eq hj] at hp
  rw [Stage.phase, Stage.phase, hp]

theorem Alike.text_eq (h : P.Alike a b) (hn : name ∈ P.circle.names) (hi : a.current? name = some i)
    (hj : b.current? name = some j) : b.text j = a.text i := by
  have hp := h.prompts name hn
  rw [prompt_eq hi, prompt_eq hj] at hp
  rw [Stage.text, Stage.text, hp]

theorem Alike.setPhase (h : P.Alike a b) (hn : name ∈ P.circle.names) (hi : a.current? name = some i)
    (hj : b.current? name = some j) (phase : Phase) (hp : ∀ s, phase = .shown s → P.circle.Holds s) :
    P.Steps a b (a.setPhase i phase) (b.setPhase j phase) := by
  refine .of_turns (turns_setPhase h.left hi hn phase) (turns_setPhase h.right hj hn phase)
    (fun n hmem => ?_) (fun n hmem s hs => ?_) h.screens
  · rw [h.left.tidy.prompt_setPhase hi, h.right.tidy.prompt_setPhase hj, h.prompts n hmem]
  · rw [h.left.tidy.prompt_setPhase hi] at hs
    split_ifs at hs
    · exact hp s hs
    · exact h.placed n hmem s hs

theorem host_setText (st : Stage) (id : Nat) (text : String) : (st.setText id text).host = st.host :=
  (setText_frame st id text).2.1

theorem Alike.setText (h : P.Alike a b) (hn : name ∈ P.circle.names) (hi : a.current? name = some i)
    (hj : b.current? name = some j) (text : String) : P.Steps a b (a.setText i text) (b.setText j text) := by
  refine .of_turns (turns_setText h.left hi hn text) (turns_setText h.right hj hn text)
    (fun n hmem => ?_) (fun n hmem s hs => ?_) (fun hscreens => ?_)
  · rw [h.left.tidy.prompt_setText hi, h.right.tidy.prompt_setText hj, h.prompts n hmem]
  · rw [h.left.tidy.prompt_setText hi] at hs
    refine h.placed n hmem s ?_
    split_ifs at hs
    · unfold Controller.withText at hs
      split_ifs at hs <;> exact hs
    · exact hs
  · rw [host_setText, host_setText]
    exact h.screens hscreens

theorem Alike.create (h : P.Alike a b) (hn : name ∈ P.circle.names) :
    P.Steps a b (a.create P.full name) (b.create P.thin name) := by
  refine .of_turns (turns_create h.left hn) (turns_create h.right hn)
    (fun n hmem => ?_) (fun n hmem s hs => ?_) h.screens
  · rw [h.left.tidy.prompt_create, h.right.tidy.prompt_create, h.prompts n hmem, fresh_eq]
  · rw [h.left.tidy.prompt_create] at hs
    split_ifs at hs
    · simp [Controller.fresh] at hs
    · exact h.placed n hmem s hs

theorem host_ensure (st : Stage) (sc : Scene) (name : String) : (st.ensure sc name).host = st.host := by
  unfold Stage.ensure
  split_ifs <;> rfl

theorem Alike.ensure (h : P.Alike a b) (hn : name ∈ P.circle.names) :
    P.Steps a b (a.ensure P.full name) (b.ensure P.thin name) :=
  h.steps (turns_ensure h.left hn) (turns_ensure h.right hn) (fun n => h.left.tidy.prompt_ensure n)
    (fun n => h.right.tidy.prompt_ensure n) (host_ensure _ _ _) (host_ensure _ _ _)

/-! ## Screens -/

theorem Alike.withHost (h : P.Alike a b) (x y : Host) (hs : P.circle.screens → SameScreens x y) :
    P.Steps a b { a with host := x } { b with host := y } :=
  .of_turns (.still h.left rfl rfl rfl) (.still h.right rfl rfl rfl) h.prompts h.placed hs

/-- a screen is made on both hosts -/
theorem Alike.prepare (h : P.Alike a b) (x y : Layer) (hx : ∀ m, x = .modal m → m.detached = false)
    (hy : ∀ m, y = .modal m → m.detached = false) :
    P.Steps a b { a with host := a.host.prepare x } { b with host := b.host.prepare y } := by
  refine h.withHost _ _ fun hscreens => ?_
  have hs := h.screens hscreens
  exact {
    stack := hs.stack
    length := by simp [Host.prepare, hs.length]
    detached := fun k => by rw [Host.isDetached_prepare hy, Host.isDetached_prepare hx, hs.detached] }

theorem Alike.push (h : P.Alike a b) (k : Nat) : P.Steps a b (a.push k) (b.push k) := by
  have h1 := h.withHost (a.host.push k) (b.host.push k) fun hscreens => by
    have hs := h.screens hscreens
    exact ⟨congrArg (k :: ·) hs.stack, hs.length, hs.detached⟩
  exact h1.trans (h1.alike.note rfl)

theorem Alike.pop (h : P.Alike a b) (hscreens : P.circle.screens) :
    P.Steps a b (a.pop (.closed i)) (b.pop (.closed j)) := by
  have hs := h.screens hscreens
  have htop : b.host.top? = a.host.top? := congrArg List.head? hs.stack
  unfold Stage.pop
  rw [htop]
  cases a.host.top? with
  | none => exact h.refl
  | some k =>
    have h1 := h.withHost a.host.pop b.host.pop fun _ =>
      ⟨by simp [hs.stack], by simp [hs.length], fun k => by simp [hs.detached]⟩
    have hmark : P.Steps { a with host := a.host.pop } { b with host := b.host.pop } _ _ := .of_turns
      (turns_note (m := .left k (.closed i)) h1.alike.left (by simp [Mark.about?]))
      (turns_note (m := .left k (.closed j)) h1.alike.right (by simp [Mark.about?]))
      h1.alike.prompts h1.alike.placed h1.alike.screens
    exact h1.trans hmark

/-! ## Computations -/

/-- the computations give the same, and what they do is alike; unless the first nests too deeply where the second may
have left a call out -/
def Match (P : Twins) (a b : Stage) (r r' : Ran α) : Prop :=
  (r.answer = .error .tooDeep ∧ P.muted.Nonempty) ∨ (r'.answer = r.answer ∧ P.Steps a b r.stage r'.stage)

/-- calls that match from stages that are alike -/
def Lock (P : Twins) (again again' : Caller) : Prop :=
  ∀ c, c.Within P.circle → ∀ a b, P.Alike a b → P.Match a b (again c a) (again' c b)

theorem Steps.match (h : P.Steps a b a' b') (answer : Except Fault α) : P.Match a b ⟨answer, a'⟩ ⟨answer, b'⟩ :=
  .inr ⟨rfl, h⟩

theorem Steps.thenMatch {r r' : Ran α} (h : P.Steps a b a' b') (hm : P.Match a' b' r r') : P.Match a b r r' :=
  hm.imp_right fun ⟨he, hs⟩ => ⟨he, h.trans hs⟩

theorem Match.andThen {r r' : Ran α} {next next' : α → Stage → Ran β} (hr : P.Match a b r r')
    (hn : ∀ v a' b', P.Steps a b a' b' → P.Match a' b' (next v a') (next' v b')) :
    P.Match a b (r.andThen next) (r'.andThen next') := by
  obtain ⟨answer, a'⟩ := r
  obtain ⟨answer', b'⟩ := r'
  rcases hr with ⟨hdeep, hmuted⟩ | ⟨he, hs⟩
  · obtain rfl : answer = .error .tooDeep := hdeep
    exact .inl ⟨rfl, hmuted⟩
  · obtain rfl : answer' = answer := he
    cases answer' with
    | ok v => exact hs.thenMatch (hn v a' b' hs)
    | error f => exact hs.match _

/-! ## Calls left out -/

/-- what a call left out does to the run that makes it: it is seen, and no prompt and no screen changes -/
structure Passes (P : Twins) (a a' : Stage) (s : List Sight) : Prop where
  turns : Turns P.circle P.full a a' s
  prompts : ∀ n, a'.prompt P.full n = a.prompt P.full n
  host : a'.host = a.host

/-- calls of a muted alternate control are refused, unless they nest too deeply -/
def Refuses (P : Twins) (again : Caller) : Prop :=
  ∀ n ∈ P.muted, n ∈ P.circle.names → ∀ a, Legible a →
    (again (.prompt n .alternate) a).answer = .error .tooDeep ∨
      ∃ a', again (.prompt n .alternate) a = ⟨.ok (.flag false), a'⟩ ∧ P.Passes a a' (P.full.refusal n)

theorem Passes.alike {s : List Sight} (hp : P.Passes a a' s) (h : P.Alike a b) : P.Alike a' b where
  left := hp.turns.legible
  right := h.right
  prompts n hn := by rw [hp.prompts, h.prompts n hn]
  placed n hn s hs := h.placed n hn s (by rwa [hp.prompts] at hs)
  screens hscreens := by
    rw [hp.host]
    exact h.screens hscreens

theorem Passes.steps {s : List Sight} (hp : P.Passes a a' s) (h : P.Alike a b) (hs : Faded P.full P.muted s []) :
    P.Steps a b a' b where
  alike := hp.alike h
  left := hp.turns.keeps
  right := .refl _ _ _
  seen := by
    have hb : Turns P.circle P.thin b b [] := .refl h.right
    rw [hp.turns.seen, hb.seen]
    exact hs

variable {again again' : Caller} {cue cue' : Cue}

/-- an action left out -/
theorem passes_act (hr : P.Refuses again) (cue : Cue) {action : Action} (hm : action.Mutes P.muted)
    (hw : action.Within P.circle) (ha : Legible a) :
    P.muted.Nonempty ∧ ((act again P.full cue action a).answer = .error .tooDeep ∨
      ∃ n ∈ P.muted, ∃ a', act again P.full cue action a = ⟨.ok (), a'⟩ ∧
        P.Passes a a' (P.full.refusal n ++ [.returned (.prompt n .alternate) (.flag false)])) := by
  induction action with
  | call c =>
    obtain ⟨n, hn, rfl⟩ := Call.eq_alternate hm
    refine ⟨⟨n, hn⟩, ?_⟩
    rw [act]
    rcases hr n hn hw.1 a ha with hdeep | ⟨a', he, hp⟩
    · left
      unfold Ran.andThen
      rw [hdeep]
    · let m : Mark := .returned (.prompt n .alternate) (.flag false)
      have hnote : Turns P.circle P.full a' (a'.note m) _ := turns_note hp.turns.legible (by simp [m, Mark.about?])
      exact .inr ⟨n, hn, a'.note m, by rw [he]; rfl, hp.turns.trans hnote, hp.prompts, hp.host⟩
  | attempt action ih =>
    obtain ⟨hne, hact⟩ := ih hm hw
    refine ⟨hne, ?_⟩
    rw [act]
    rcases hact with hdeep | ⟨n, hn, a', he, hp⟩
    · left
      split <;> rename_i he <;> rw [he] at hdeep <;> simp_all
    · exact .inr ⟨n, hn, a', by rw [he], hp⟩
  | _ => exact hm.elim

/-! ## Scripts -/

theorem match_act (hl : P.Lock again again') {action : Action} (hw : action.Within P.circle) (h : P.Alike a b) :
    P.Match a b (act again P.full cue action a) (act again' P.thin cue' action b) := by
  induction action with
  | call c =>
    exact (hl c hw a b h).andThen fun answer a' b' hs => (hs.alike.note rfl).match _
  | raise kind message => exact h.refl.match _
  | attempt action ih =>
    rw [act, act]
    obtain ⟨hdeep, hne⟩ | ⟨he, hs⟩ := ih hw
    · left
      refine ⟨?_, hne⟩
      split <;> rename_i he <;> rw [he] at hdeep <;> simp_all
    · revert he hs
      obtain ⟨answer, a'⟩ := act again P.full cue action a
      obtain ⟨answer', b'⟩ := act again' P.thin cue' action b
      rintro rfl hs
      cases answer' with
      | ok u => exact hs.match _
      | error f =>
        cases f with
        | tooDeep => exact hs.match _
        | _ => exact (hs.trans (hs.alike.note rfl)).match _
  | keep => exact hw.elim
  | finish => exact hw.elim

theorem match_play (hl : P.Lock again again') (hr : P.Refuses again) {script script' : Script}
    (ht : Without (Action.Mutes P.muted) script script') (hw : Script.Within P.circle script) (h : P.Alike a b) :
    P.Match a b (play again P.full cue script a) (play again' P.thin cue' script' b) := by
  induction ht generalizing a b with
  | nil => exact h.refl.match _
  | keep action _ ih =>
    refine (match_act hl (hw action List.mem_cons_self) h).andThen fun _ a' b' hs => ?_
    exact ih (fun x hx => hw x (List.mem_cons_of_mem _ hx)) hs.alike
  | @drop action rest rest' hm _ ih =>
    -- the first run makes the call, the second waits
    obtain ⟨hne, hact⟩ := passes_act hr cue hm (hw action List.mem_cons_self) h.left
    rw [play]
    rcases hact with hdeep | ⟨n, hn, a', he, hp⟩
    · left
      refine ⟨?_, hne⟩
      unfold Ran.andThen
      rw [hdeep]
    · rw [he, Ran.andThen_ok]
      have hs := hp.steps h (.drop hn .nil)
      exact hs.thenMatch (ih (fun x hx => hw x (List.mem_cons_of_mem _ hx)) hs.alike)

theorem match_callback {body body' : Stage → Ran Unit} (cb : Callback) (hi : Named a i name) (hj : Named b j name)
    (hb : ∀ a' b', Named a' i name → Named b' j name → P.Alike a' b' → P.Match a' b' (body a') (body' b'))
    (h : P.Alike a b) : P.Match a b (callback i cb body a) (callback j cb body' b) := by
  have h1 : P.Steps a b (a.note (.began i cb)) (b.note (.began j cb)) := h.about hi hj rfl rfl rfl
  have hbody := h1.thenMatch (hb _ _ (h1.left.named hi) (h1.right.named hj) h1.alike)
  refine hbody.andThen fun _ _ _ h2 => Steps.match ?_ _
  exact h2.alike.about (h2.left.named hi) (h2.right.named hj) rfl rfl rfl

/-! ## Surfaces -/

theorem match_closeDialog (hscreens : P.circle.screens) (k : Nat) (hi : Named a i name) (hj : Named b j name)
    (h : P.Alike a b) : P.Steps a b (closeDialog P.full i k a) (closeDialog P.thin j k b) := by
  have hs := h.screens hscreens
  have hdet : (b.host.modal? k).any (·.detached) = (a.host.modal? k).any (·.detached) := hs.detached k
  have htop : b.host.top? = a.host.top? := congrArg List.head? hs.stack
  unfold closeDialog
  rw [hdet, htop]
  split_ifs
  · exact h.refl
  · exact h.pop hscreens
  · exact h.report hi hj _ _ _

section Calls

variable (hl : P.Lock again again') (hr : P.Refuses again)

include hl hr

theorem match_surfaceShow {s : Surface} (hs : P.circle.Holds s) (h : P.Alike a b) :
    P.Match a b (surfaceShow again P.full i s a) (surfaceShow again' P.thin j s b) := by
  cases s with
  | scripted place => exact match_play hl hr (P.thins.onShow place) (P.within.onShow place hs) h
  | dialog k => exact (h.push k).match _

theorem match_surfaceClose {s : Surface} (hs : P.circle.Holds s) (hi : Named a i name) (hj : Named b j name)
    (h : P.Alike a b) : P.Match a b (surfaceClose again P.full i s a) (surfaceClose again' P.thin j s b) := by
  cases s with
  | scripted place => exact match_play hl hr (P.thins.onClose place) (P.within.onClose place hs) h
  | dialog k => exact (match_closeDialog hs k hi hj h).match _

/-! ## Controllers -/

theorem match_display (hn : name ∈ P.circle.names) (hi : a.current? name = some i) (hj : b.current? name = some j)
    {s : Surface} (hs : P.circle.Holds s) (h : P.Alike a b) :
    P.Match a b (display again P.full i s a) (display again' P.thin j s b) := by
  obtain ⟨hi', hj'⟩ := h.named hi hj
  unfold display
  rw [h.phase_eq hn hi hj, title_eq hi' hj']
  cases a.phase i with
  | created =>
    have h1 := h.setPhase hn hi hj (.shown s) (by rintro _ ⟨⟩; exact hs)
    have h2 := h1.trans (h1.alike.debug (h1.left.named hi') (h1.right.named hj') "shown" [])
    exact h2.thenMatch (match_callback _ (h2.left.named hi') (h2.right.named hj')
      (fun _ _ _ _ h' => match_surfaceShow hl hr hs h') h2.alike)
  | shown s => exact h.refl.match _
  | closed o => exact h.refl.match _

theorem match_runHandler (hn : name ∈ P.circle.names) (cb : Callback) (hi : Named a i name) (hj : Named b j name)
    (h : P.Alike a b) :
    P.Match a b (runHandler again P.full i (P.full.request name) cb a)
      (runHandler again' P.thin j (P.thin.request name) cb b) := by
  have hrel := (P.thins.request name).handler cb
  have hw := P.within.handler name hn cb
  unfold runHandler
  revert hrel hw
  cases handlerScript (P.full.request name) cb with
  | none =>
    cases handlerScript (P.thin.request name) cb with
    | none => exact fun _ _ => h.refl.match _
    | some script => exact fun hrel => nomatch hrel
  | some script =>
    cases handlerScript (P.thin.request name) cb with
    | none => exact fun hrel => nomatch hrel
    | some script' =>
      intro hrel hw
      obtain ⟨ht⟩ := hrel
      exact match_callback cb hi hj (fun _ _ _ _ h' => match_play hl hr ht (hw script rfl) h') h

theorem match_close (hn : name ∈ P.circle.names) (hi : a.current? name = some i) (hj : b.current? name = some j)
    (o : Outcome) (h : P.Alike a b) : P.Match a b (close again P.full i o a) (close again' P.thin j o b) := by
  obtain ⟨hi', hj'⟩ := h.named hi hj
  have hphase : (a.prompt P.full name).phase = a.phase i := by rw [prompt_eq hi, Stage.phase]
  unfold close
  rw [h.phase_eq hn hi hj, h.text_eq hn hi hj]
  cases hp : a.phase i with
  | shown s =>
    have hs : P.circle.Holds s := h.placed name hn s (hphase.trans hp)
    have hreqa : a.request P.full i = P.full.request name := by rw [Stage.request, hi'.name]
    have hreqb : b.request P.thin j = P.thin.request name := by rw [Stage.request, hj'.name]
    have h1 := h.setPhase hn hi hj (.closed o) (by simp)
    have h2 := h1.trans (h1.alike.debug (h1.left.named hi') (h1.right.named hj') "closed via %s" [o.name])
    have hi2 := h2.left.named hi'
    have hj2 := h2.right.named hj'
    simp only [hreqa, hreqb]
    refine h2.thenMatch ?_
    refine (match_callback _ hi2 hj2 (fun _ _ hi' hj' h' => match_surfaceClose hl hr hs hi' hj' h') h2.alike).andThen
      fun _ _ _ h3 => ?_
    refine (match_runHandler hl hr hn _ (h3.left.named hi2) (h3.right.named hj2) h3.alike).andThen fun _ _ _ h4 => ?_
    refine (match_runHandler hl hr hn _ (h4.left.named (h3.left.named hi2)) (h4.right.named (h3.right.named hj2))
      h4.alike).andThen fun _ _ _ h5 => ?_
    exact h5.alike.refl.match _
  | created => exact (h.debug hi' hj' _ _).match _
  | closed o' => exact (h.debug hi' hj' _ _).match _

theorem match_alternate (hn : name ∈ P.circle.names) (hi : a.current? name = some i) (hj : b.current? name = some j)
    (h : P.Alike a b) : P.Match a b (alternate again P.full i a) (alternate again' P.thin j b) := by
  obtain ⟨hi', hj'⟩ := h.named hi hj
  have halt : (b.request P.thin j).hasAlternate = (a.request P.full i).hasAlternate := by
    rw [Stage.request, Stage.request, hi'.name, hj'.name, (P.thins.request name).hasAlternate]
  unfold alternate
  rw [halt]
  split_ifs
  · exact match_close hl hr hn hi hj .alternate h
  · exact (h.debug hi' hj' _ _).match _

/-! ## Calls -/

omit hl hr in
theorem Match.flag {r r' : Ran Bool} (hm : P.Match a b r r') : P.Match a b r.flag r'.flag :=
  hm.andThen fun _ _ _ hs => hs.alike.refl.match _

omit hl hr in
theorem Match.silent {r r' : Ran Unit} (hm : P.Match a b r r') : P.Match a b r.silent r'.silent :=
  hm.andThen fun _ _ _ hs => hs.alike.refl.match _

theorem match_perform (hn : name ∈ P.circle.names) (hi : a.current? name = some i) (hj : b.current? name = some j)
    {verb : Verb} (hw : verb.Within P.circle name) (h : P.Alike a b) :
    P.Match a b (perform again P.full name i verb a) (perform again' P.thin name j verb b) := by
  obtain ⟨hi', hj'⟩ := h.named hi hj
  have hreq : b.request P.thin j = P.thin.request name ∧ a.request P.full i = P.full.request name := by
    rw [Stage.request, Stage.request, hi'.name, hj'.name]
    exact ⟨rfl, rfl⟩
  have hthins := P.thins.request name
  cases verb with
  | renew => exact (h.create hn).match _
  | display place => exact (match_display hl hr hn hi hj (s := .scripted (place.getD name)) hw h).silent
  | setText text => exact (h.setText hn hi hj text).match _
  | primary => exact (match_close hl hr hn hi hj .primary h).flag
  | submit => exact (match_close hl hr hn hi hj .primary h).flag
  | alternate => exact (match_alternate hl hr hn hi hj h).flag
  | cancel => exact (match_close hl hr hn hi hj .cancel h).flag
  | dismiss => exact (match_close hl hr hn hi hj .dismissed h).flag
  | close outcome => exact (match_close hl hr hn hi hj outcome h).flag
  | hasAlternate =>
    rw [perform, perform, hreq.1, hreq.2, hthins.hasAlternate]
    exact h.refl.match _
  | cancelLabel default =>
    have hlabel : (P.thin.request name).resolvedCancelLabel default =
        (P.full.request name).resolvedCancelLabel default := by
      unfold Request.resolvedCancelLabel
      rw [hthins.cancelLabel]
    rw [perform, perform, hreq.1, hreq.2, hlabel]
    exact h.refl.match _
  | assign field => exact h.refl.match _

theorem match_present (hn : name ∈ P.circle.names) (hscreens : P.circle.screens) (h : P.Alike a b) :
    P.Match a b (present again P.full name a) (present again' P.thin name b) := by
  have h1 := h.create hn
  have h2 := h1.trans (h1.alike.prepare (.modal ⟨a.controllers.length, false, false, .ofText "" 0, .input⟩)
    (.modal ⟨b.controllers.length, false, false, .ofText "" 0, .input⟩) (by rintro _ ⟨⟩; rfl) (by rintro _ ⟨⟩; rfl))
  unfold present
  dsimp only
  rw [(h.screens hscreens).length]
  refine h2.thenMatch (match_display hl hr hn ?_ ?_ (s := .dialog a.host.screens.length) hscreens h2.alike)
  · exact current?_create_self a P.full name
  · exact current?_create_self b P.thin name

omit hl hr in
theorem Alike.notice (hscreens : P.circle.screens) (message : String) (h : P.Alike a b) :
    P.Steps a b (notice message a) (notice message b) := by
  have h1 := h.prepare (.notice message) (.notice message) (by simp) (by simp)
  unfold Prompt.notice
  rw [(h.screens hscreens).length]
  exact h1.trans (h1.alike.push _)

/-- calls match if the calls inside of their scripts do -/
theorem lock_call : P.Lock (call again P.full) (call again' P.thin) := by
  intro c hw a b h
  cases c with
  | prompt name verb =>
    have h1 := h.ensure hw.1
    exact h1.thenMatch (match_perform hl hr hw.1 (current?_ensure _ _ _) (current?_ensure _ _ _) hw.2 h1.alike)
  | present name => exact (match_present hl hr hw.1 hw.2.2 h).silent
  | notice message => exact (h.notice hw message).match _

end Calls

theorem refuses_call (again : Caller) : P.Refuses (call again P.full) := by
  intro n hn hin a ha
  set a₁ := a.ensure P.full n with ha₁
  have h1 : Turns P.circle P.full a a₁ [] := turns_ensure ha hin
  have hid : a₁.current? n = some (a₁.currentId n) := current?_ensure a P.full n
  have hreq : a₁.request P.full (a₁.currentId n) = P.full.request n := h1.legible.tidy.request_eq hid
  refine .inr ⟨a₁.debug P.full (a₁.currentId n) "alternate trigger ignored: no alternate handler" [], ?_, ?_, ?_, ?_⟩
  · simp only [call, ← ha₁, perform, alternate, hreq, P.refused n hn]
    rfl
  · unfold Stage.debug
    rw [hreq]
    exact h1.trans (turns_log h1.legible _ _)
  · exact fun m => (prompt_log _ _ m).trans (ha.tidy.prompt_ensure m)
  · exact (host_log _ _).trans (host_ensure a P.full n)

/-- calls are refused at every bound on nesting -/
theorem refuses_exec (depth : Nat) : P.Refuses (exec P.full depth) := by
  cases depth with
  | zero => exact fun _ _ _ _ _ => .inl rfl
  | succ depth => exact refuses_call _

/-- **Twins stay in step**, whatever is called within their circle. -/
theorem lock_exec (P : Twins) (depth : Nat) : P.Lock (exec P.full depth) (exec P.thin depth) := by
  induction depth with
  | zero => exact fun _ _ _ _ h => h.refl.match _
  | succ depth ih => exact lock_call ih (refuses_exec depth)

end Twins

end LinePrompt.Prompt
