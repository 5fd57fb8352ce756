/-
What can be seen of a run.

Whoever watches a run knows prompts by their names: a sight is a mark with the name of its prompt in place of the number
of the controller. Numbers depend on what else was called, sights do not, so that two runs can be compared by them. When
a controller was made cannot be seen.

`Turns` says what a change of a stage shows, and that it keeps what was there before: controllers keep their names, and
prompts outside of the circle stay as they are. Each change of a stage has its lemma.
-/
import LinePrompt.Proofs.Prompt.Calls
import LinePrompt.Proofs.Prompt.Circles

namespace LinePrompt.Prompt

open LinePrompt.Log LinePrompt.Screen

variable {C : Circle} {sc : Scene} {st st' st₁ st₂ st₃ : Stage} {id : Nat} {name : String}

/-! ## Sights -/

/-- something that can be seen -/
inductive Sight where
  | moved (name : String) (phase : Phase)
  | texted (name : String) (text : String)
  | pushed (screen : Nat)
  | left (screen : Nat)
  | detached (screen : Nat)
  | began (name : String) (callback : Callback)
  | ended (name : String) (callback : Callback)
  | returned (call : Call) (answer : Answer)
  | caught (fault : Fault)
  | logged (record : Record)

/-- the controller that a mark is about -/
def Mark.about? : Mark → Option Nat
  | .moved id _ => some id
  | .texted id _ => some id
  | .began id _ => some id
  | .ended id _ => some id
  | _ => none

/-- what can be seen of a mark, given the names of the controllers -/
def Mark.sight? (name : Nat → String) : Mark → Option Sight
  | .made _ _ => none
  | .moved id phase => some (.moved (name id) phase)
  | .texted id text => some (.texted (name id) text)
  | .pushed k => some (.pushed k)
  | .left k _ => some (.left k)
  | .detached k => some (.detached k)
  | .began id cb => some (.began (name id) cb)
  | .ended id cb => some (.ended (name id) cb)
  | .returned call answer => some (.returned call answer)
  | .caught fault => some (.caught fault)
  | .logged record => some (.logged record)

theorem Mark.sight?_congr {n n' : Nat → String} {m : Mark} (h : ∀ id, m.about? = some id → n id = n' id) :
    m.sight? n = m.sight? n' := by
  cases m <;> simp_all [Mark.about?, Mark.sight?]

/-- what is seen of the marks of a stage -/
def Stage.sights (st : Stage) (marks : List Mark) : List Sight :=
  marks.filterMap (Mark.sight? fun id => (st.controller id).name)

/-- what was seen since an earlier stage of the same run, oldest first -/
def Stage.sightsSince (before after : Stage) : List Sight := after.sights (before.marksSince after)

theorem marksSince_eq {ms : List Mark} (h : st'.history = ms ++ st.history) : st.marksSince st' = ms.reverse := by
  simp [Stage.marksSince, h]

theorem sightsSince_of_append (ms : List Mark) (h : st'.history = ms ++ st.history) :
    st.sightsSince st' = st'.sights ms.reverse := by
  rw [Stage.sightsSince, marksSince_eq h]

/-! ## What a change keeps -/

/-- names stand for their controllers, and the history is about controllers that were made -/
structure Legible (st : Stage) : Prop where
  tidy : Tidy st
  told : ∀ m ∈ st.history, ∀ id, m.about? = some id → id < st.controllers.length

theorem legible_empty : Legible .empty := ⟨tidy_empty, by simp [Stage.empty]⟩

/-- controllers keep their names, the history grows, and prompts outside of the circle stay as they are -/
structure Keeps (C : Circle) (sc : Scene) (st st' : Stage) : Prop where
  length : st.controllers.length ≤ st'.controllers.length
  name : ∀ id < st.controllers.length, (st'.controller id).name = (st.controller id).name
  history : st.history <:+ st'.history
  spared : ∀ other, other ∉ C.names → st'.prompt sc other = st.prompt sc other

theorem Keeps.refl (C : Circle) (sc : Scene) (st : Stage) : Keeps C sc st st :=
  ⟨Nat.le_refl _, fun _ _ => rfl, List.suffix_refl _, fun _ _ => rfl⟩

theorem Keeps.trans (h12 : Keeps C sc st₁ st₂) (h23 : Keeps C sc st₂ st₃) : Keeps C sc st₁ st₃ where
  length := h12.length.trans h23.length
  name id hid := (h23.name id (Nat.lt_of_lt_of_le hid h12.length)).trans (h12.name id hid)
  history := h12.history.trans h23.history
  spared other ho := (h23.spared other ho).trans (h12.spared other ho)

/-- what was told keeps its look -/
theorem Keeps.sights_eq (hk : Keeps C sc st st') {marks : List Mark}
    (ht : ∀ m ∈ marks, ∀ id, m.about? = some id → id < st.controllers.length) : st'.sights marks = st.sights marks := by
  refine List.filterMap_congr fun m hm => Mark.sight?_congr fun id hid => ?_
  exact hk.name id (ht m hm id hid)

/-- what is seen over two stretches of a run is what is seen over the first and then over the second -/
theorem Keeps.sightsSince_trans (h12 : Keeps C sc st₁ st₂) (hl : Legible st₂) (h23 : Keeps C sc st₂ st₃) :
    st₁.sightsSince st₃ = st₁.sightsSince st₂ ++ st₂.sightsSince st₃ := by
  obtain ⟨ms, h2⟩ := h12.history
  obtain ⟨ms', h3⟩ := h23.history
  have hall : st₃.history = (ms' ++ ms) ++ st₁.history := by rw [← h3, ← h2, List.append_assoc]
  have hold : st₃.sights ms.reverse = st₂.sights ms.reverse :=
    h23.sights_eq fun m hm => hl.told m (h2 ▸ List.mem_append_left _ (List.mem_reverse.1 hm))
  rw [sightsSince_of_append _ hall, sightsSince_of_append _ h2.symm, sightsSince_of_append _ h3.symm,
    List.reverse_append, Stage.sights, List.filterMap_append]
  exact congrArg (· ++ _) hold

/-- a change of a stage and what is seen of it -/
structure Turns (C : Circle) (sc : Scene) (st st' : Stage) (sights : List Sight) : Prop where
  legible : Legible st'
  keeps : Keeps C sc st st'
  seen : st.sightsSince st' = sights

/-- a change of neither controllers nor history -/
theorem Turns.still (hl : Legible st) (hcon : st'.controllers = st.controllers) (hcur : st'.current = st.current)
    (hh : st'.history = st.history) : Turns C sc st st' [] where
  legible := by
    refine ⟨?_, by rw [hcon, hh]; exact hl.told⟩
    unfold Tidy Stage.current? Stage.controller
    rw [hcon, hcur]
    exact hl.tidy
  keeps := {
    length := Nat.le_of_eq (congrArg _ hcon.symm)
    name := fun id _ => by rw [Stage.controller, hcon, Stage.controller]
    history := hh ▸ List.suffix_refl _
    spared := fun other _ => by unfold Stage.prompt Stage.current? Stage.controller; rw [hcon, hcur] }
  seen := sightsSince_of_append [] hh

theorem Turns.refl (hl : Legible st) : Turns C sc st st [] := .still hl rfl rfl rfl

theorem Turns.trans {s t : List Sight} (h12 : Turns C sc st₁ st₂ s) (h23 : Turns C sc st₂ st₃ t) :
    Turns C sc st₁ st₃ (s ++ t) where
  legible := h23.legible
  keeps := h12.keeps.trans h23.keeps
  seen := by rw [h12.keeps.sightsSince_trans h12.legible h23.keeps, h12.seen, h23.seen]

/-! ## Changes of a stage -/

theorem turns_note {m : Mark} (hl : Legible st) (hm : ∀ id, m.about? = some id → id < st.controllers.length) :
    Turns C sc st (st.note m) (m.sight? fun id => (st.controller id).name).toList where
  legible := by
    refine ⟨hl.tidy, fun m' hm' id hid => ?_⟩
    rcases List.mem_cons.1 hm' with rfl | hm'
    · exact hm id hid
    · exact hl.told m' hm' id hid
  keeps := ⟨Nat.le_refl _, fun _ _ => rfl, List.suffix_cons _ _, fun _ _ => rfl⟩
  seen := by
    rw [sightsSince_of_append [m] rfl, List.reverse_singleton]
    unfold Stage.sights
    rw [List.filterMap_cons]
    cases hs : m.sight? fun id => ((st.note m).controller id).name <;> simp_all [Stage.note, Stage.controller]

/-- a record that is made if its severity passes the threshold -/
def Scene.records (sc : Scene) (severity : Severity) (record : Record) : List Sight :=
  if sc.threshold ≤ severity.rank then [.logged record] else []

theorem turns_log (hl : Legible st) (severity : Severity) (record : Unit → Record) :
    Turns C sc st (st.log sc severity record) (sc.records severity (record ())) := by
  unfold Stage.log Scene.records
  split_ifs
  · exact turns_note hl (by simp [Mark.about?])
  · exact .refl hl

theorem turns_create (hl : Legible st) (hn : name ∈ C.names) : Turns C sc st (st.create sc name) [] where
  legible := by
    refine ⟨hl.tidy.create, fun m hm id hid => ?_⟩
    rw [length_create]
    rcases List.mem_cons.1 hm with rfl | hm
    · simp [Mark.about?] at hid
    · exact Nat.lt_succ_of_lt (hl.told m hm id hid)
  keeps := {
    length := by rw [length_create]; exact Nat.le_succ _
    name := fun id hid => by rw [controller_create id hid]
    history := List.suffix_cons _ _
    spared := fun other ho => by
      rw [hl.tidy.prompt_create, if_neg]
      rintro rfl
      exact ho hn }
  seen := by
    rw [sightsSince_of_append [.made st.controllers.length name] rfl]
    rfl

theorem turns_ensure (hl : Legible st) (hn : name ∈ C.names) : Turns C sc st (st.ensure sc name) [] := by
  unfold Stage.ensure
  split_ifs
  · exact .refl hl
  · exact turns_create hl hn

theorem turns_update {f : Controller → Controller} (hl : Legible st) (hid : st.current? name = some id)
    (hn : name ∈ C.names) (hf : ∀ c, (f c).name = c.name) : Turns C sc st (st.update id f) [] where
  legible := ⟨hl.tidy.update id hf, by simpa [Stage.update] using hl.told⟩
  keeps := {
    length := by simp [Stage.update]
    name := fun i _ => by
      rw [controller_update]
      split_ifs
      · rw [hf]
      · rfl
    history := List.suffix_refl _
    spared := fun other ho => by
      rw [hl.tidy.prompt_update hid, if_neg]
      rintro rfl
      exact ho hn }
  seen := sightsSince_of_append [] rfl

/-- a mark about a name's controller, seen under the name -/
theorem turns_about {m : Mark} (hl : Legible st) (hid : id < st.controllers.length)
    (hm : m.about? = some id) : Turns C sc st (st.note m) (m.sight? fun _ => (st.controller id).name).toList := by
  have hn : m.sight? (fun i => (st.controller i).name) = m.sight? fun _ => (st.controller id).name := by
    refine Mark.sight?_congr fun i hi => ?_
    obtain rfl : id = i := Option.some.inj (hm.symm.trans hi)
    rfl
  rw [← hn]
  refine turns_note hl fun i hi => ?_
  obtain rfl : id = i := Option.some.inj (hm.symm.trans hi)
  exact hid

theorem turns_setPhase (hl : Legible st) (hid : st.current? name = some id) (hn : name ∈ C.names) (phase : Phase) :
    Turns C sc st (st.setPhase id phase) [.moved name phase] := by
  have h1 : Turns C sc st (st.update id ({ · with phase })) [] := turns_update hl hid hn fun _ => rfl
  obtain ⟨hlt, hname⟩ := h1.legible.tidy name id hid
  have h2 : Turns C sc _ (st.setPhase id phase) _ := turns_about (m := .moved id phase) h1.legible hlt rfl
  rw [hname] at h2
  exact h1.trans h2

theorem turns_setText (hl : Legible st) (hid : st.current? name = some id) (hn : name ∈ C.names) (text : String) :
    Turns C sc st (st.setText id text) [.texted name text] := by
  have marked {st' : Stage} (h1 : Turns C sc st st' []) (hcur : st'.current? name = some id) :
      Turns C sc st (st'.note (.texted id text)) [.texted name text] := by
    obtain ⟨hlt, hname⟩ := h1.legible.tidy name id hcur
    have h2 : Turns C sc _ (st'.note (.texted id text)) _ := turns_about h1.legible hlt rfl
    rw [hname] at h2
    exact h1.trans h2
  unfold Stage.setText
  split
  · exact marked (.refl hl) hid
  · exact marked (turns_update hl hid hn fun _ => rfl) hid

/-! ## Runs as they are seen -/

/-- one call of a run as it is seen -/
structure Seen where
  call : Call
  answer : Except Fault Answer
  /-- what was seen during the call, oldest first -/
  sights : List Sight
  /-- how the prompts stand after it -/
  prompt : String → Controller

/-- a report, seen from outside -/
def Report.seen (r : Report) (sc : Scene) (c : Call) : Seen := ⟨c, r.answer, r.stage.sights r.marks, r.stage.prompt sc⟩

/-- what is seen of a run, call by call -/
def seen (sc : Scene) (depth : Nat) (calls : List Call) (st : Stage) : List Seen :=
  List.zipWith (fun c r => r.seen sc c) calls (reportsWithin sc depth calls st)

theorem seen_cons (sc : Scene) (depth : Nat) (c : Call) (rest : List Call) (st : Stage) :
    seen sc depth (c :: rest) st =
      ⟨c, (exec sc depth c st).answer, st.sightsSince (exec sc depth c st).stage,
        (exec sc depth c st).stage.prompt sc⟩ :: seen sc depth rest (exec sc depth c st).stage := rfl

end LinePrompt.Prompt
