/-
What matters about the dialogs of a host: which controller drives each, whether the host took it away, and what stands
in its field.

The first two outlive every change of a dialog's field or focus and every push and pop (`driver?_updateModal`,
`isDetached_updateModal`, `driver?_pop`, `isDetached_pop`), so that invariants of the screen stack need not look at the
dialogs any further.
-/
import LinePrompt.Screen.Stack
import Mathlib.Tactic.Common

namespace LinePrompt.Screen.Host

/-- the controller that drives a dialog -/
def driver? (h : Host) (k : Nat) : Option Nat := (h.modal? k).map (·.controller)

/-- did the host take the dialog away? -/
def isDetached (h : Host) (k : Nat) : Bool := (h.modal? k).any (·.detached)

/-- what focus, caret and selection leave alone: who drives a dialog, whether it is mounted, the text in its field -/
def content? (h : Host) (k : Nat) : Option (Nat × Bool × List Char) :=
  (h.modal? k).map fun m => (m.controller, m.mounted, m.field.chars)

theorem driver?_of_modal? {h : Host} {k : Nat} {m : Modal} (hm : h.modal? k = some m) :
    h.driver? k = some m.controller := by
  rw [driver?, hm]
  rfl

theorem lt_of_driver? {h : Host} {k i : Nat} (hd : h.driver? k = some i) : k < h.screens.length := by
  obtain ⟨m, hm, -⟩ := Option.map_eq_some_iff.1 hd
  exact lt_of_modal? hm

@[simp] theorem driver?_push (h : Host) (j k : Nat) : (h.push j).driver? k = h.driver? k := rfl

@[simp] theorem isDetached_push (h : Host) (j k : Nat) : (h.push j).isDetached k = h.isDetached k := rfl

theorem driver?_updateModal {h : Host} {f : Modal → Modal} (j k : Nat) (hf : ∀ m, (f m).controller = m.controller) :
    (h.updateModal j f).driver? k = h.driver? k := by
  unfold driver?
  rw [modal?_updateModal]
  split_ifs with hk
  · subst hk
    cases h.modal? k <;> simp [hf]
  · rfl

theorem isDetached_updateModal {h : Host} {f : Modal → Modal} (j k : Nat) (hf : ∀ m, (f m).detached = m.detached) :
    (h.updateModal j f).isDetached k = h.isDetached k := by
  unfold isDetached
  rw [modal?_updateModal]
  split_ifs with hk
  · subst hk
    cases h.modal? k <;> simp [hf]
  · rfl

@[simp] theorem driver?_resume (h : Host) (k : Nat) : h.resume.driver? k = h.driver? k := by
  unfold resume
  split
  · rfl
  · exact driver?_updateModal _ _ fun _ => rfl

@[simp] theorem isDetached_resume (h : Host) (k : Nat) : h.resume.isDetached k = h.isDetached k := by
  unfold resume
  split
  · rfl
  · exact isDetached_updateModal _ _ fun _ => rfl

@[simp] theorem driver?_pop (h : Host) (k : Nat) : h.pop.driver? k = h.driver? k := by
  unfold pop
  split
  · rfl
  · rw [driver?_resume]
    rfl

@[simp] theorem isDetached_pop (h : Host) (k : Nat) : h.pop.isDetached k = h.isDetached k := by
  unfold pop
  split
  · rfl
  · rw [isDetached_resume]
    rfl

@[simp] theorem length_pop (h : Host) : h.pop.screens.length = h.screens.length := by
  unfold pop
  split
  · rfl
  · simp [post]

/-- a screen that leaves gets its message -/
theorem queue_pop {h : Host} {k : Nat} (hk : h.top? = some k) : h.pop.queue = h.queue ++ [.unmount k] := by
  obtain ⟨rest, hs⟩ : ∃ rest, h.stack = k :: rest := List.head?_eq_some_iff.1 hk
  simp [pop, hs, post]

theorem driver?_prepare {h : Host} {s : Layer} {k : Nat} (hk : k < h.screens.length) :
    (h.prepare s).driver? k = h.driver? k := by
  rw [driver?, modal?_prepare _ _ _ hk, driver?]

/-- a screen that is made is not one that was taken away -/
theorem isDetached_of_prepare {h : Host} {s : Layer} {k : Nat} (hs : ∀ m, s = .modal m → m.detached = false)
    (hd : (h.prepare s).isDetached k) : h.isDetached k := by
  by_cases hk : k < h.screens.length
  · rwa [isDetached, modal?_prepare _ _ _ hk] at hd
  · unfold isDetached at hd
    cases hm : (h.prepare s).modal? k with
    | none => simp [hm] at hd
    | some m =>
      have hdet : m.detached := by simpa [hm] using hd
      rw [modal?_eq_some, prepare, List.getElem?_append_right (Nat.le_of_not_lt hk), List.getElem?_singleton] at hm
      split_ifs at hm
      rw [hs m (Option.some.inj hm)] at hdet
      exact absurd hdet Bool.false_ne_true

/-- making a screen takes none away -/
theorem isDetached_prepare {h : Host} {s : Layer} (hs : ∀ m, s = .modal m → m.detached = false) (k : Nat) :
    (h.prepare s).isDetached k = h.isDetached k := by
  refine Bool.eq_iff_iff.2 ⟨isDetached_of_prepare hs, fun hd => ?_⟩
  obtain ⟨m, hm, -⟩ := (Option.any_eq_true _ _).1 hd
  rwa [isDetached, modal?_prepare _ _ _ (lt_of_modal? hm)]

theorem driver?_prepare_self {h : Host} (m : Modal) :
    (h.prepare (.modal m)).driver? h.screens.length = some m.controller := by
  rw [driver?, modal?_prepare_self]
  rfl

/-! ## Contents -/

theorem content?_of_modal? {h : Host} {k : Nat} {m : Modal} (hm : h.modal? k = some m) :
    h.content? k = some (m.controller, m.mounted, m.field.chars) := by
  rw [content?, hm]
  rfl

/-- dialogs with the same content have the same prompt, and the same text -/
theorem modal?_of_content? {h h' : Host} {k : Nat} {m' : Modal} (he : h'.content? k = h.content? k)
    (hm : h'.modal? k = some m') :
    ∃ m, h.modal? k = some m ∧ m.controller = m'.controller ∧ m.mounted = m'.mounted ∧
      m.field.chars = m'.field.chars := by
  rw [content?_of_modal? hm] at he
  obtain ⟨m, hk, heq⟩ := Option.map_eq_some_iff.1 he.symm
  simp only [Prod.mk.injEq] at heq
  exact ⟨m, hk, heq⟩

theorem driver?_of_content? {h h' : Host} {k : Nat} (he : h'.content? k = h.content? k) :
    h'.driver? k = h.driver? k := by
  have hdriver (h : Host) : h.driver? k = (h.content? k).map (·.1) := by
    rw [driver?, content?, Option.map_map]
    rfl
  rw [hdriver, hdriver, he]

theorem content?_updateModal {h : Host} {f : Modal → Modal} (j k : Nat)
    (hf : ∀ m, ((f m).controller, (f m).mounted, (f m).field.chars) = (m.controller, m.mounted, m.field.chars)) :
    (h.updateModal j f).content? k = h.content? k := by
  unfold content?
  rw [modal?_updateModal]
  split_ifs with hk
  · subst hk
    cases h.modal? k with
    | none => rfl
    | some m => exact congrArg some (hf m)
  · rfl

@[simp] theorem content?_resume (h : Host) (k : Nat) : h.resume.content? k = h.content? k := by
  unfold resume
  split
  · rfl
  · exact content?_updateModal _ _ fun _ => rfl

@[simp] theorem content?_pop (h : Host) (k : Nat) : h.pop.content? k = h.content? k := by
  unfold pop
  split
  · rfl
  · rw [content?_resume]
    rfl

theorem content?_prepare {h : Host} {s : Layer} {k : Nat} (hk : k < h.screens.length) :
    (h.prepare s).content? k = h.content? k := by
  rw [content?, modal?_prepare _ _ _ hk, content?]

end LinePrompt.Screen.Host
