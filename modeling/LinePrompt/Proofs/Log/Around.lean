/-
What a log keeps true of what is around it.

A log touches what is around it by a few operations on files only: it opens and fills the file of a handler, and to
roll it over it takes a backup's name away and gives that name to what stands beside it. What these leave true for the
path of each handler (`Stays`) stays true whatever records are sent to the log (`stays_add`).
-/
import LinePrompt.Proofs.Log.Rotation

namespace LinePrompt.Log

open LinePrompt.Files Surroundings

variable {I : Surroundings → Prop} {s s' : Surroundings} {p f g : Path} {log : Logbook} {handlers : List Handler}
  {h : Handler}

/-- what gets a new name when a file is rolled over, and that name -/
inductive Moves (p : Path) : Path → Path → Prop where
  | file : Moves p p (backup p 1)
  | backup : Moves p (backup p 1) (backup p 2)

/-- what a handler does by the path of its file leaves this true -/
structure Stays (I : Surroundings → Prop) (p : Path) : Prop where
  remove {s s' : Surroundings} {q : Path} (hs : I s) (h : s.remove q = .ok s') : I s'
  rename {s s' : Surroundings} {f g : Path} (hs : I s) (moves : Moves p f g) (free : present s g = false)
    (h : s.rename f g = .ok s') : I s'
  openToAdd {s s' : Surroundings} {n : Nat} (hs : I s) (h : s.openToAdd p = .ok (n, s')) : I s'
  append {s : Surroundings} (n : Nat) (bytes : ByteArray) (hs : I s) : I (s.append n bytes)

/-- the same for the paths of all files that a handler writes to -/
def Handler.Stays (I : Surroundings → Prop) (h : Handler) : Prop := ∀ p number, h = .file p number → Log.Stays I p

/-! ## Rolling over -/

theorem present_remove (h : s.remove p = .ok s') : present s' p = false := by
  obtain ⟨l, n, hfound, rfl⟩ := remove_ok h
  obtain ⟨hl, hfile⟩ := find_eq_ok.1 hfound
  have hroot : l ≠ [] := by
    rintro rfl
    cases hfile
  rcases hafter : ({ s with tree := s.tree.erase l } : Surroundings).find p with c | ⟨m, e⟩
  · simp [present, hafter, Except.toOption]
  · obtain ⟨hm, hthere⟩ := find_eq_ok.1 hafter
    obtain rfl : m = l := (locate_eq_ok.1 hm).2.2.trans (locate_eq_ok.1 hl).2.2.symm
    rw [Tree.node?_erase hroot, if_pos rfl] at hthere
    cases hthere

/-- the name of a file is free once the file is gone -/
theorem stays_room (hI : Stays I p) (hs : I s) (h : (if present s g then s.remove g else .ok s) = .ok s') :
    I s' ∧ present s' g = false := by
  split_ifs at h with hthere
  · exact ⟨hI.remove hs h, present_remove h⟩
  · obtain rfl := Except.ok.inj h
    exact ⟨hs, by simpa using hthere⟩

theorem stays_replace (hI : Stays I p) (hs : I s) (hmoves : Moves p f g) : I (replace s f g).2 := by
  unfold replace
  by_cases hmissing : (!present s f) = true
  · rw [if_pos hmissing]
    exact hs
  · rw [if_neg hmissing]
    rcases hroom : (if present s g then s.remove g else .ok s) with fault | room
    · exact hs
    · obtain ⟨hroom, hfree⟩ := stays_room hI hs hroom
      rcases hmoved : room.rename f g with fault | moved
      · simp only [hmoved]
        exact hroom
      · simp only [hmoved]
        exact hI.rename hroom hmoves hfree hmoved

theorem stays_rollOver (hI : Stays I p) (hs : I s) : I (rollOver p s).2 := by
  have hbackups := stays_replace hI hs .backup
  unfold rollOver
  rw [moveBackups_eq]
  rcases hr : replace s (backup p 1) (backup p 2) with ⟨f | made, s₁⟩
  · rw [hr] at hbackups
    exact hbackups
  · rw [hr] at hbackups
    rcases hroom : (if present s₁ (backup p 1) then s₁.remove (backup p 1) else .ok s₁) with f | s₂
    · simp only [hroom]
      exact hbackups
    · obtain ⟨hkept, hfree⟩ := stays_room hI hbackups hroom
      simp only [hroom]
      split_ifs
      · exact hkept
      · rcases hmoved : s₂.rename p (backup p 1) with f | s₃
        · exact hkept
        · exact hI.rename hkept .file hfree hmoved

/-! ## Records -/

theorem stays_writeLine (hI : Stays I p) (hs : I s) (number : Option Nat) (line : String) :
    I (writeLine p number line s).2.surroundings := by
  unfold writeLine
  rcases ho : opened p number s with f | ⟨n, s₁⟩
  · exact hs
  · have hopened : I s₁ := by
      unfold opened at ho
      split at ho
      · cases ho
        exact hs
      · exact hI.openToAdd hs ho
    simp only
    split_ifs
    · have hrolled := stays_rollOver hI hopened
      rcases hr : rollOver p s₁ with ⟨_ | f, s₂⟩
      · rw [hr] at hrolled
        rcases ha : s₂.openToAdd p with f | ⟨m, s₃⟩
        · simp only [ha]
          exact hrolled
        · simp only [ha]
          exact hI.append m line.toUTF8 (hI.openToAdd hrolled ha)
      · rw [hr] at hrolled
        exact hrolled
    · exact hI.append n line.toUTF8 hopened

/-- a handler keeps its path -/
theorem writeLine_file (p : Path) (number : Option Nat) (line : String) (s : Surroundings) :
    ∃ m, (writeLine p number line s).1 = .file p m := by
  unfold writeLine
  split
  · exact ⟨_, rfl⟩
  · split_ifs
    · split
      · exact ⟨_, rfl⟩
      · split
        · exact ⟨_, rfl⟩
        · exact ⟨_, rfl⟩
    · exact ⟨_, rfl⟩

theorem Handler.Stays.file (hI : Log.Stays I p) (number : Option Nat) : (Handler.file p number).Stays I := by
  intro q m h
  obtain ⟨rfl, -⟩ := Handler.file.inj h
  exact hI

theorem Handler.Stays.terminal (open? : Bool) : (Handler.terminal open?).Stays I := by
  intro p number h
  cases h

theorem stays_handle (hI : h.Stays I) (hs : I s) (r : Record) :
    I (h.handle r s).2.surroundings ∧ (h.handle r s).1.Stays I := by
  unfold Handler.handle
  split
  · exact ⟨hs, hI⟩
  · rename_i p number message _
    have hp := hI p number rfl
    obtain ⟨m, hm⟩ := writeLine_file p number (lineOf s.clock r message) s
    rw [hm]
    exact ⟨stays_writeLine hp hs number _, .file hp m⟩
  · exact ⟨hs, hI⟩
  · exact ⟨hs, hI⟩

theorem stays_handleAll (hI : ∀ h ∈ handlers, h.Stays I) (hs : I s) (r : Record) :
    I (handleAll r handlers s).2.surroundings ∧ ∀ h ∈ (handleAll r handlers s).1, h.Stays I := by
  induction handlers generalizing s with
  | nil => exact ⟨hs, List.forall_mem_nil _⟩
  | cons h rest ih =>
    obtain ⟨hs', hfirst⟩ := stays_handle (hI h List.mem_cons_self) hs r
    obtain ⟨hlater, hrest⟩ := ih (fun h' hh' => hI h' (List.mem_cons_of_mem _ hh')) hs'
    exact ⟨hlater, List.forall_mem_cons.2 ⟨hfirst, hrest⟩⟩

theorem lastResort_surroundings (r : Record) (s : Surroundings) : (lastResort r s).surroundings = s := by
  unfold lastResort
  split_ifs
  · rfl
  · split <;> rfl

/-- **What the handlers of a log leave true stays true when a record is sent to it**, and its handlers leave it true
afterwards. -/
theorem stays_add (hI : ∀ h ∈ log.handlers, h.Stays I) (hs : I s) (r : Record) :
    I (log.add r s).2.surroundings ∧ ∀ h ∈ (log.add r s).1.handlers, h.Stays I := by
  unfold Logbook.add
  split_ifs
  · exact ⟨hs, hI⟩
  · rw [lastResort_surroundings]
    exact ⟨hs, hI⟩
  · exact stays_handleAll hI hs r

end LinePrompt.Log
