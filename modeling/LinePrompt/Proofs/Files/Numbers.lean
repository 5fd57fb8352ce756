/-
The numbers of files.

A number is given to one name at most, so what is done to the file at one location does not show at any other
(`contentAt?_setContent`); and a new file has a number that no name has. Directories are made where nothing stood
(`Furnished`), and a file is opened where it stands or where nothing did (`openToAdd_ok`).
-/
import Mathlib.Data.List.Nodup
import Mathlib.Logic.Relation
import Mathlib.Tactic.Common
import LinePrompt.Session.Step

namespace LinePrompt

/-- a result of two steps is one of the second step, from a result of the first -/
theorem exists_of_bind_ok {ε α β : Type} {x : Except ε α} {f : α → Except ε β} {b : β} (h : (x >>= f) = .ok b) :
    ∃ a, x = .ok a ∧ f a = .ok b := by
  cases x with
  | error e => cases h
  | ok a => exact ⟨a, rfl, h⟩

theorem exists_of_map_ok {ε α β : Type} {x : Except ε α} {f : α → β} {b : β} (h : x.map f = .ok b) :
    ∃ a, x = .ok a ∧ f a = b := by
  cases x with
  | error e => cases h
  | ok a => exact ⟨a, rfl, Except.ok.inj h⟩

end LinePrompt

namespace LinePrompt.Files

/-! ## Trees -/

namespace Tree

variable {t : Tree} {l l' : Location} {n m : Nat}

theorem mem_numbers_of_node? (h : t.node? l = some (.file n)) : (l, Entry.file n) ∈ t.entries := by
  unfold node? at h
  split_ifs at h
  · cases h
  obtain ⟨l₁, l₂, he, -⟩ := List.lookup_eq_some_iff.1 h
  simp [he]

/-- a file has one name -/
theorem location_unique (h : t.node? l = some (.file n)) (h' : t.node? l' = some (.file n)) :
    l = l' := by
  by_contra hne
  obtain ⟨before, after, he⟩ := List.append_of_mem (mem_numbers_of_node? h)
  have hin := mem_numbers_of_node? h'
  have hother : (l', Entry.file n) ∈ before ++ after := by
    rw [he] at hin
    rcases List.mem_append.1 hin with hin | hin
    · exact List.mem_append_left _ hin
    · rcases List.mem_cons.1 hin with heq | hin
      · exact absurd (congrArg Prod.fst heq).symm hne
      · exact List.mem_append_right _ hin
  have hnum : n ∈ numbersIn (before ++ after) := List.mem_filterMap.2 ⟨_, hother, rfl⟩
  have hnodup := t.nodup
  unfold numbersIn at hnodup
  have hcons : (((l, Entry.file n) :: after).filterMap (·.2.number?)) = n :: after.filterMap (·.2.number?) := rfl
  rw [he, List.filterMap_append, hcons, List.nodup_middle, ← List.filterMap_append] at hnodup
  exact (List.nodup_cons.1 hnodup).1 hnum

theorem lt_next_of_node? (h : t.node? l = some (.file n)) : n < t.next :=
  t.lt_next n (List.mem_filterMap.2 ⟨_, mem_numbers_of_node? h, rfl⟩)

theorem content_setContent_of_ne (t : Tree) (bytes : ByteArray) (h : m ≠ n) :
    (t.setContent n bytes).content m = t.content m := by
  have hfilter : (t.bytes.filter (·.1 != n)).lookup m = t.bytes.lookup m := by
    induction t.bytes with
    | nil => rfl
    | cons b rest ih =>
      obtain ⟨k, v⟩ := b
      by_cases hk : k = n
      · subst hk
        have hm : (m == k) = false := beq_false_of_ne h
        simp [List.lookup_cons, hm, ih]
      · simp only [List.filter_cons, bne_iff_ne, ne_eq, hk, not_false_eq_true, if_true, List.lookup_cons, ih]
  have hm : (m == n) = false := beq_false_of_ne h
  simp [content, setContent, List.lookup_cons, hm, hfilter]

/-- what is written to the file at one location does not show at any other -/
theorem contentAt?_setContent (h : t.node? l = some (.file n)) (bytes : ByteArray) (hne : l' ≠ l) :
    (t.setContent n bytes).contentAt? l' = t.contentAt? l' := by
  have hnode : (t.setContent n bytes).node? l' = t.node? l' := rfl
  unfold contentAt?
  rw [hnode]
  rcases he : t.node? l' with _ | (_ | m)
  · rfl
  · rfl
  · have hm : m ≠ n := by
      rintro rfl
      exact hne (location_unique he h)
    simp only [content_setContent_of_ne t bytes hm]

/-- a tree with one file, in its root -/
def oneFile (name : String) (bytes : ByteArray) : Tree := (Tree.empty.create [name]).2.setContent 0 bytes

end Tree

/-- surroundings with nothing in them, in the root -/
def Surroundings.bare : Surroundings where
  tree := .empty
  cwd := []
  environment := []
  accounts := []
  account := ""
  clock := ""

/-! ## Operations -/

namespace Surroundings

variable {s s' : Surroundings} {p : Path} {n : Nat}

theorem makeDirectory_ok (h : s.makeDirectory p = .ok s') :
    ∃ l, s.locate p = .ok l ∧ s.tree.node? l = none ∧ s' = { s with tree := s.tree.putDirectory l } := by
  unfold makeDirectory at h
  rcases hl : s.locate p with c | l
  · simp [hl, bind, Except.bind] at h
  · rcases hn : s.tree.node? l with _ | e
    · simp only [hl, bind, Except.bind, hn, pure, Except.pure, Except.ok.injEq] at h
      exact ⟨l, rfl, hn, h.symm⟩
    · simp [hl, bind, Except.bind, hn, throw, throwThe, MonadExceptOf.throw] at h

theorem orPresent_ok {c : Cause} (h : s.orPresent p c = .ok s') : s' = s := by
  unfold orPresent at h
  by_cases hc : c = .nullByte
  · simp [hc, bind, Except.bind, throw, throwThe, MonadExceptOf.throw] at h
  · rcases hd : s.isDirectory p with f | d
    · simp [hc, hd, bind, Except.bind] at h
    · cases d
      · simp [hc, hd, bind, Except.bind, throw, throwThe, MonadExceptOf.throw] at h
      · simp only [hc, hd, bind, Except.bind, if_true, if_false, pure, Except.pure, Except.ok.injEq] at h
        exact h.symm

/-- Directories made, one after another, each where nothing stood. -/
inductive Furnished (s : Surroundings) : Surroundings → Prop where
  | same : Furnished s s
  | made {s' : Surroundings} {l : Location} (h : Furnished s s') (free : s'.tree.node? l = none) :
    Furnished s { s' with tree := s'.tree.putDirectory l }

theorem Furnished.trans {s'' : Surroundings} (h : Furnished s s') (h' : Furnished s' s'') : Furnished s s'' := by
  induction h' with
  | same => exact h
  | made _ free ih => exact .made ih free

theorem furnished_makeDirectory (h : s.makeDirectory p = .ok s') : Furnished s s' := by
  obtain ⟨l, -, hfree, rfl⟩ := makeDirectory_ok h
  exact .made .same hfree

/-- The directories above are made and left; if all went well, nothing else was done. -/
theorem furnished_makeDirectoriesUpTo (bound : Nat) (p : Path) (s : Surroundings) :
    Furnished s (makeDirectoriesUpTo bound p s).2 ∧
      ∀ made, (makeDirectoriesUpTo bound p s).1 = .ok made → made = (makeDirectoriesUpTo bound p s).2 := by
  induction bound generalizing p with
  | zero => exact ⟨.same, fun made h => nomatch h⟩
  | succ bound ih =>
    have hpresent : ∀ (s : Surroundings) (c : Cause) made, s.orPresent p c = .ok made → made = s :=
      fun _ _ _ => orPresent_ok
    obtain ⟨hup, hsame⟩ := ih p.parent
    unfold makeDirectoriesUpTo
    split
    · rename_i made hmade
      exact ⟨furnished_makeDirectory hmade, fun _ h => (Except.ok.inj h).symm⟩
    · split_ifs with hparts
      · exact ⟨.same, fun made h => nomatch h⟩
      · rcases hr : makeDirectoriesUpTo bound p.parent s with ⟨f | made, above⟩
        · rw [hr] at hup
          exact ⟨hup, fun made h => nomatch h⟩
        · rw [hr] at hup
          rcases hm : above.makeDirectory p with c | made
          · simp only [hm]
            exact ⟨hup, hpresent above c⟩
          · simp only [hm]
            exact ⟨hup.trans (furnished_makeDirectory hm), fun _ h => (Except.ok.inj h).symm⟩
    · rename_i c _ _
      exact ⟨.same, hpresent s c⟩

theorem furnished_makeDirectories (s : Surroundings) (p : Path) : Furnished s (s.makeDirectories p).2 := by
  obtain ⟨hup, hsame⟩ := furnished_makeDirectoriesUpTo (p.parts.length + 1) p s
  unfold makeDirectories
  rcases hr : makeDirectoriesUpTo (p.parts.length + 1) p s with ⟨f | made, above⟩
  · rw [hr] at hup
    exact hup
  · rw [hr] at hup hsame
    rw [hsame made rfl]
    exact hup

/-- A file opened to be added to is the one that stands at the location, or a new one. -/
theorem openToAdd_ok (h : s.openToAdd p = .ok (n, s')) :
    ∃ l, s.locate p = .ok l ∧
      (s.tree.node? l = some (.file n) ∧ s' = s ∨
        s.tree.node? l = none ∧ n = s.tree.next ∧ s' = { s with tree := (s.tree.create l).2 }) := by
  unfold openToAdd blame at h
  rcases hl : s.locate p with c | l
  · simp [hl, Except.mapError, bind, Except.bind] at h
  · refine ⟨l, rfl, ?_⟩
    simp only [hl, Except.mapError, bind, Except.bind] at h
    rcases hn : s.tree.node? l with _ | (_ | m)
    · simp only [hn, pure, Except.pure, Except.ok.injEq, Prod.mk.injEq] at h
      exact Or.inr ⟨rfl, h.1.symm, h.2.symm⟩
    · simp [hn, throw, throwThe, MonadExceptOf.throw] at h
    · simp only [hn, pure, Except.pure, Except.ok.injEq, Prod.mk.injEq] at h
      exact Or.inl ⟨by rw [h.1], h.2.symm⟩

theorem openToWrite_ok (h : s.openToWrite p = .ok (n, s')) :
    ∃ opened, s.openToAdd p = .ok (n, opened) ∧ s' = { opened with tree := opened.tree.setContent n .empty } := by
  unfold openToWrite at h
  rcases ho : s.openToAdd p with f | ⟨m, opened⟩
  · simp [ho, bind, Except.bind] at h
  · simp only [ho, bind, Except.bind, pure, Except.pure, Except.ok.injEq, Prod.mk.injEq] at h
    obtain ⟨rfl, rfl⟩ := h
    exact ⟨opened, rfl, rfl⟩

theorem enter_ok (h : s.enter p = .ok s') : ∃ l, s.find p = .ok (l, .directory) ∧ s' = { s with cwd := l } := by
  unfold enter blame at h
  rcases hfound : s.find p with c | ⟨l, _ | n⟩
  · simp [hfound, Except.mapError] at h
  · simp only [hfound, Except.mapError, Except.ok.injEq] at h
    exact ⟨l, rfl, h.symm⟩
  · simp [hfound, Except.mapError] at h

theorem enter_tree (h : s.enter p = .ok s') : s'.tree = s.tree := by
  obtain ⟨l, -, rfl⟩ := enter_ok h
  rfl

theorem remove_ok (h : s.remove p = .ok s') :
    ∃ l n, s.find p = .ok (l, .file n) ∧ s' = { s with tree := s.tree.erase l } := by
  unfold remove blame at h
  rcases hfound : s.find p with c | ⟨l, _ | n⟩
  · simp [hfound, Except.mapError] at h
  · simp [hfound, Except.mapError] at h
  · simp only [hfound, Except.mapError, Except.ok.injEq] at h
    exact ⟨l, n, rfl, h.symm⟩

theorem rename_ok {q : Path} (h : s.rename p q = .ok s') : ∃ l m e, s.find p = .ok (l, e) ∧ s.locate q = .ok m ∧
    s' = { s with tree := s.tree.move l m, cwd := Tree.moved l m s.cwd } := by
  unfold rename blame at h
  rcases hfound : s.find p with c | ⟨l, e⟩
  · simp [hfound, Except.mapError, bind, Except.bind] at h
  · rcases hq : s.locate q with c | m
    · simp [hfound, hq, Except.mapError, bind, Except.bind] at h
    · simp only [hfound, hq, Except.mapError, bind, Except.bind, pure, Except.pure, Except.ok.injEq] at h
      exact ⟨l, m, e, rfl, rfl, h.symm⟩

end Surroundings

end LinePrompt.Files
