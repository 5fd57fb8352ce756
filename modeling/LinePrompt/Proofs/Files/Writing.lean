/-
Writing a file, and what is found afterwards.

Directories are made on the way to the file, where nothing stood before (`Furnished`), and nothing that stood anywhere
is moved: a path that led somewhere leads there still (`locate_of_keeps`). So a file that has been written is found at
its path with the bytes that were written, and every other location holds what it held: `writeFile_ok`. Setting up a log
writes nothing, so that every file reads as it did: `preserved_setUp`.
-/
import LinePrompt.Proofs.Files.Numbers

namespace LinePrompt.Files

/-! ## What stays where it is -/

namespace Tree

variable {t t' t'' : Tree} {l l' : Location}

/-- whatever stands in the one tree stands there in the other -/
def Keeps (t t' : Tree) : Prop := ∀ l e, t.node? l = some e → t'.node? l = some e

theorem Keeps.refl (t : Tree) : t.Keeps t := fun _ _ h => h

theorem Keeps.trans (h : t.Keeps t') (h' : t'.Keeps t'') : t.Keeps t'' := fun l e he => h' l e (h l e he)

/-- a name taken away is missed at its own location only -/
theorem node?_erase_of_ne (t : Tree) (h : l' ≠ l) : (t.erase l).node? l' = t.node? l' := by
  have hfilter : (t.entries.filter (·.1 != l)).lookup l' = t.entries.lookup l' := by
    induction t.entries with
    | nil => rfl
    | cons b rest ih =>
      obtain ⟨k, v⟩ := b
      by_cases hk : k = l
      · subst hk
        have hne : (l' == k) = false := beq_false_of_ne h
        simp [List.lookup_cons, hne, ih]
      · simp only [List.filter_cons, bne_iff_ne, ne_eq, hk, not_false_eq_true, if_true, List.lookup_cons, ih]
  simp only [node?, erase, hfilter]

theorem node?_putDirectory_of_ne (t : Tree) (h : l' ≠ l) : (t.putDirectory l).node? l' = t.node? l' := by
  rw [← node?_erase_of_ne t h]
  simp only [node?, putDirectory, List.lookup_cons, beq_false_of_ne h]

theorem node?_putFile_of_ne (t : Tree) (h : l' ≠ l) : (t.putFile l).node? l' = t.node? l' := by
  rw [← node?_erase_of_ne t h]
  simp only [node?, putFile, List.lookup_cons, beq_false_of_ne h]

theorem ne_root_of_free (h : t.node? l = none) : l ≠ [] := by
  rintro rfl
  simp [node?] at h

theorem keeps_of_free (free : t.node? l = none) (h : ∀ l' ≠ l, t'.node? l' = t.node? l') : t.Keeps t' := by
  intro l' e he
  have hne : l' ≠ l := by
    rintro rfl
    simp [free] at he
  rw [h l' hne, he]

theorem keeps_putDirectory (free : t.node? l = none) : t.Keeps (t.putDirectory l) :=
  keeps_of_free free fun _ => node?_putDirectory_of_ne t

theorem keeps_create (free : t.node? l = none) : t.Keeps (t.create l).2 :=
  keeps_of_free free fun _ => node?_putFile_of_ne t

theorem node?_create (free : t.node? l = none) : (t.create l).2.node? l = some (.file t.next) :=
  node?_putFile t (ne_root_of_free free)

/-- a way that could be followed can be followed to the same place -/
theorem follow_of_keeps (hk : t.Keeps t') (steps : List String) (start : Location) {goal : Location}
    (h : t.follow start steps = .ok goal) : t'.follow start steps = .ok goal := by
  induction steps generalizing start with
  | nil => exact h
  | cons step rest ih =>
    unfold follow at h ⊢
    rcases he : t.node? start with _ | (_ | n)
    · simp [he] at h
    · rw [hk _ _ he]
      simp only [he] at h ⊢
      split_ifs at h ⊢
      · exact ih _ h
      · exact ih _ h
    · simp [he] at h

/-- a new file does not show at any other location -/
theorem contentAt?_create (hne : l' ≠ l) : (t.create l).2.contentAt? l' = t.contentAt? l' := by
  have hnode : (t.create l).2.node? l' = t.node? l' := node?_putFile_of_ne t hne
  unfold contentAt?
  rw [hnode]
  rcases he : t.node? l' with _ | (_ | m)
  · rfl
  · rfl
  · have hm : m ≠ t.next := Nat.ne_of_lt (lt_next_of_node? he)
    exact congrArg some (content_setContent_of_ne (t.putFile l) .empty hm)

end Tree

/-- the shortest name of a file, as a path -/
theorem Path.ofText_oneLetter : Path.ofText "c" = ⟨.here, ["c"]⟩ := by
  have hparts : "c".splitOn "/" = ["c"] := by
    rw [String.splitOn, if_neg (by decide), String.splitOnAux, if_neg (by decide), if_neg (by decide),
      String.splitOnAux, if_pos (by decide)]
    decide +kernel
  unfold Path.ofText Path.steps
  rw [hparts]
  decide +kernel

namespace Surroundings

variable {s s' : Surroundings} {p : Path} {l l' : Location} {n : Nat}

/-- a path that led somewhere leads there still -/
theorem locate_of_keeps (hcwd : s'.cwd = s.cwd) (hk : s.tree.Keeps s'.tree) (h : s.locate p = .ok l) :
    s'.locate p = .ok l := by
  unfold locate at h ⊢
  rw [hcwd]
  split_ifs at h ⊢
  · exact Tree.follow_of_keeps hk _ _ h
  · exact Tree.follow_of_keeps hk _ _ h

theorem Furnished.cwd (h : Furnished s s') : s'.cwd = s.cwd := by
  induction h with
  | same => rfl
  | made _ _ ih => exact ih

theorem Furnished.keeps (h : Furnished s s') : s.tree.Keeps s'.tree := by
  induction h with
  | same => exact .refl _
  | made _ free ih => exact ih.trans (Tree.keeps_putDirectory free)

/-- no file's bytes change where directories are made -/
theorem Furnished.contentAt? (h : Furnished s s') (l : Location) : s'.tree.contentAt? l = s.tree.contentAt? l := by
  induction h with
  | same => rfl
  | @made s' m _ free ih =>
    rw [← ih]
    by_cases hl : l = m
    · subst hl
      simp only [Tree.contentAt?, Tree.node?_putDirectory, free]
    · simp only [Tree.contentAt?, Tree.node?_putDirectory_of_ne _ hl]
      rfl

theorem find_file (hl : s.locate p = .ok l) (hn : s.tree.node? l = some (.file n)) : s.find p = .ok (l, .file n) := by
  simp only [find, hl, hn, bind, Except.bind, pure, Except.pure]

/-- a file that can be read stands where its path leads -/
theorem read_eq_ok_iff {bytes : ByteArray} :
    s.read p = .ok bytes ↔ ∃ l, s.locate p = .ok l ∧ s.tree.contentAt? l = some bytes := by
  unfold read find blame Tree.contentAt?
  rcases hl : s.locate p with c | l
  · simp [bind, Except.bind, Except.mapError]
  · rcases hn : s.tree.node? l with _ | (_ | n)
    · simp [bind, Except.bind, Except.mapError, throw, throwThe, MonadExceptOf.throw, hn]
    · simp [bind, Except.bind, Except.mapError, pure, Except.pure, hn]
    · simp [bind, Except.bind, Except.mapError, pure, Except.pure, hn]

theorem isThere_of_read {bytes : ByteArray} (h : s.read p = .ok bytes) : s.isThere p = .ok true := by
  obtain ⟨l, hl, hcontent⟩ := read_eq_ok_iff.1 h
  unfold isThere
  unfold Tree.contentAt? at hcontent
  split at hcontent
  · rename_i n hn
    rw [find_file hl hn]
  · cases hcontent

/-! ## Files left as they are -/

/-- Whatever is there is there still, and files have the bytes they had. -/
structure Preserved (s s' : Surroundings) : Prop where
  cwd : s'.cwd = s.cwd
  keeps : s.tree.Keeps s'.tree
  contents : ∀ l bytes, s.tree.contentAt? l = some bytes → s'.tree.contentAt? l = some bytes

theorem Preserved.refl (s : Surroundings) : Preserved s s := ⟨rfl, .refl _, fun _ _ h => h⟩

theorem Preserved.trans {s'' : Surroundings} (h : Preserved s s') (h' : Preserved s' s'') : Preserved s s'' :=
  ⟨h'.cwd.trans h.cwd, h.keeps.trans h'.keeps, fun l bytes hl => h'.contents l bytes (h.contents l bytes hl)⟩

/-- a file reads as it did -/
theorem Preserved.read {bytes : ByteArray} (h : Preserved s s') (hread : s.read p = .ok bytes) :
    s'.read p = .ok bytes := by
  obtain ⟨l, hl, hcontent⟩ := read_eq_ok_iff.1 hread
  exact read_eq_ok_iff.2 ⟨l, locate_of_keeps h.cwd h.keeps hl, h.contents l bytes hcontent⟩

theorem Furnished.preserved (h : Furnished s s') : Preserved s s' :=
  ⟨h.cwd, h.keeps, fun l bytes hl => by rw [h.contentAt?, hl]⟩

theorem preserved_openToAdd (h : s.openToAdd p = .ok (n, s')) : Preserved s s' := by
  obtain ⟨l, hl, ⟨hn, rfl⟩ | ⟨free, rfl, rfl⟩⟩ := openToAdd_ok h
  · exact .refl _
  · refine ⟨rfl, Tree.keeps_create free, ?_⟩
    intro l' bytes hbytes
    have hne : l' ≠ l := by
      rintro rfl
      simp [Tree.contentAt?, free] at hbytes
    rw [← hbytes]
    exact Tree.contentAt?_create hne

/-! ## Files written -/

/-- A file has been written: it is found at its path with these bytes, and every other location holds what it held. -/
structure Written (s s' : Surroundings) (p : Path) (l : Location) (bytes : ByteArray) : Prop where
  located : s'.locate p = .ok l
  read : s'.read p = .ok bytes
  others : ∀ l' ≠ l, s'.tree.contentAt? l' = s.tree.contentAt? l'

/-- A file opened is at the location that its path leads to; nothing else is touched. -/
theorem opened_at (h : s.openToAdd p = .ok (n, s')) :
    ∃ l, s'.locate p = .ok l ∧ s'.tree.node? l = some (.file n) ∧
      ∀ l' ≠ l, s'.tree.contentAt? l' = s.tree.contentAt? l' := by
  obtain ⟨l, hl, ⟨hn, rfl⟩ | ⟨free, rfl, rfl⟩⟩ := openToAdd_ok h
  · exact ⟨l, hl, hn, fun _ _ => rfl⟩
  · refine ⟨l, ?_, Tree.node?_create free, fun l' hne => Tree.contentAt?_create hne⟩
    exact locate_of_keeps (s := s) rfl (Tree.keeps_create free) hl

/-- A file opened to be written to, and its bytes. -/
theorem written_of_openToWrite (h : s.openToWrite p = .ok (n, s')) (bytes : ByteArray) :
    ∃ l, Written s (s'.append n bytes) p l bytes := by
  obtain ⟨opened, ho, rfl⟩ := openToWrite_ok h
  obtain ⟨l, hl, hn, hothers⟩ := opened_at ho
  have hlocated : (({ opened with tree := opened.tree.setContent n .empty } : Surroundings).append n bytes).locate p =
      .ok l := locate_of_keeps (s := opened) rfl (fun _ _ he => he) hl
  have hfound := find_file hlocated hn
  refine ⟨l, hlocated, ?_, ?_⟩
  · unfold read blame
    rw [hfound]
    simp only [Except.mapError, append, Tree.append, Tree.content_setContent, ByteArray.empty_append]
  · intro l' hne
    have hempty := Tree.contentAt?_setContent hn .empty hne
    have hfilled := Tree.contentAt?_setContent (t := opened.tree.setContent n .empty) hn (.empty ++ bytes) hne
    simp only [append, Tree.append, Tree.content_setContent]
    rw [hfilled, hempty, hothers l' hne]

end Surroundings

end LinePrompt.Files

namespace LinePrompt.Settings

open LinePrompt.Files Surroundings

variable {s s' : Surroundings} {p : Path}

/-- A text written to a path is what its file holds afterwards, and no other file has changed. -/
theorem writeFile_ok {text : Except Trouble String} (h : writeFile s p text = (none, s')) :
    ∃ t l, text = .ok t ∧ Written s s' p l t.toUTF8 := by
  unfold writeFile at h
  have hmade := furnished_makeDirectories s p.parent
  rcases hm : s.makeDirectories p.parent with ⟨_ | f, s₁⟩
  · rw [hm] at hmade
    rcases ho : s₁.openToWrite p with f | ⟨n, s₂⟩
    · simp [hm, ho] at h
    · cases text with
      | error trouble => simp [hm, ho] at h
      | ok t =>
        simp only [hm, ho, Prod.mk.injEq, true_and] at h
        subst h
        obtain ⟨l, hwritten⟩ := written_of_openToWrite ho t.toUTF8
        refine ⟨t, l, rfl, hwritten.located, hwritten.read, ?_⟩
        intro l' hne
        rw [hwritten.others l' hne, hmade.contentAt?]
  · simp [hm] at h

end LinePrompt.Settings

namespace LinePrompt.Log

open LinePrompt.Files Surroundings

/-- setting up the log changes no file that is there -/
theorem preserved_setUp (c : Option Settings) (w : Wanted) (s : Surroundings) :
    Preserved s (setUp c w s).2.2 := by
  unfold setUp
  rcases Settings.logPath s c w.file with t | p
  · exact .refl s
  · have hmade := furnished_makeDirectories s p.parent
    rcases hm : s.makeDirectories p.parent with ⟨_ | f, s₁⟩
    · rw [hm] at hmade
      simp only [hm]
      rcases ho : s₁.openToAdd (p.absolute s₁.cwd) with f | ⟨n, s₂⟩
      · exact hmade.preserved
      · exact hmade.preserved.trans (preserved_openToAdd ho)
    · rw [hm] at hmade
      simp only [hm]
      exact hmade.preserved

end LinePrompt.Log
