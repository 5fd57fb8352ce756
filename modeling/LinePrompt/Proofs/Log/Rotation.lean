/-
Rolling a log file over.

A file that is rolled over becomes its first backup, and that one the second if it is there; nothing else in the
directory and nothing above it moves (`Rolled`). That is one of two things that can happen: else all stays as it is,
because the system does not take the name of a backup, or a directory stands where the first backup should be moved to
(`rollOver_cases`, `Barred`).

So a line for a file that stands comes to one of three things: it is added to the file, or to a new one in its place, or
it is dropped and nothing changes (`Wrote`, `wrote_writeLine`).
-/
import LinePrompt.Proofs.Files.Names

namespace LinePrompt.Files

/-! ## Names that move -/

namespace Tree

variable {t : Tree} {a b l m : Location}

/-- where a place that is not below another one moves to -/
theorem moved_eq_iff (hlength : a.length = b.length) (hm : m.length ≤ a.length) :
    moved a b l = m ↔ l = a ∧ m = b ∨ l ≠ a ∧ l = m := by
  unfold moved
  by_cases hsuffix : a <:+ l
  · obtain ⟨below, rfl⟩ := hsuffix
    have htake : (below ++ a).take ((below ++ a).length - a.length) = below := by simp
    rw [if_pos (by simp), htake]
    rcases below with _ | ⟨name, below⟩
    · simp [eq_comm]
    · have hlong : (name :: below ++ a).length = below.length + 1 + a.length := by
        simp only [List.length_append, List.length_cons]
      constructor
      · rintro rfl
        simp only [List.length_append, List.length_cons] at hm
        omega
      · rintro (⟨hsame, -⟩ | ⟨-, rfl⟩)
        · rw [hsame] at hlong
          omega
        · omega
  · have hne : l ≠ a := by
      rintro rfl
      exact hsuffix (List.suffix_refl _)
    rw [if_neg (by simpa using hsuffix)]
    simp [hne]

theorem lookup_moved (hab : a ≠ b) (hlength : a.length = b.length) (hm : m.length ≤ a.length)
    (es : List (Location × Entry)) :
    ((es.filter (·.1 != b)).map fun (l, e) => (moved a b l, e)).lookup m =
      if m = b then es.lookup a else if m = a then none else es.lookup m := by
  induction es with
  | nil => split_ifs <;> rfl
  | cons entry es ih =>
    obtain ⟨l, e⟩ := entry
    have hmoved := moved_eq_iff (l := l) hlength hm
    by_cases hb : l = b
    · subst hb
      have hne : (a == l) = false := beq_false_of_ne hab
      rw [List.filter_cons_of_neg (by simp), ih, List.lookup_cons, hne]
      split_ifs with h₁ h₂
      · rfl
      · rfl
      · rw [List.lookup_cons, beq_false_of_ne h₁]
    · rw [List.filter_cons_of_pos (by simpa using hb), List.map_cons, List.lookup_cons, ih]
      by_cases ha : l = a
      · subst ha
        by_cases hmb : m = b
        · simp [hmb, hmoved.2 (Or.inl ⟨rfl, hmb⟩)]
        · have hother : (m == moved l b l) = false := by
            apply beq_false_of_ne
            intro hsame
            rcases hmoved.1 hsame.symm with ⟨-, h⟩ | ⟨h, -⟩
            · exact hmb h
            · exact h rfl
          rw [hother]
          split_ifs with hml
          · rfl
          · simp [List.lookup_cons, beq_false_of_ne hml]
      · by_cases hml : m = l
        · subst hml
          simp [hb, ha, hmoved.2 (Or.inr ⟨ha, rfl⟩)]
        · have hother : (m == moved a b l) = false := by
            apply beq_false_of_ne
            intro hsame
            rcases hmoved.1 hsame.symm with ⟨h, -⟩ | ⟨-, h⟩
            · exact ha h
            · exact hml h.symm
          have hal : (a == l) = false := beq_false_of_ne (Ne.symm ha)
          simp [hother, List.lookup_cons, hal, beq_false_of_ne hml]

/-- What moves to another place of the same depth is found there, and nothing else has moved that is no deeper. -/
theorem node?_move (hab : a ≠ b) (hlength : a.length = b.length) (hm : m.length ≤ a.length) :
    (t.move a b).node? m = if m = b then t.node? a else if m = a then none else t.node? m := by
  have ha : a ≠ [] := by
    rintro rfl
    exact hab (List.length_eq_zero_iff.1 hlength.symm).symm
  unfold move node?
  rw [if_neg hab, if_neg ha]
  by_cases hroot : m = []
  · subst hroot
    have hb : b ≠ [] := by
      rintro rfl
      exact ha (List.length_eq_zero_iff.1 hlength)
    rw [if_pos rfl, if_neg (Ne.symm hb), if_neg (Ne.symm ha), if_pos rfl]
  · rw [if_neg hroot]
    exact (lookup_moved hab hlength hm t.entries).trans (by simp [hroot])

theorem node?_erase (hl : l ≠ []) (m : Location) : (t.erase l).node? m = if m = l then none else t.node? m := by
  unfold node?
  split_ifs with hroot hsame hsame
  · exact absurd (hsame.symm.trans hroot) hl
  · rfl
  · subst hsame
    refine List.lookup_eq_none_iff.2 fun entry hentry => ?_
    have hother : entry.1 ≠ m := by simpa using (List.mem_filter.1 hentry).2
    simpa using Ne.symm hother
  · simpa [node?, hroot] using node?_erase_of_ne t hsame

end Tree

namespace Surroundings

variable {s s' : Surroundings} {p q : Path} {a b l m : Location} {e : Entry} {n : Nat} {above : List String}
  {name other : String}

/-- something has moved from one place to another of the same depth -/
structure Moved (a b : Location) (s s' : Surroundings) : Prop where
  nodes : ∀ m : Location, m.length ≤ a.length →
    s'.tree.node? m = if m = b then s.tree.node? a else if m = a then none else s.tree.node? m
  bytes : s'.tree.bytes = s.tree.bytes
  next : s'.tree.next = s.tree.next
  clock : s'.clock = s.clock

theorem rename_eq (hfound : s.find p = .ok (l, e)) (hq : s.locate q = .ok m) :
    s.rename p q = .ok { s with tree := s.tree.move l m, cwd := Tree.moved l m s.cwd } := by
  simp only [rename, blame, hfound, hq, Except.mapError, bind, Except.bind, pure, Except.pure]

theorem moved_rename (hab : a ≠ b) (hlength : a.length = b.length) :
    Moved a b s { s with tree := s.tree.move a b, cwd := Tree.moved a b s.cwd } where
  nodes m hm := Tree.node?_move hab hlength hm
  bytes := by simp only [Tree.move, if_neg hab, Tree.erase]
  next := by simp only [Tree.move, if_neg hab, Tree.erase]
  clock := rfl

theorem rename_unusable (h : q.Unusable) : ∃ f, s.rename p q = .error f := by
  rcases hfound : s.find p with c | ⟨l, e⟩
  · exact ⟨⟨c, p.text⟩, by simp [rename, blame, hfound, Except.mapError, bind, Except.bind]⟩
  · rcases hq : s.locate q with c | m
    · exact ⟨⟨c, q.text⟩, by simp [rename, blame, hfound, hq, Except.mapError, bind, Except.bind]⟩
    · exact absurd h (locate_eq_ok.1 hq).1

theorem remove_file (h : s.find p = .ok (l, .file n)) : s.remove p = .ok { s with tree := s.tree.erase l } := by
  simp only [remove, blame, h, Except.mapError]

theorem remove_directory (h : s.find p = .ok (l, .directory)) : s.remove p = .error ⟨.isDirectory, p.text⟩ := by
  simp only [remove, blame, h, Except.mapError]

theorem length_of_mem_way {steps : List String} (h : m ∈ Location.way l steps) :
    m.length ≤ l.length + steps.length := by
  induction steps generalizing l with
  | nil =>
    obtain rfl : m = l := by simpa [Location.way, Location.passed, Path.collapse] using h
    exact Nat.le_add_right _ _
  | cons step rest ih =>
    have hafter : (Location.after l step).length ≤ l.length + 1 := by
      unfold Location.after
      split_ifs
      · simp only [List.length_tail]
        omega
      · simp
    have hsplit : m = l ∨ m ∈ Location.way (Location.after l step) rest := by
      simpa [Location.way, Location.passed, Location.collapse_cons, or_assoc] using h
    rcases hsplit with rfl | hrest
    · exact Nat.le_add_right _ _
    · have hle := ih hrest
      rw [List.length_cons]
      omega

/-- a path in full depends on the places above it only -/
theorem locate_of_above (h : p.Beside above name) (hl : s.locate p = .ok l)
    (habove : ∀ m : Location, m.length ≤ above.length → s'.tree.node? m = s.tree.node? m) : s'.locate p = .ok l := by
  obtain ⟨husable, hpassed, rfl⟩ := locate_eq_ok.1 hl
  refine locate_eq_ok.2 ⟨husable, ?_, by rw [goal_inFull h.toInFull, goal_inFull h.toInFull]⟩
  rw [passed_beside h] at hpassed ⊢
  intro m hm
  have hlength := length_of_mem_way hm
  rw [List.length_nil, Nat.zero_add] at hlength
  rw [habove m hlength]
  exact hpassed m hm

end Surroundings

end LinePrompt.Files

namespace LinePrompt.Log

open LinePrompt.Files Surroundings

variable {s s' moved : Surroundings} {p q : Path} {l : Location} {e : Entry} {n : Nat} {number : Option Nat}
  {above : List String} {name other line : String}

/-! ## Rolling over -/

theorem present_eq (h : s.locate q = .ok l) : present s q = (s.tree.node? l).isSome := by
  rcases hn : s.tree.node? l with _ | e
  · simp [present, find, h, hn, bind, Except.bind, throw, throwThe, MonadExceptOf.throw, Except.toOption]
  · simp [present, find_eq_ok.2 ⟨h, hn⟩, Except.toOption]

theorem present_unusable (h : q.Unusable) : present s q = false := by
  rcases hfound : s.find q with c | ⟨l, e⟩
  · simp [present, hfound, Except.toOption]
  · exact absurd h (locate_eq_ok.1 (find_eq_ok.1 hfound).1).1

/-- a log file that can not be rolled over -/
inductive Barred (p : Path) (s : Surroundings) : Prop where
  /-- the system does not take the name of a backup -/
  | unusable (unusable : (backup p 1).Unusable ∨ (backup p 2).Unusable)
  /-- a directory stands where the first backup should be moved to -/
  | directory (first : s.tree.node? (s.goal (backup p 1)) ≠ none)
    (second : s.tree.node? (s.goal (backup p 2)) = some .directory)

/-- A log file has been rolled over: it is the first backup, and the first backup, if there was one, the second. -/
structure Rolled (p : Path) (s s' : Surroundings) : Prop where
  usable : ¬ (backup p 1).Unusable
  clear : s.tree.node? (s.goal (backup p 1)) = none ∨ s.tree.node? (s.goal (backup p 2)) ≠ some .directory
  current : s'.tree.node? (s.goal p) = none
  first : s'.tree.node? (s.goal (backup p 1)) = s.tree.node? (s.goal p)
  second : s'.tree.node? (s.goal (backup p 2)) =
    (s.tree.node? (s.goal (backup p 1))).or (s.tree.node? (s.goal (backup p 2)))
  above : ∀ m : Location, m.length < (s.goal p).length → s'.tree.node? m = s.tree.node? m
  bytes : s'.tree.bytes = s.tree.bytes
  next : s'.tree.next = s.tree.next
  clock : s'.clock = s.clock

/-- room has been made at the place `a` for a new first backup: the old one, if there was one, has the place `b` -/
structure Cleared (a b : Location) (s s' : Surroundings) : Prop where
  clear : s.tree.node? a = none ∨ s.tree.node? b ≠ some .directory
  nodes : ∀ m : Location, m.length ≤ a.length →
    s'.tree.node? m = if m = b then (s.tree.node? a).or (s.tree.node? b) else if m = a then none else s.tree.node? m
  bytes : s'.tree.bytes = s.tree.bytes
  next : s'.tree.next = s.tree.next
  clock : s'.clock = s.clock

theorem cleared_of_free {a b : Location} (hfree : s.tree.node? a = none) : Cleared a b s s where
  clear := Or.inl hfree
  nodes m _ := by
    rw [hfree, Option.none_or]
    split_ifs with hb ha
    · rw [hb]
    · rw [ha, hfree]
    · rfl
  bytes := rfl
  next := rfl
  clock := rfl

theorem cleared_of_moved {a b : Location} (hthere : s.tree.node? a = some e) (hclear : s.tree.node? b ≠ some .directory)
    (h : Moved a b s s') : Cleared a b s s' where
  clear := Or.inr hclear
  nodes m hm := by rw [h.nodes m hm, hthere, Option.some_or]
  bytes := h.bytes
  next := h.next
  clock := h.clock

/-- a file that stood at the target is gone first -/
theorem moved_of_removed {a b : Location} (hab : a ≠ b) (hb : b ≠ [])
    (h : Moved a b { s with tree := s.tree.erase b } s') : Moved a b s s' where
  nodes m hm := by
    rw [h.nodes m hm, Tree.node?_erase hb, Tree.node?_erase hb, if_neg hab]
    split_ifs <;> rfl
  bytes := h.bytes
  next := h.next
  clock := h.clock

section Files

variable {f g : Path} {first second : String} (h : p.Beside above name) (hl : s.locate p = .ok l)
  (hf : f.Beside above first) (hg : g.Beside above second) (hne : first ≠ second)

include hf hg in
theorem goals_beside : (s.goal f).length = (s.goal g).length ∧ (first ≠ second → s.goal f ≠ s.goal g) := by
  rw [goal_beside hf, goal_beside hg, List.length_cons, List.length_cons]
  exact ⟨rfl, fun hne hsame => hne (List.cons.inj hsame).1⟩

include h hl hf in
theorem locate_goal (husable : ¬ f.Unusable) : s.locate f = .ok (s.goal f) := by
  rw [goal_beside hf]
  exact (locate_beside h hl hf).2 husable

include hf hg hne in
theorem rename_removed (hfound : s.find f = .ok (s.goal f, e)) (hlg : s.locate g = .ok (s.goal g)) :
    ({ s with tree := s.tree.erase (s.goal g) } : Surroundings).rename f g =
      .ok { s with
        tree := (s.tree.erase (s.goal g)).move (s.goal f) (s.goal g)
        cwd := Tree.moved (s.goal f) (s.goal g) s.cwd } := by
  obtain ⟨hlf, hthere⟩ := find_eq_ok.1 hfound
  have hgoals : s.goal f ≠ s.goal g := (goals_beside hf hg).2 hne
  have hroot : s.goal g ≠ [] := goal_ne_root hg
  have hstill (m : Location) (hm : m.length ≤ above.length) :
      (s.tree.erase (s.goal g)).node? m = s.tree.node? m := by
    refine (Tree.node?_erase hroot m).trans (if_neg ?_)
    rintro rfl
    rw [goal_beside hg, List.length_cons, List.length_reverse] at hm
    omega
  apply rename_eq (e := e)
  · exact find_eq_ok.2 ⟨locate_of_above hf hlf hstill, (Tree.node?_erase hroot _).trans ((if_neg hgoals).trans hthere)⟩
  · exact locate_of_above hg hlg hstill

include h hl hf hg hne in
/-- A file takes the place of another one, or all stays as it is and there is a reason for it. -/
theorem replace_cases (husable : ¬ f.Unusable) :
    ((∃ fault, replace s f g = (.error fault, s)) ∧
      (g.Unusable ∨ s.tree.node? (s.goal f) ≠ none ∧ s.tree.node? (s.goal g) = some .directory)) ∨
      ∃ s', replace s f g = (.ok s', s') ∧ Cleared (s.goal f) (s.goal g) s s' := by
  obtain ⟨hlengths, hgoals⟩ := goals_beside (s := s) hf hg
  have hlf := locate_goal h hl hf husable
  unfold replace
  rw [present_eq hlf]
  rcases hthere : s.tree.node? (s.goal f) with _ | e
  · exact Or.inr ⟨s, rfl, cleared_of_free hthere⟩
  · have hfound : s.find f = .ok (s.goal f, e) := find_eq_ok.2 ⟨hlf, hthere⟩
    simp only [Option.isSome_some, Bool.not_true, Bool.false_eq_true, if_false]
    by_cases hgu : g.Unusable
    · obtain ⟨fault, hrename⟩ := rename_unusable (s := s) (p := f) hgu
      rw [present_unusable hgu]
      simp only [Bool.false_eq_true, if_false, hrename]
      exact Or.inl ⟨⟨fault, rfl⟩, Or.inl hgu⟩
    · have hlg := locate_goal h hl hg hgu
      rw [present_eq hlg]
      rcases hstands : s.tree.node? (s.goal g) with _ | (_ | m)
      · simp only [Option.isSome_none, Bool.false_eq_true, if_false, rename_eq hfound hlg]
        exact Or.inr ⟨_, rfl, cleared_of_moved hthere (by simp [hstands]) (moved_rename (hgoals hne) hlengths)⟩
      · have hdirectory : s.find g = .ok (s.goal g, .directory) := find_eq_ok.2 ⟨hlg, hstands⟩
        simp only [Option.isSome_some, if_true, remove_directory hdirectory]
        exact Or.inl ⟨⟨_, rfl⟩, Or.inr ⟨Option.some_ne_none e, trivial⟩⟩
      · have hfile : s.find g = .ok (s.goal g, .file m) := find_eq_ok.2 ⟨hlg, hstands⟩
        have hmoved := moved_of_removed (s := s) (hgoals hne) (goal_ne_root hg) (moved_rename (hgoals hne) hlengths)
        simp only [Option.isSome_some, if_true, remove_file hfile, rename_removed hf hg hne hfound hlg]
        exact Or.inr ⟨_, rfl, cleared_of_moved hthere (by simp [hstands]) hmoved⟩

end Files

/-- once there is room for it, the file takes the first backup's place -/
theorem rolled_of_cleared {f g : Path} {first second : String} {s₁ s₂ : Surroundings} (h : p.Beside above name)
    (hf : f.Beside above first) (hg : g.Beside above second) (hpf : name ≠ first) (hpg : name ≠ second)
    (hfg : first ≠ second) (hcleared : Cleared (s.goal f) (s.goal g) s s₁)
    (hmoved : Moved (s.goal p) (s.goal f) s₁ s₂) :
    s₂.tree.node? (s.goal p) = none ∧ s₂.tree.node? (s.goal f) = s.tree.node? (s.goal p) ∧
      s₂.tree.node? (s.goal g) = (s.tree.node? (s.goal f)).or (s.tree.node? (s.goal g)) ∧
      ∀ m : Location, m.length < (s.goal p).length → s₂.tree.node? m = s.tree.node? m := by
  obtain ⟨hlf, hnf⟩ := goals_beside (s := s) h hf
  obtain ⟨hlg, hng⟩ := goals_beside (s := s) h hg
  obtain ⟨-, hnfg⟩ := goals_beside (s := s) hf hg
  refine ⟨?_, ?_, ?_, ?_⟩
  · rw [hmoved.nodes _ le_rfl, if_neg (hnf hpf), if_pos rfl]
  · rw [hmoved.nodes _ hlf.ge, if_pos rfl, hcleared.nodes _ hlf.le, if_neg (hng hpg), if_neg (hnf hpf)]
  · rw [hmoved.nodes _ hlg.ge, if_neg (Ne.symm (hnfg hfg)), if_neg (Ne.symm (hng hpg)),
      hcleared.nodes _ (hlg.ge.trans hlf.le), if_pos rfl]
  · intro m hm
    have hne {l : Location} (hl : (s.goal p).length = l.length) : m ≠ l := by
      rintro rfl
      omega
    rw [hmoved.nodes m hm.le, if_neg (hne hlf), if_neg (hne rfl), hcleared.nodes m (hm.le.trans hlf.le),
      if_neg (hne hlg), if_neg (hne hlf)]

theorem backup_names_ne (name : String) : name ++ "." ++ toString 1 ≠ name ++ "." ++ toString 2 := by
  intro hsame
  have hdigits : Nat.toDigits 10 1 = Nat.toDigits 10 2 := by simpa using congrArg String.toList hsame
  exact absurd hdigits (by decide)

/-- Once there is room, nothing keeps the file from the first backup's place. -/
theorem Cleared.rename {s₁ : Surroundings} (h : p.Beside above name) (hfound : s.find p = .ok (l, .file n))
    (husable : ¬ (backup p 1).Unusable)
    (hcleared : Cleared (s.goal (backup p 1)) (s.goal (backup p 2)) s s₁) :
    present s₁ (backup p 1) = false ∧ present s₁ p = true ∧
      ∃ s', s₁.rename p (backup p 1) = .ok s' ∧ Rolled p s s' := by
  obtain ⟨hl, hstands⟩ := find_eq_ok.1 hfound
  have hfirst := beside_backup h 1
  have hsecond := beside_backup h 2
  have hself (n : Nat) : name ≠ name ++ "." ++ toString n := (backup_name_ne name n).symm
  have hnames := backup_names_ne name
  obtain ⟨hlengths, hgoals⟩ := goals_beside (s := s) hfirst hsecond
  obtain ⟨hlf, hnf⟩ := goals_beside (s := s) h hfirst
  obtain ⟨hlg, hng⟩ := goals_beside (s := s) h hsecond
  obtain rfl : l = s.goal p := (locate_eq_ok.1 hl).2.2
  -- the way to the file and its backups is above all that has moved
  have hstill (m : Location) (hm : m.length ≤ above.length) : s₁.tree.node? m = s.tree.node? m := by
    have hdeep : above.length < (s.goal p).length := by
      rw [goal_beside h, List.length_cons, List.length_reverse]
      exact Nat.lt_succ_self _
    have hne {l : Location} (hl : (s.goal p).length = l.length) : m ≠ l := by
      rintro rfl
      omega
    rw [hcleared.nodes m (by omega), if_neg (hne hlg), if_neg (hne hlf)]
  have hfile : s₁.find p = .ok (s.goal p, .file n) := by
    refine find_eq_ok.2 ⟨locate_of_above h hl hstill, ?_⟩
    rw [hcleared.nodes _ hlf.le, if_neg (hng (hself 2)), if_neg (hnf (hself 1)), hstands]
  have htarget : s₁.locate (backup p 1) = .ok (s.goal (backup p 1)) :=
    locate_of_above hfirst (locate_goal h hl hfirst husable) hstill
  have hfree : s₁.tree.node? (s.goal (backup p 1)) = none := by
    rw [hcleared.nodes _ le_rfl, if_neg (hgoals hnames), if_pos rfl]
  have hmoved := moved_rename (s := s₁) (hnf (hself 1)) hlf
  obtain ⟨hcurrent, hone, htwo, habove⟩ :=
    rolled_of_cleared h hfirst hsecond (hself 1) (hself 2) hnames hcleared hmoved
  refine ⟨?_, ?_, _, rename_eq hfile htarget, ?_⟩
  · rw [present_eq htarget, hfree, Option.isSome_none]
  · obtain ⟨hlocated, hthere⟩ := find_eq_ok.1 hfile
    rw [present_eq hlocated, hthere, Option.isSome_some]
  · exact ⟨husable, hcleared.clear, hcurrent, hone, htwo, habove, hmoved.bytes.trans hcleared.bytes,
      hmoved.next.trans hcleared.next, hcleared.clock⟩

theorem moveBackup_eq (p : Path) (s : Surroundings) (k : Nat) :
    moveBackup p (none, s) k =
      match replace s (backup p k) (backup p (k + 1)) with
      | (.error f, s) => (some f, s)
      | (.ok _, s) => (none, s) := by
  rcases hmoved : replace s (backup p k) (backup p (k + 1)) with ⟨f | made, s'⟩
  all_goals
    unfold moveBackup
    simp only [hmoved]

/-- the only backup that becomes another one is the first -/
theorem moveBackups_eq (p : Path) (s : Surroundings) :
    (List.range' 1 (backupCount - 1)).reverse.foldl (moveBackup p) (none, s) =
      match replace s (backup p 1) (backup p 2) with
      | (.error f, s) => (some f, s)
      | (.ok _, s) => (none, s) := by
  have hnumbers : (List.range' 1 (backupCount - 1)).reverse = [1] := rfl
  have hmoved := moveBackup_eq p s 1
  simp only [Nat.reduceAdd] at hmoved
  rw [hnumbers, List.foldl_cons, List.foldl_nil, hmoved]

/-- A file that stands is rolled over, or all stays as it is and there is a reason for it. -/
theorem rollOver_cases (h : p.Beside above name) (hfound : s.find p = .ok (l, .file n)) :
    ((∃ f, rollOver p s = (some f, s)) ∧ Barred p s) ∨ ∃ s', rollOver p s = (none, s') ∧ Rolled p s s' := by
  obtain ⟨hl, hstands⟩ := find_eq_ok.1 hfound
  have hthere : present s p = true := by rw [present_eq hl, hstands, Option.isSome_some]
  unfold rollOver
  by_cases husable : (backup p 1).Unusable
  · obtain ⟨f, hrename⟩ := rename_unusable (s := s) (p := p) husable
    have hreplace : replace s (backup p 1) (backup p 2) = (.ok s, s) := by
      simp [replace, present_unusable husable]
    rw [moveBackups_eq, hreplace]
    simp only [present_unusable husable, Bool.false_eq_true, if_false, hthere, Bool.not_true, hrename]
    exact Or.inl ⟨⟨f, rfl⟩, .unusable (Or.inl husable)⟩
  · rcases replace_cases h hl (beside_backup h 1) (beside_backup h 2) (backup_names_ne name) husable with
      ⟨⟨f, hreplace⟩, hreason⟩ | ⟨s₁, hreplace, hcleared⟩
    · rw [moveBackups_eq, hreplace]
      refine Or.inl ⟨⟨f, rfl⟩, ?_⟩
      rcases hreason with hsecond | ⟨hthere, hstands⟩
      · exact .unusable (Or.inr hsecond)
      · exact .directory hthere hstands
    · obtain ⟨hfree, hstill, s', hrename, hrolled⟩ := hcleared.rename h hfound husable
      rw [moveBackups_eq, hreplace]
      simp only [hfree, Bool.false_eq_true, if_false, hstill, Bool.not_true, hrename]
      exact Or.inr ⟨s', rfl, hrolled⟩

/-! ## Lines -/

/-- the surroundings with a new file at a place -/
def withFile (s : Surroundings) (l : Location) : Surroundings := { s with tree := (s.tree.create l).2 }

/-- what comes of a line for a file that stands, whose number is `n` -/
inductive Wrote (p : Path) (line : String) (s : Surroundings) (n : Nat) : Handler × Effect → Prop where
  /-- it is added to the file -/
  | added (fits : (s.tree.content n).size + line.length < sizeLimit) :
    Wrote p line s n (.file p (some n), ⟨s.append n line.toUTF8, "", 0⟩)
  /-- the file is rolled over, and the line is the first one of a new file -/
  | rolled {moved : Surroundings} (full : sizeLimit ≤ (s.tree.content n).size + line.length)
    (rolls : Rolled p s moved) :
    Wrote p line s n (.file p (some moved.tree.next),
      ⟨(withFile moved (moved.goal p)).append moved.tree.next line.toUTF8, "", 0⟩)
  /-- the file can not be rolled over, and nothing changes -/
  | dropped (full : sizeLimit ≤ (s.tree.content n).size + line.length) (barred : Barred p s) :
    Wrote p line s n (.file p none, ⟨s, "", 1⟩)

/-- where nothing stands a new file is opened -/
theorem openToAdd_free (hl : s.locate p = .ok l) (hfree : s.tree.node? l = none) :
    s.openToAdd p = .ok (s.tree.next, withFile s l) := by
  obtain ⟨m, opened, hopen⟩ := openToAdd_of_locate hl (by simp [hfree])
  obtain ⟨l', hl', ⟨hn, -⟩ | ⟨-, rfl, rfl⟩⟩ := openToAdd_ok hopen
  · obtain rfl := Except.ok.inj (hl.symm.trans hl')
    rw [hfree] at hn
    cases hn
  · obtain rfl := Except.ok.inj (hl.symm.trans hl')
    exact hopen

theorem find_withFile (hl : s.locate p = .ok l) (hfree : s.tree.node? l = none) :
    (withFile s l).find p = .ok (l, .file s.tree.next) :=
  find_eq_ok.2 ⟨locate_of_keeps (s := s) rfl (Tree.keeps_create hfree) hl, Tree.node?_create hfree⟩

theorem goal_of_inFull (h : p.InFull) (s s' : Surroundings) : s'.goal p = s.goal p := by
  rw [goal_inFull h, goal_inFull h]

/-- once it is rolled over, the file's place is free -/
theorem Rolled.locate (h : p.Beside above name) (hl : s.locate p = .ok l) (hrolled : Rolled p s s') :
    s'.locate p = .ok (s'.goal p) ∧ s'.tree.node? (s'.goal p) = none := by
  rw [goal_of_inFull h.toInFull s s']
  have hgoal : l = s.goal p := (locate_eq_ok.1 hl).2.2
  refine ⟨hgoal ▸ locate_of_above h hl fun m hm => hrolled.above m ?_, hrolled.current⟩
  rw [goal_beside h, List.length_cons, List.length_reverse]
  omega

theorem wrote_writeLine (h : p.InFull) (hfound : s.find p = .ok (l, .file n)) (hnumber : Attached p number s)
    (line : String) : Wrote p line s n (writeLine p number line s) := by
  obtain ⟨above, name, hbeside⟩ := beside_of_find h hfound
  have hfull : isFull s p n line = decide (sizeLimit ≤ (s.tree.content n).size + line.length) := by
    simp [isFull, blocked_of_find hfound]
  unfold writeLine
  simp only [opened_eq hnumber, openToAdd_of_find hfound, hfull, decide_eq_true_eq]
  split_ifs with hlong
  · rcases rollOver_cases hbeside hfound with ⟨⟨f, hroll⟩, hbarred⟩ | ⟨moved, hroll, hrolled⟩
    · rw [hroll]
      exact .dropped hlong hbarred
    · obtain ⟨hl, hfree⟩ := hrolled.locate hbeside (find_eq_ok.1 hfound).1
      simp only [hroll, openToAdd_free hl hfree]
      exact .rolled hlong hrolled
  · exact .added (Nat.lt_of_not_le hlong)

/-- the file of a handler stands after a line as it did before, open at its path or not open -/
theorem Wrote.stands {w : Handler × Effect} (h : p.InFull) (hfound : s.find p = .ok (l, .file n))
    (hw : Wrote p line s n w) :
    ∃ number' m, w.1 = .file p number' ∧ w.2.surroundings.find p = .ok (l, .file m) ∧
      Attached p number' w.2.surroundings := by
  obtain ⟨above, name, hbeside⟩ := beside_of_find h hfound
  obtain ⟨hl, hstands⟩ := find_eq_ok.1 hfound
  cases hw with
  | added fits =>
    have hstill := find_append hfound n line.toUTF8
    exact ⟨some n, n, rfl, hstill, attached_some hstill⟩
  | @rolled moved full rolls =>
    obtain ⟨hl', hfree⟩ := rolls.locate hbeside hl
    have hgoal : l = moved.goal p := (locate_eq_ok.1 hl).2.2.trans (goal_of_inFull h moved s)
    have hstill := find_append (find_withFile hl' hfree) moved.tree.next line.toUTF8
    exact ⟨_, moved.tree.next, rfl, hgoal ▸ hstill, attached_some hstill⟩
  | dropped full barred => exact ⟨none, n, rfl, hfound, attached_none p s⟩

theorem Wrote.clock {w : Handler × Effect} (hw : Wrote p line s n w) : w.2.surroundings.clock = s.clock := by
  cases hw with
  | added fits => rfl
  | rolled full rolls => exact rolls.clock
  | dropped full barred => rfl

end LinePrompt.Log
