/-
Trees without gaps, and the directory that is worked in.

Whatever has a name in a tree stands in a directory, and the name is one that a system takes (`Tree.Rooted`). So the
names of a directory lead to it (`Rooted.grounded`). New names, names that are taken away and names that move within
their directory leave it so (`Rooted.put`, `Rooted.erase`, `Rooted.move`), and with it all that is done to files by
their paths, which leaves the directory that is worked in a directory too (`Surroundings.Based`).
-/
import LinePrompt.Proofs.Log.Rotation

namespace LinePrompt.Files

/-- a name that something in a directory can have -/
structure IsFileName (name : String) : Prop extends IsName name where
  no_null : Char.ofNat 0 ∉ name.toList
  short : name.utf8ByteSize ≤ Tree.nameLimit

/-! ## Trees -/

namespace Tree

variable {t t' : Tree} {a b l m : Location} {name first second : String} {n : Nat} {e : Entry}

/-- whatever has a name in the tree has one that a system takes, and stands in a directory -/
def Rooted (t : Tree) : Prop :=
  ∀ name l, t.node? (name :: l) ≠ none → t.node? l = some .directory ∧ IsFileName name

theorem Rooted.names (ht : t.Rooted) (h : t.node? l ≠ none) : ∀ name ∈ l, IsFileName name := by
  induction l with
  | nil => exact List.forall_mem_nil _
  | cons name l ih =>
    obtain ⟨hl, hname⟩ := ht name l h
    exact List.forall_mem_cons.2 ⟨hname, ih (by simp [hl])⟩

/-- the names of a directory lead to it -/
theorem Rooted.grounded (ht : t.Rooted) (h : t.node? l = some .directory) : t.Grounded l := by
  induction l with
  | nil => exact grounded_root t
  | cons name l ih =>
    obtain ⟨hl, hname⟩ := ht name l (by simp [h])
    refine (ih hl).cons ?_
    rw [follow_cons_directory hl, if_neg (Nat.not_lt.2 hname.short), Location.after, if_neg hname.not_up]
    rfl

theorem Rooted.tail (ht : t.Rooted) (h : t.node? l = some .directory) : t.node? l.tail = some .directory := by
  cases l with
  | nil => exact h
  | cons name l => exact (ht name l (by simp [h])).1

/-- nothing stands below a free place -/
theorem Rooted.free_below (ht : t.Rooted) (free : t.node? b = none) (below : Location) :
    t.node? (below ++ b) = none := by
  induction below with
  | nil => exact free
  | cons name below ih =>
    by_contra hthere
    obtain ⟨hdirectory, -⟩ := ht name (below ++ b) hthere
    rw [ih] at hdirectory
    cases hdirectory

theorem Rooted.put (ht : t.Rooted) (hl : t.node? l = some .directory) (hname : IsFileName name)
    (free : t.node? (name :: l) = none) (hothers : ∀ m ≠ name :: l, t'.node? m = t.node? m) : t'.Rooted := by
  have hstill {m : Location} (hm : t.node? m = some .directory) : t'.node? m = some .directory := by
    rw [hothers m (by rintro rfl; simp [free] at hm), hm]
  intro other m hm
  by_cases hsame : other :: m = name :: l
  · obtain ⟨rfl, rfl⟩ := List.cons.inj hsame
    exact ⟨hstill hl, hname⟩
  · rw [hothers _ hsame] at hm
    obtain ⟨hm, hother⟩ := ht other m hm
    exact ⟨hstill hm, hother⟩

theorem Rooted.erase (ht : t.Rooted) (h : t.node? l = some (.file n)) : (t.erase l).Rooted := by
  have hl : l ≠ [] := by
    rintro rfl
    cases h
  intro name m hm
  rw [node?_erase hl] at hm ⊢
  split_ifs at hm with hsame
  · exact absurd rfl hm
  · obtain ⟨hdirectory, hname⟩ := ht name m hm
    have hne : m ≠ l := by
      rintro rfl
      rw [h] at hdirectory
      cases hdirectory
    exact ⟨by rw [if_neg hne, hdirectory], hname⟩

/-! ### Names that move -/

theorem moved_append (a b below : Location) : moved a b (below ++ a) = below ++ b := by simp [moved]

theorem moved_of_not_suffix (h : ¬ a <:+ l) : moved a b l = l := if_neg (by simpa using h)

/-- what is not where it could be lost moves apart -/
theorem moved_injective (hl : ¬ b <:+ l) (hm : ¬ b <:+ m) (h : moved a b l = moved a b m) : l = m := by
  by_cases hal : a <:+ l
  · obtain ⟨x, rfl⟩ := hal
    by_cases ham : a <:+ m
    · obtain ⟨y, rfl⟩ := ham
      rw [moved_append, moved_append] at h
      rw [List.append_cancel_right h]
    · rw [moved_append, moved_of_not_suffix ham] at h
      exact absurd ⟨x, h⟩ hm
  · by_cases ham : a <:+ m
    · obtain ⟨y, rfl⟩ := ham
      rw [moved_append, moved_of_not_suffix hal] at h
      exact absurd ⟨y, h.symm⟩ hl
    · rwa [moved_of_not_suffix hal, moved_of_not_suffix ham] at h

theorem lookup_map_of_injective {f : Location → Location} (es : List (Location × Entry))
    (h : ∀ entry ∈ es, f entry.1 = f l → entry.1 = l) :
    (es.map fun (l, e) => (f l, e)).lookup (f l) = es.lookup l := by
  induction es with
  | nil => rfl
  | cons entry es ih =>
    obtain ⟨k, e⟩ := entry
    have hrest := ih fun entry hentry => h entry (List.mem_cons_of_mem _ hentry)
    by_cases hk : k = l
    · subst hk
      simp
    · have hmoved : (f l == f k) = false := beq_false_of_ne fun hsame => hk (h _ List.mem_cons_self hsame.symm)
      rw [List.map_cons, List.lookup_cons, List.lookup_cons, hmoved, beq_false_of_ne (Ne.symm hk), hrest]

theorem node?_of_mem (h : (l, e) ∈ t.entries) : t.node? l ≠ none := by
  unfold node?
  split_ifs
  · exact Option.some_ne_none _
  · intro hnone
    exact absurd (List.lookup_eq_none_iff.1 hnone _ h) (by simp)

theorem entries_move (hab : a ≠ b) :
    (t.move a b).entries = (t.erase b).entries.map fun (l, e) => (moved a b l, e) := by
  rw [move, if_neg hab]

/-- what stands in the tree is found where it has moved to, if that place was free -/
theorem Rooted.node?_moved (ht : t.Rooted) (ha : a ≠ []) (hab : a ≠ b) (free : t.node? b = none)
    (hl : t.node? l = some e) : (t.move a b).node? (moved a b l) = some e := by
  have hb : b ≠ [] := ne_root_of_free free
  have hnot {m : Location} (hm : t.node? m ≠ none) : ¬ b <:+ m := by
    rintro ⟨below, rfl⟩
    exact hm (ht.free_below free below)
  by_cases hroot : l = []
  · subst hroot
    rw [moved_of_not_suffix (by simpa using ha)]
    exact hl
  · have hplace : moved a b l ≠ [] := by
      by_cases hal : a <:+ l
      · obtain ⟨below, rfl⟩ := hal
        rw [moved_append]
        simp [hb]
      · rwa [moved_of_not_suffix hal]
    have hlb : l ≠ b := by
      rintro rfl
      rw [free] at hl
      cases hl
    have hkept : (t.erase b).node? l = some e := by rw [node?_erase_of_ne t hlb, hl]
    unfold node? at hkept ⊢
    rw [if_neg hroot] at hkept
    rw [if_neg hplace, entries_move hab, ← hkept]
    refine lookup_map_of_injective _ fun entry hentry hsame => ?_
    have hentry : t.node? entry.1 ≠ none := node?_of_mem (List.mem_filter.1 hentry).1
    exact moved_injective (hnot hentry) (hnot (by simp [hl])) hsame

/-- what is found where names have moved stood somewhere in the tree -/
theorem exists_of_node?_move (hab : a ≠ b) (hm : m ≠ []) (h : (t.move a b).node? m ≠ none) :
    ∃ l, t.node? l ≠ none ∧ moved a b l = m := by
  unfold node? at h
  rw [if_neg hm, entries_move hab] at h
  obtain ⟨e, he⟩ := Option.ne_none_iff_exists'.1 h
  obtain ⟨before, after, hentries, -⟩ := List.lookup_eq_some_iff.1 he
  have hin : (m, e) ∈ (t.erase b).entries.map fun (l, e) => (moved a b l, e) := by
    rw [hentries]
    simp
  obtain ⟨⟨l, e'⟩, hentry, hmoved⟩ := List.mem_map.1 hin
  exact ⟨l, node?_of_mem (List.mem_filter.1 hentry).1, congrArg Prod.fst hmoved⟩

/-- a name that changes in its directory -/
theorem Rooted.move (ht : t.Rooted) (hthere : t.node? (first :: l) ≠ none) (hne : first ≠ second)
    (hsecond : IsFileName second) (free : t.node? (second :: l) = none) :
    (t.move (first :: l) (second :: l)).Rooted := by
  have hab : first :: l ≠ second :: l := fun hsame => hne (List.cons.inj hsame).1
  have hplace {m : Location} {e : Entry} (hm : t.node? m = some e) :=
    ht.node?_moved (List.cons_ne_nil first l) hab free hm
  intro name m hm
  obtain ⟨k, hk, hmoved⟩ := exists_of_node?_move hab (List.cons_ne_nil _ _) hm
  rcases k with _ | ⟨other, k⟩
  · rw [moved_of_not_suffix (by simp)] at hmoved
    cases hmoved
  · obtain ⟨hdirectory, hother⟩ := ht other k hk
    by_cases hbelow : first :: l <:+ other :: k
    · obtain ⟨_ | ⟨top, below⟩, hsplit⟩ := hbelow
      · -- what has moved itself
        rw [← hsplit, moved_append] at hmoved
        obtain ⟨rfl, rfl⟩ := List.cons.inj hmoved
        have hshort : ¬ first :: l <:+ l := fun hsuffix => by simpa using hsuffix.length_le
        have hstill := hplace (ht first l hthere).1
        rw [moved_of_not_suffix hshort] at hstill
        exact ⟨hstill, hsecond⟩
      · -- something below it
        rw [← hsplit, moved_append] at hmoved
        obtain ⟨htop, hk⟩ : top = other ∧ below ++ first :: l = k := List.cons.inj hsplit
        obtain ⟨rfl, hnow⟩ : top = name ∧ below ++ second :: l = m := List.cons.inj hmoved
        have hstill := hplace hdirectory
        rw [← hk, moved_append, hnow] at hstill
        exact ⟨hstill, htop ▸ hother⟩
    · rw [moved_of_not_suffix hbelow] at hmoved
      obtain ⟨rfl, rfl⟩ := List.cons.inj hmoved
      have hstill := hplace hdirectory
      rw [moved_of_not_suffix fun hsuffix => hbelow (hsuffix.trans (List.suffix_cons _ _))] at hstill
      exact ⟨hstill, hother⟩

end Tree

namespace Surroundings

open LinePrompt.Log (present present_eq)

variable {s s' : Surroundings} {p q f g : Path} {l : Location} {n : Nat} {above : List String}
  {first second : String}

/-! ## The directory that is worked in -/

/-- the tree has no gaps, and the directory that is worked in is one -/
structure Based (s : Surroundings) : Prop where
  rooted : s.tree.Rooted
  directory : s.tree.node? s.cwd = some .directory

theorem Based.start (hs : s.Based) (p : Path) : s.tree.node? (s.start p) = some .directory := by
  unfold Surroundings.start
  split_ifs
  · exact hs.directory
  · rfl

theorem mem_intercalate_of_mem {sep piece : List Char} {pieces : List (List Char)} {ch : Char}
    (hpiece : piece ∈ pieces) (hch : ch ∈ piece) : ch ∈ sep.intercalate pieces := by
  induction pieces with
  | nil => cases hpiece
  | cons first rest ih =>
    rcases rest with _ | ⟨second, more⟩
    · obtain rfl := List.mem_singleton.1 hpiece
      rwa [List.intercalate_singleton]
    · rw [List.intercalate_cons_cons]
      rcases List.mem_cons.1 hpiece with rfl | hpiece
      · exact List.mem_append_left _ (List.mem_append_left _ hch)
      · exact List.mem_append_right _ (ih hpiece)

/-- a path that leads to nothing has its last name from a directory -/
theorem Based.free_goal (hs : s.Based) (hsteps : ∀ part ∈ p.parts, IsStep part) (hl : s.locate p = .ok l)
    (free : s.tree.node? l = none) :
    ∃ name above, l = name :: above ∧ s.tree.node? above = some .directory ∧ IsFileName name := by
  obtain ⟨husable, hpassed, rfl⟩ := locate_eq_ok.1 hl
  rcases List.eq_nil_or_concat p.parts with hnil | ⟨front, last, hparts⟩
  · have hstart : s.goal p = s.start p := by
      rw [goal, hnil]
      rfl
    rw [hstart, hs.start p] at free
    cases free
  · rw [List.concat_eq_append] at hparts
    rw [hparts, Location.passed_concat] at hpassed
    have habove := hpassed _ (Location.collapse_mem_way _ _)
    have hgoal : s.goal p = Location.after (Path.collapse (s.start p) front) last := by
      rw [goal, hparts, Location.collapse_append]
      rfl
    rw [hgoal] at free ⊢
    unfold Location.after at free ⊢
    have hlast : last ∈ p.parts := by simp [hparts]
    split_ifs at free ⊢ with hup
    · rw [hs.rooted.tail habove] at free
      cases free
    · refine ⟨last, _, rfl, habove, ⟨⟨hsteps last hlast, hup⟩, fun hnull => husable (.nullByte ?_), ?_⟩⟩
      · rw [Path.toList_text (by simp [hparts]), hparts]
        refine mem_intercalate_of_mem (List.mem_append_right _ (List.mem_map_of_mem ?_)) hnull
        exact List.mem_append_right _ (List.mem_singleton.2 rfl)
      · exact Nat.le_of_not_lt fun hlong => husable (.name hlast hlong)

/-- something new at a path that led to nothing -/
theorem Based.put {t : Tree} (hs : s.Based) (hsteps : ∀ part ∈ p.parts, IsStep part) (hl : s.locate p = .ok l)
    (free : s.tree.node? l = none) (hothers : ∀ m ≠ l, t.node? m = s.tree.node? m) :
    ({ s with tree := t } : Surroundings).Based := by
  obtain ⟨name, above, rfl, habove, hname⟩ := hs.free_goal hsteps hl free
  exact ⟨hs.rooted.put habove hname free hothers, Tree.keeps_of_free free hothers _ _ hs.directory⟩

theorem Based.makeDirectory (hs : s.Based) (hsteps : ∀ part ∈ p.parts, IsStep part)
    (h : s.makeDirectory p = .ok s') : s'.Based := by
  obtain ⟨l, hl, free, rfl⟩ := makeDirectory_ok h
  exact hs.put hsteps hl free fun _ => Tree.node?_putDirectory_of_ne s.tree

theorem Based.makeDirectoriesUpTo (hs : s.Based) (hsteps : ∀ part ∈ p.parts, IsStep part) (bound : Nat) :
    (makeDirectoriesUpTo bound p s).2.Based := by
  induction bound generalizing p with
  | zero => exact hs
  | succ bound ih =>
    have hup := ih (p := p.parent) fun part hpart => hsteps part (List.dropLast_subset _ hpart)
    unfold Surroundings.makeDirectoriesUpTo
    split
    · rename_i made hmade
      exact hs.makeDirectory hsteps hmade
    · split_ifs
      · exact hs
      · rcases hr : Surroundings.makeDirectoriesUpTo bound p.parent s with ⟨f | made, above⟩
        · rw [hr] at hup
          exact hup
        · rw [hr] at hup
          rcases hm : above.makeDirectory p with c | made
          · simp only [hm]
            exact hup
          · simp only [hm]
            exact Based.makeDirectory hup hsteps hm
    · exact hs

theorem Based.makeDirectories (hs : s.Based) (hsteps : ∀ part ∈ p.parts, IsStep part) :
    (s.makeDirectories p).2.Based := by
  have hup := hs.makeDirectoriesUpTo hsteps (p.parts.length + 1)
  obtain ⟨-, hsame⟩ := furnished_makeDirectoriesUpTo (p.parts.length + 1) p s
  unfold Surroundings.makeDirectories
  rcases hr : Surroundings.makeDirectoriesUpTo (p.parts.length + 1) p s with ⟨f | made, above⟩
  · rw [hr] at hup
    exact hup
  · rw [hr] at hup hsame
    rw [hsame made rfl]
    exact hup

theorem Based.append (hs : s.Based) (n : Nat) (bytes : ByteArray) : (s.append n bytes).Based :=
  ⟨hs.rooted, hs.directory⟩

theorem Based.openToAdd (hs : s.Based) (hsteps : ∀ part ∈ p.parts, IsStep part) (h : s.openToAdd p = .ok (n, s')) :
    s'.Based := by
  obtain ⟨l, hl, ⟨-, rfl⟩ | ⟨free, -, rfl⟩⟩ := openToAdd_ok h
  · exact hs
  · exact hs.put hsteps hl free fun _ => Tree.node?_putFile_of_ne s.tree

theorem Based.openToWrite (hs : s.Based) (hsteps : ∀ part ∈ p.parts, IsStep part)
    (h : s.openToWrite p = .ok (n, s')) : s'.Based := by
  obtain ⟨opened, hopened, rfl⟩ := openToWrite_ok h
  have hbased := hs.openToAdd hsteps hopened
  exact ⟨hbased.rooted, hbased.directory⟩

theorem Based.remove (hs : s.Based) (h : s.remove p = .ok s') : s'.Based := by
  obtain ⟨l, n, hfound, rfl⟩ := remove_ok h
  have hfile := (find_eq_ok.1 hfound).2
  refine ⟨hs.rooted.erase hfile, ?_⟩
  have hne : s.cwd ≠ l := by
    rintro rfl
    rw [hs.directory] at hfile
    cases hfile
  exact (Tree.node?_erase_of_ne s.tree hne).trans hs.directory

theorem Based.enter (hs : s.Based) (h : s.enter p = .ok s') : s'.Based := by
  obtain ⟨l, hfound, rfl⟩ := enter_ok h
  exact ⟨hs.rooted, (find_eq_ok.1 hfound).2⟩

/-- a file or directory that gets another name where it stands, and takes along the directory that is worked in -/
theorem Based.rename (hs : s.Based) (hf : f.Beside above first) (hg : g.Beside above second) (hne : first ≠ second)
    (hfree : present s g = false) (h : s.rename f g = .ok s') : s'.Based := by
  obtain ⟨l, m, e, hfound, hlocated, rfl⟩ := rename_ok h
  obtain ⟨hlf, hthere⟩ := find_eq_ok.1 hfound
  have hfree : s.tree.node? m = none := by
    rw [present_eq hlocated] at hfree
    simpa using hfree
  obtain ⟨name, top, hm, -, hname⟩ :=
    hs.free_goal (fun part hpart => (hg.names part hpart).toIsStep) hlocated hfree
  obtain rfl : l = first :: above.reverse := (locate_eq_ok.1 hlf).2.2.trans (goal_beside hf)
  obtain rfl : m = second :: above.reverse := (locate_eq_ok.1 hlocated).2.2.trans (goal_beside hg)
  obtain ⟨rfl, rfl⟩ := List.cons.inj hm
  have hab : first :: above.reverse ≠ second :: above.reverse := fun hsame => hne (List.cons.inj hsame).1
  exact ⟨hs.rooted.move (by simp [hthere]) hne hname hfree,
    hs.rooted.node?_moved (List.cons_ne_nil _ _) hab hfree hs.directory⟩

end Surroundings

end LinePrompt.Files
