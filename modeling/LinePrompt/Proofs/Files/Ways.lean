/-
What stands on the way of a path, and what it makes of the path.

Every step of a path is taken from a place that has to be a directory; these places and the one that the steps lead to
are the way of the path. A path leads somewhere exactly if all places that it passes are directories
(`locate_eq_ok`); else there is a gap on its way, or a file, or the system could not take such a path at all
(`astray_of_locate`, `Path.Unusable`).

If the names of the working directory lead to it (`Tree.Grounded`), a path in full leads where the path itself does
(`goal_absolute`, `locate_absolute`).
-/
import LinePrompt.Proofs.Files.Writing

namespace LinePrompt.Files

/-! ## Places on a way -/

namespace Location

variable {l : Location} {steps front : List String} {step : String}

/-- the place that one step leads to -/
def after (l : Location) (step : String) : Location := if step = up then l.tail else step :: l

/-- the places that steps are taken from -/
def passed : Location → List String → List Location
  | _, [] => []
  | l, step :: rest => l :: passed (after l step) rest

/-- the places that steps are taken from, and the one that they lead to -/
def way (l : Location) (steps : List String) : List Location := passed l steps ++ [Path.collapse l steps]

theorem collapse_cons (l : Location) (step : String) (steps : List String) :
    Path.collapse l (step :: steps) = Path.collapse (after l step) steps := rfl

theorem collapse_append (l : Location) (front steps : List String) :
    Path.collapse l (front ++ steps) = Path.collapse (Path.collapse l front) steps := by
  unfold Path.collapse
  rw [List.foldl_append]

/-- the last step is taken from the place that the steps in front of it lead to -/
theorem passed_concat (l : Location) (front : List String) (step : String) :
    passed l (front ++ [step]) = way l front := by
  induction front generalizing l with
  | nil => rfl
  | cons first rest ih =>
    have hrest := ih (after l first)
    simp only [way, List.cons_append, passed, collapse_cons] at hrest ⊢
    rw [hrest]

theorem mem_way_of_passed {m : Location} (h : m ∈ passed l steps) : m ∈ way l steps := List.mem_append_left _ h

theorem collapse_mem_way (l : Location) (steps : List String) : Path.collapse l steps ∈ way l steps :=
  List.mem_append_right _ (List.mem_singleton.2 rfl)

theorem length_collapse_le (l : Location) (steps : List String) :
    (Path.collapse l steps).length ≤ l.length + steps.length := by
  induction steps generalizing l with
  | nil => exact Nat.le_refl _
  | cons step rest ih =>
    have hrest := ih (after l step)
    have hafter : (after l step).length ≤ l.length + 1 := by
      unfold after
      split_ifs
      · simp only [List.length_tail]
        omega
      · simp only [List.length_cons, Nat.le_refl]
    rw [collapse_cons, List.length_cons]
    omega

end Location

namespace Tree

open Location

variable {t t' : Tree} {l m goal : Location} {steps : List String} {c : Cause}

/-! ## Steps through a tree -/

theorem follow_append (t : Tree) (l : Location) (front steps : List String) :
    t.follow l (front ++ steps) = (t.follow l front).bind (t.follow · steps) := by
  induction front generalizing l with
  | nil => rfl
  | cons step rest ih =>
    simp only [List.cons_append, follow]
    rcases t.node? l with _ | (_ | n)
    · rfl
    · dsimp only
      split_ifs
      · exact ih _
      · rfl
      · exact ih _
    · rfl

/-- from a directory a step leads to the place behind it, unless its name is too long -/
theorem follow_cons_directory (h : t.node? l = some .directory) (step : String) (steps : List String) :
    t.follow l (step :: steps) =
      if nameLimit < step.utf8ByteSize then .error .nameTooLong else t.follow (after l step) steps := by
  have hup : ¬ nameLimit < up.utf8ByteSize := by decide
  by_cases hstep : step = up
  · subst hstep
    simp only [follow, h, after, if_true, if_neg hup]
  · simp only [follow, h, after, if_neg hstep]

/-- Steps lead somewhere if all places they pass are directories and no name is too long. -/
theorem follow_eq_ok :
    t.follow l steps = .ok goal ↔ (∀ m ∈ passed l steps, t.node? m = some .directory) ∧
      (∀ step ∈ steps, step.utf8ByteSize ≤ nameLimit) ∧ goal = Path.collapse l steps := by
  induction steps generalizing l with
  | nil =>
    rw [follow_nil]
    constructor
    · intro h
      exact ⟨List.forall_mem_nil _, List.forall_mem_nil _, (Except.ok.inj h).symm⟩
    · rintro ⟨-, -, rfl⟩
      rfl
  | cons step rest ih =>
    rw [collapse_cons]
    simp only [passed, List.forall_mem_cons]
    constructor
    · intro h
      have hl : t.node? l = some .directory := by
        rcases hn : t.node? l with _ | (_ | n)
        · simp [follow, hn] at h
        · rfl
        · simp [follow, hn] at h
      rw [follow_cons_directory hl] at h
      split_ifs at h with hlong
      obtain ⟨hpassed, hnames, hgoal⟩ := ih.1 h
      exact ⟨⟨hl, hpassed⟩, ⟨Nat.le_of_not_lt hlong, hnames⟩, hgoal⟩
    · rintro ⟨⟨hl, hpassed⟩, ⟨hname, hnames⟩, hgoal⟩
      rw [follow_cons_directory hl, if_neg (Nat.not_lt.2 hname)]
      exact ih.2 ⟨hpassed, hnames, hgoal⟩

/-- why steps lead nowhere -/
inductive Stuck (t : Tree) (l : Location) (steps : List String) : Cause → Prop where
  | gap {m : Location} (passes : m ∈ passed l steps) (free : t.node? m = none) : Stuck t l steps .missing
  | file {m : Location} {n : Nat} (passes : m ∈ passed l steps) (stands : t.node? m = some (.file n)) :
    Stuck t l steps .notDirectory
  | name {step : String} (steps_to : step ∈ steps) (long : nameLimit < step.utf8ByteSize) :
    Stuck t l steps .nameTooLong

theorem Stuck.cons {step : String} (h : Stuck t (after l step) steps c) : Stuck t l (step :: steps) c := by
  cases h with
  | gap passes free => exact .gap (List.mem_cons_of_mem _ passes) free
  | file passes stands => exact .file (List.mem_cons_of_mem _ passes) stands
  | name steps_to long => exact .name (List.mem_cons_of_mem _ steps_to) long

theorem stuck_of_follow (h : t.follow l steps = .error c) : Stuck t l steps c := by
  induction steps generalizing l with
  | nil => cases h
  | cons step rest ih =>
    rcases hn : t.node? l with _ | (_ | n)
    · simp only [follow, hn, Except.error.injEq] at h
      subst h
      exact .gap (List.mem_cons_self ..) hn
    · rw [follow_cons_directory hn] at h
      split_ifs at h with hlong
      · obtain rfl := Except.error.inj h
        exact .name (List.mem_cons_self ..) hlong
      · exact (ih h).cons
    · simp only [follow, hn, Except.error.injEq] at h
      subst h
      exact .file (List.mem_cons_self ..) hn

/-- a name that is too long is met where the steps in front of it lead from one directory to the next -/
theorem follow_eq_nameTooLong :
    t.follow l steps = .error .nameTooLong ↔ ∃ front step rest, steps = front ++ step :: rest ∧
      nameLimit < step.utf8ByteSize ∧ ∀ m ∈ way l front, t.node? m = some .directory := by
  induction steps generalizing l with
  | nil => simp [follow_nil]
  | cons first more ih =>
    constructor
    · intro h
      rcases hn : t.node? l with _ | (_ | n)
      · simp [follow, hn] at h
      · rw [follow_cons_directory hn] at h
        split_ifs at h with hlong
        · exact ⟨[], first, more, rfl, hlong, List.forall_mem_singleton.2 hn⟩
        · obtain ⟨front, step, rest, rfl, hstep, hway⟩ := ih.1 h
          exact ⟨first :: front, step, rest, rfl, hstep, List.forall_mem_cons.2 ⟨hn, hway⟩⟩
      · simp [follow, hn] at h
    · rintro ⟨front, step, rest, hparts, hstep, hway⟩
      rcases front with _ | ⟨name, front⟩
      · obtain ⟨rfl, rfl⟩ := List.cons.inj hparts
        rw [follow_cons_directory (hway l (List.mem_singleton.2 rfl)), if_pos hstep]
      · obtain ⟨rfl, hmore⟩ := List.cons.inj hparts
        obtain ⟨hl, hrest⟩ := List.forall_mem_cons.1 hway
        rw [follow_cons_directory hl]
        split_ifs
        · rfl
        · exact ih.2 ⟨front, step, rest, hmore, hstep, hrest⟩

/-- where steps lead depends on nothing but the places they pass -/
theorem follow_congr (h : ∀ m ∈ passed l steps, t'.node? m = t.node? m) : t'.follow l steps = t.follow l steps := by
  induction steps generalizing l with
  | nil => rfl
  | cons step rest ih =>
    simp only [passed, List.forall_mem_cons] at h
    obtain ⟨hl, hrest⟩ := h
    rcases hn : t.node? l with _ | (_ | n)
    · simp only [follow, hl, hn]
    · rw [follow_cons_directory hn, follow_cons_directory (hl.trans hn), ih hrest]
    · simp only [follow, hl, hn]

/-- steps that come to something else than a gap come to the same in a fuller tree -/
theorem follow_error_of_keeps (hk : t.Keeps t') (h : t.follow l steps = .error c) (hc : c ≠ .missing) :
    t'.follow l steps = .error c := by
  induction steps generalizing l with
  | nil => cases h
  | cons step rest ih =>
    rcases hn : t.node? l with _ | (_ | n)
    · simp only [follow, hn, Except.error.injEq] at h
      exact absurd h.symm hc
    · rw [follow_cons_directory (hk _ _ hn)]
      rw [follow_cons_directory hn] at h
      split_ifs at h ⊢
      · exact h
      · exact ih h
    · simpa only [follow, hk _ _ hn, hn] using h

/-! ## Places that stand where their names lead -/

/-- the names of the place lead to it, from the root on -/
def Grounded (t : Tree) (l : Location) : Prop := t.follow [] l.reverse = .ok l

theorem grounded_root (t : Tree) : t.Grounded [] := rfl

theorem Grounded.of_keeps (h : t.Grounded l) (hk : t.Keeps t') : t'.Grounded l := follow_of_keeps hk _ _ h

theorem Grounded.collapse_eq (h : t.Grounded l) : Path.collapse [] l.reverse = l := (follow_eq_ok.1 h).2.2.symm

/-- a name in a directory that stands where its names lead does so too -/
theorem Grounded.cons {step : String} (h : t.Grounded l) (hstep : t.follow l [step] = .ok (step :: l)) :
    t.Grounded (step :: l) := by
  unfold Grounded
  rw [List.reverse_cons, follow_append, h]
  exact hstep

/-- above a place that stands where its names lead there is a directory that does so too -/
theorem Grounded.above {step : String} (h : t.Grounded (step :: l)) :
    t.Grounded l ∧ t.node? l = some .directory := by
  unfold Grounded at h
  rw [List.reverse_cons, follow_append] at h
  rcases hf : t.follow [] l.reverse with c | m
  · rw [hf] at h
    cases h
  · rw [hf] at h
    obtain ⟨hpassed, -, hgoal⟩ := follow_eq_ok.1 (show t.follow m [step] = .ok (step :: l) from h)
    have hm : m = Path.collapse [] l.reverse := (follow_eq_ok.1 hf).2.2
    have hlength : m.length ≤ l.length := by
      have hle := length_collapse_le [] l.reverse
      rwa [← hm, List.length_nil, List.length_reverse, Nat.zero_add] at hle
    have hgoal : step :: l = after m step := hgoal
    unfold after at hgoal
    split_ifs at hgoal with hup
    · -- a step up leads to a shorter place than the names in front of it
      have hshort : (step :: l).length = m.tail.length := by rw [hgoal]
      simp only [List.length_cons, List.length_tail] at hshort
      omega
    · obtain rfl : l = m := (List.cons.inj hgoal).2
      exact ⟨hf, hpassed _ (List.mem_singleton.2 rfl)⟩

theorem Grounded.tail (h : t.Grounded l) : t.Grounded l.tail := by
  cases l with
  | nil => exact h
  | cons step rest => exact h.above.1

/-- steps from a place that stands where its names lead end at such a place -/
theorem Grounded.follow (h : t.Grounded l) (hf : t.follow l steps = .ok goal) : t.Grounded goal := by
  induction steps generalizing l with
  | nil =>
    obtain rfl := Except.ok.inj hf
    exact h
  | cons step rest ih =>
    have hsplit : t.follow l (step :: rest) = (t.follow l [step]).bind (t.follow · rest) :=
      follow_append t l [step] rest
    rw [hsplit] at hf
    rcases hone : t.follow l [step] with c | m
    · rw [hone] at hf
      cases hf
    · rw [hone] at hf
      have hm : m = after l step := (follow_eq_ok.1 hone).2.2
      refine ih ?_ hf
      unfold after at hm
      split_ifs at hm with hup
      · rw [hm]
        exact h.tail
      · subst hm
        exact h.cons hone

end Tree

/-! ## Paths that can not be followed -/

/-- The system takes no such path: it holds the character of code zero, or it or one of its names is too long. -/
inductive Path.Unusable (p : Path) : Prop where
  | nullByte (holds : Char.ofNat 0 ∈ p.text.toList)
  | long (long : Surroundings.pathLimit < p.text.utf8ByteSize)
  | name {step : String} (part : step ∈ p.parts) (long : Tree.nameLimit < step.utf8ByteSize)

theorem intercalate_concat (s : String) (front : List String) (last : String) :
    ∃ rest, s.intercalate (front ++ [last]) = s.intercalate front ++ rest := by
  induction front with
  | nil => exact ⟨last, by simp [String.intercalate_singleton]⟩
  | cons first more ih =>
    cases more with
    | nil => exact ⟨s ++ last, by simp [String.intercalate_cons_cons, String.append_assoc]⟩
    | cons second more =>
      obtain ⟨rest, hrest⟩ := ih
      refine ⟨rest, ?_⟩
      rw [List.cons_append, List.cons_append, String.intercalate_cons_cons, String.intercalate_cons_cons,
        ← List.cons_append, hrest]
      simp only [String.append_assoc]

/-- the text of a path starts with that of the path above it, unless that one is the working directory -/
theorem Path.text_parent (p : Path) : p.parent.text = "." ∨ ∃ rest, p.text = p.parent.text ++ rest := by
  obtain ⟨origin, parts⟩ := p
  rcases List.eq_nil_or_concat parts with rfl | ⟨front, last, rfl⟩
  · exact Or.inr ⟨"", by simp [parent]⟩
  · by_cases hpoint : origin = .here ∧ front = []
    · obtain ⟨rfl, rfl⟩ := hpoint
      exact Or.inl rfl
    · obtain ⟨rest, hrest⟩ := intercalate_concat "/" front last
      refine Or.inr ⟨rest, ?_⟩
      have hwhole : ¬ (origin = .here ∧ front ++ [last] = []) := by simp
      simp only [text, parent, List.concat_eq_append, List.dropLast_concat, if_neg hpoint, if_neg hwhole, hrest,
        String.append_assoc]

/-- a path below one that is unusable is unusable too -/
theorem Path.Unusable.of_parent {p : Path} (h : p.parent.Unusable) : p.Unusable := by
  rcases p.text_parent with hpoint | ⟨rest, htext⟩
  · cases h with
    | nullByte holds =>
      rw [hpoint] at holds
      exact absurd holds (by decide)
    | long long =>
      rw [hpoint] at long
      exact absurd long (by decide)
    | name part long => exact .name (List.dropLast_subset _ part) long
  · cases h with
    | nullByte holds =>
      refine .nullByte ?_
      rw [htext, String.toList_append]
      exact List.mem_append_left _ holds
    | long long =>
      refine .long ?_
      rw [htext, String.utf8ByteSize_append]
      omega
    | name part long => exact .name (List.dropLast_subset _ part) long

namespace Surroundings

open Location

variable {s s' : Surroundings} {p : Path} {l : Location} {e : Entry} {c : Cause}

/-! ## Looking for what stands at a path -/

/-- where the steps of a path start -/
def start (s : Surroundings) (p : Path) : Location := if p.origin = .here then s.cwd else []

/-- where the steps of a path lead, there or not -/
def goal (s : Surroundings) (p : Path) : Location := Path.collapse (s.start p) p.parts

/-- the places on the way of a path -/
def way (s : Surroundings) (p : Path) : List Location := Location.way (s.start p) p.parts

theorem goal_mem_way (s : Surroundings) (p : Path) : s.goal p ∈ s.way p := collapse_mem_way _ _

theorem start_of_cwd (h : s'.cwd = s.cwd) (p : Path) : s'.start p = s.start p := by
  unfold start
  rw [h]

theorem goal_of_cwd (h : s'.cwd = s.cwd) (p : Path) : s'.goal p = s.goal p := by
  unfold goal start
  rw [h]

theorem way_of_cwd (h : s'.cwd = s.cwd) (p : Path) : s'.way p = s.way p := by
  unfold way start
  rw [h]

/-- A path leads somewhere if it is usable and all places it passes are directories. -/
theorem locate_eq_ok :
    s.locate p = .ok l ↔ ¬ p.Unusable ∧ (∀ m ∈ passed (s.start p) p.parts, s.tree.node? m = some .directory) ∧
      l = s.goal p := by
  unfold locate
  simp only [List.contains_iff_mem]
  constructor
  · intro h
    split_ifs at h with hnull hlong hhere <;>
    · obtain ⟨hpassed, hnames, hgoal⟩ := Tree.follow_eq_ok.1 h
      simp only [goal, start, hhere, if_true, if_false]
      refine ⟨?_, hpassed, hgoal⟩
      intro hunusable
      cases hunusable with
      | nullByte holds => exact hnull holds
      | long long => exact hlong long
      | name part long => exact absurd (hnames _ part) (Nat.not_le.2 long)
  · rintro ⟨husable, hpassed, hgoal⟩
    rw [if_neg fun holds => husable (.nullByte holds), if_neg fun long => husable (.long long)]
    refine Tree.follow_eq_ok.2 ⟨hpassed, ?_, hgoal⟩
    intro step hstep
    exact Nat.le_of_not_lt fun long => husable (.name hstep long)

/-- why a path leads nowhere -/
inductive Astray (s : Surroundings) (p : Path) : Cause → Prop where
  | gap {m : Location} (passes : m ∈ passed (s.start p) p.parts) (free : s.tree.node? m = none) : Astray s p .missing
  | file {m : Location} {n : Nat} (passes : m ∈ passed (s.start p) p.parts)
    (stands : s.tree.node? m = some (.file n)) : Astray s p .notDirectory
  | unusable {c : Cause} (unusable : p.Unusable) (known : c ≠ .missing) : Astray s p c

theorem astray_of_locate (h : s.locate p = .error c) : Astray s p c := by
  unfold locate at h
  simp only [List.contains_iff_mem] at h
  split_ifs at h with hnull hlong hhere
  · obtain rfl := Except.error.inj h
    exact .unusable (.nullByte hnull) (by decide)
  · obtain rfl := Except.error.inj h
    exact .unusable (.long hlong) (by decide)
  all_goals
    have hstart : Tree.Stuck s.tree (s.start p) p.parts c := by
      simpa only [start, hhere, if_true, if_false] using Tree.stuck_of_follow h
    cases hstart with
    | gap passes free => exact .gap passes free
    | file passes stands => exact .file passes stands
    | name part long => exact .unusable (.name part long) (by decide)

theorem find_eq_ok : s.find p = .ok (l, e) ↔ s.locate p = .ok l ∧ s.tree.node? l = some e := by
  unfold find
  rcases hl : s.locate p with c | l'
  · simp [bind, Except.bind]
  · rcases hn : s.tree.node? l' with _ | e'
    · simp only [bind, Except.bind, hn, throw, throwThe, MonadExceptOf.throw]
      constructor
      · intro h
        cases h
      · rintro ⟨hsame, he⟩
        obtain rfl := Except.ok.inj hsame
        rw [hn] at he
        cases he
    · simp only [bind, Except.bind, hn, pure, Except.pure, Except.ok.injEq, Prod.mk.injEq]
      constructor
      · rintro ⟨rfl, rfl⟩
        exact ⟨rfl, hn⟩
      · rintro ⟨rfl, he⟩
        exact ⟨rfl, Option.some.inj (hn.symm.trans he)⟩

/-- the search for what stands at a path ends at a name that is too long, or by the length of the path -/
theorem find_eq_nameTooLong :
    s.find p = .error .nameTooLong ↔ Char.ofNat 0 ∉ p.text.toList ∧
      (pathLimit < p.text.utf8ByteSize ∨ s.tree.follow (s.start p) p.parts = .error .nameTooLong) := by
  have hlocate : s.find p = .error .nameTooLong ↔ s.locate p = .error .nameTooLong := by
    unfold find
    rcases hl : s.locate p with c | l
    · simp [bind, Except.bind]
    · rcases hn : s.tree.node? l with _ | e <;>
        simp [bind, Except.bind, hn, throw, throwThe, MonadExceptOf.throw, pure, Except.pure]
  rw [hlocate]
  unfold locate start
  simp only [List.contains_iff_mem]
  split_ifs with hnull hlong <;> simp [*]

/-- everything on the way to a directory is one -/
theorem way_of_find (h : s.find p = .ok (l, .directory)) : ∀ m ∈ s.way p, s.tree.node? m = some .directory := by
  obtain ⟨hl, hn⟩ := find_eq_ok.1 h
  obtain ⟨-, hpassed, hgoal⟩ := locate_eq_ok.1 hl
  intro m hm
  rcases List.mem_append.1 hm with hm | hm
  · exact hpassed m hm
  · have hlast : m = s.goal p := List.mem_singleton.1 hm
    rw [hlast, ← hgoal]
    exact hn

theorem find_of_keeps (hcwd : s'.cwd = s.cwd) (hk : s.tree.Keeps s'.tree) (h : s.find p = .ok (l, e)) :
    s'.find p = .ok (l, e) := by
  obtain ⟨hl, hn⟩ := find_eq_ok.1 h
  exact find_eq_ok.2 ⟨locate_of_keeps hcwd hk hl, hk _ _ hn⟩

/-- what is found at a path depends on nothing but its way -/
theorem find_congr (hcwd : s'.cwd = s.cwd) (h : ∀ m ∈ s.way p, s'.tree.node? m = s.tree.node? m) :
    s'.find p = s.find p := by
  have hlocate : s'.locate p = s.locate p := by
    unfold locate
    rw [hcwd]
    have hfollow : s'.tree.follow (s.start p) p.parts = s.tree.follow (s.start p) p.parts :=
      Tree.follow_congr fun m hm => h m (mem_way_of_passed hm)
    unfold start at hfollow
    rw [hfollow]
  unfold find
  rw [hlocate]
  rcases hl : s.locate p with c | l
  · rfl
  · have hgoal : l = s.goal p := (locate_eq_ok.1 hl).2.2
    have hnode : s'.tree.node? l = s.tree.node? l := h l (hgoal ▸ s.goal_mem_way p)
    simp only [bind, Except.bind, hnode]

/-- only a gap can be filled: what else keeps a path from leading anywhere stays -/
theorem find_error_of_keeps (hcwd : s'.cwd = s.cwd) (hk : s.tree.Keeps s'.tree) (h : s.find p = .error c)
    (hc : c ≠ .missing) : s'.find p = .error c := by
  have hlocate : s.locate p = .error c := by
    unfold find at h
    rcases hl : s.locate p with c' | l
    · simp only [hl, bind, Except.bind, Except.error.injEq] at h
      rw [h]
    · rcases hn : s.tree.node? l with _ | e
      · simp only [hl, hn, bind, Except.bind, throw, throwThe, MonadExceptOf.throw, Except.error.injEq] at h
        exact absurd h.symm hc
      · simp [hl, hn, bind, Except.bind, pure, Except.pure] at h
  have hstill : s'.locate p = .error c := by
    unfold locate at hlocate ⊢
    rw [hcwd]
    split_ifs at hlocate ⊢
    · exact hlocate
    · exact hlocate
    · exact Tree.follow_error_of_keeps hk hlocate hc
    · exact Tree.follow_error_of_keeps hk hlocate hc
  unfold find
  rw [hstill]
  rfl

/-! ## Paths from the root -/

theorem start_absolute (s : Surroundings) (p : Path) (cwd : Location) : s.start (p.absolute cwd) = [] := by
  unfold start Path.absolute
  rcases p with ⟨_ | _ | _, parts⟩ <;> rfl

theorem parts_absolute (s : Surroundings) (p : Path) : (p.absolute s.cwd).parts = (s.goal p).reverse := by
  unfold goal start Path.absolute
  rcases p with ⟨_ | _ | _, parts⟩ <;> rfl

theorem grounded_start (h : s.tree.Grounded s.cwd) (p : Path) : s.tree.Grounded (s.start p) := by
  unfold start
  split_ifs
  · exact h
  · exact Tree.grounded_root _

theorem follow_of_locate (h : s.locate p = .ok l) : s.tree.follow (s.start p) p.parts = .ok l := by
  obtain ⟨husable, hpassed, hgoal⟩ := locate_eq_ok.1 h
  refine Tree.follow_eq_ok.2 ⟨hpassed, ?_, hgoal⟩
  intro step hstep
  exact Nat.le_of_not_lt fun long => husable (.name hstep long)

/-- From a directory that is there a path leads to a directory above it or to a name in it. -/
theorem goal_cases (hcwd : s.tree.Grounded s.cwd) (habove : s.find p.parent = .ok (l, .directory)) :
    s.tree.Grounded (s.goal p) ∧ s.tree.node? (s.goal p) = some .directory ∨
      ∃ last, s.goal p = last :: l ∧ last ≠ up ∧ s.tree.Grounded l := by
  obtain ⟨hl, hdirectory⟩ := find_eq_ok.1 habove
  have hgrounded : s.tree.Grounded l := (grounded_start hcwd p.parent).follow (follow_of_locate hl)
  have hl : l = s.goal p.parent := (locate_eq_ok.1 hl).2.2
  obtain ⟨origin, parts⟩ := p
  rcases List.eq_nil_or_concat parts with rfl | ⟨front, last, rfl⟩
  · left
    have hsame : s.goal ⟨origin, []⟩ = l := hl.symm
    rw [hsame]
    exact ⟨hgrounded, hdirectory⟩
  · have hgoal : s.goal ⟨origin, front.concat last⟩ = after l last := by
      have hparent : s.goal (⟨origin, front.concat last⟩ : Path).parent =
          Path.collapse (s.start ⟨origin, front⟩) front := by
        simp only [goal, Path.parent, List.concat_eq_append, List.dropLast_concat]
      rw [hl, hparent]
      simp only [goal, List.concat_eq_append, collapse_append]
      rfl
    rw [hgoal]
    unfold after
    split_ifs with hup
    · left
      refine ⟨hgrounded.tail, ?_⟩
      cases l with
      | nil => exact hdirectory
      | cons name rest => exact hgrounded.above.2
    · exact Or.inr ⟨last, rfl, hup, hgrounded⟩

/-- the path in full leads to the same place -/
theorem goal_absolute (hcwd : s.tree.Grounded s.cwd) (habove : s.find p.parent = .ok (l, .directory)) :
    s.goal (p.absolute s.cwd) = s.goal p := by
  have hfull : s.goal (p.absolute s.cwd) = Path.collapse [] (s.goal p).reverse := by
    unfold goal
    rw [start_absolute, parts_absolute]
    rfl
  rw [hfull]
  rcases goal_cases hcwd habove with ⟨hgrounded, -⟩ | ⟨last, hgoal, hlast, hgrounded⟩
  · exact hgrounded.collapse_eq
  · rw [hgoal, List.reverse_cons, collapse_append, hgrounded.collapse_eq]
    exact if_neg hlast

/-- In a directory that is there a path in full can be followed, unless it is unusable or leads to a directory. -/
theorem locate_absolute (hcwd : s.tree.Grounded s.cwd) (habove : s.find p.parent = .ok (l, .directory))
    (husable : ¬ (p.absolute s.cwd).Unusable) (hfree : s.tree.node? (s.goal p) ≠ some .directory) :
    s.locate (p.absolute s.cwd) = .ok (s.goal p) := by
  rw [← goal_absolute hcwd habove]
  refine locate_eq_ok.2 ⟨husable, ?_, rfl⟩
  rw [start_absolute, parts_absolute]
  rcases goal_cases hcwd habove with ⟨-, hdirectory⟩ | ⟨last, hgoal, -, hgrounded⟩
  · exact absurd hdirectory hfree
  · rw [hgoal, List.reverse_cons, passed_concat]
    obtain ⟨hpassed, -, hl⟩ := Tree.follow_eq_ok.1 hgrounded
    intro m hm
    rcases List.mem_append.1 hm with hm | hm
    · exact hpassed m hm
    · rw [List.mem_singleton.1 hm, ← hl]
      exact (find_eq_ok.1 habove).2

end Surroundings

end LinePrompt.Files
