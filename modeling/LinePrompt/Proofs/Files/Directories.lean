/-
Directories that are made on the way of a path.

One round makes a directory, or finds it there, or turns to the one above it first (`Round`). A directory that was made
is there (`find_makeDirectories`), and it can be made unless a file is in the way or the path is unusable, and only then
(`makeDirectories_fault`). Nothing is filled but gaps on the way (`FilledIn`).
-/
import LinePrompt.Proofs.Files.Ways

namespace LinePrompt.Files.Surroundings

open Location

variable {s s' made : Surroundings} {p : Path} {l : Location} {c : Cause} {f : Fault} {n : Nat}
  {on on' : List Location}

/-! ## Making directories -/

/-- the places that a path with a last step passes are those on the way of the path above -/
theorem passed_eq_way (s : Surroundings) (h : p.parts ≠ []) : passed (s.start p) p.parts = s.way p.parent := by
  obtain ⟨origin, parts⟩ := p
  rcases List.eq_nil_or_concat parts with rfl | ⟨front, last, rfl⟩
  · exact absurd rfl h
  · have hparent : (⟨origin, front.concat last⟩ : Path).parent = ⟨origin, front⟩ := by simp [Path.parent]
    rw [hparent, List.concat_eq_append]
    exact passed_concat _ front last

theorem mem_way_of_parent {m : Location} (h : m ∈ s.way p.parent) : m ∈ s.way p := by
  by_cases hparts : p.parts = []
  · have hparent : p.parent = p := by
      obtain ⟨origin, parts⟩ := p
      obtain rfl : parts = [] := hparts
      rfl
    rwa [hparent] at h
  · rw [← passed_eq_way s hparts] at h
    exact mem_way_of_passed h

theorem makeDirectory_error (h : s.makeDirectory p = .error c) :
    s.locate p = .error c ∨ c = .taken ∧ ∃ l e, s.find p = .ok (l, e) := by
  unfold makeDirectory at h
  rcases hl : s.locate p with c' | l
  · simp only [hl, bind, Except.bind, Except.error.injEq] at h
    exact Or.inl (congrArg Except.error h)
  · rcases hn : s.tree.node? l with _ | e
    · simp [hl, hn, bind, Except.bind, pure, Except.pure] at h
    · simp only [hl, hn, bind, Except.bind, throw, throwThe, MonadExceptOf.throw, Except.error.injEq] at h
      exact Or.inr ⟨h.symm, l, e, find_eq_ok.2 ⟨hl, hn⟩⟩

theorem find_makeDirectory (h : s.makeDirectory p = .ok made) : ∃ l, made.find p = .ok (l, .directory) := by
  obtain ⟨l, hl, free, rfl⟩ := makeDirectory_ok h
  refine ⟨l, find_eq_ok.2 ⟨?_, Tree.node?_putDirectory _ l⟩⟩
  exact locate_of_keeps (s := s) rfl (Tree.keeps_putDirectory free) hl

theorem find_of_isDirectory (h : s.isDirectory p = .ok true) : ∃ l, s.find p = .ok (l, .directory) := by
  unfold isDirectory at h
  split at h
  · rename_i l hfound
    exact ⟨l, hfound⟩
  · cases h
  · cases h
  · cases h

/-- a directory that could not be made was none too many only if it is there -/
theorem find_orPresent (h : s.orPresent p c = .ok made) : ∃ l, s.find p = .ok (l, .directory) := by
  unfold orPresent at h
  split_ifs at h
  · cases h
  · obtain ⟨there, hthere, hrest⟩ := exists_of_bind_ok h
    cases there with
    | true => exact find_of_isDirectory hthere
    | false => cases hrest

theorem orPresent_of_find (h : s.find p = .ok (l, .directory)) (hc : c ≠ .nullByte) : s.orPresent p c = .ok s := by
  have hthere : s.isDirectory p = .ok true := by
    unfold isDirectory
    rw [h]
  unfold orPresent
  rw [if_neg hc, hthere]
  rfl

/-- how one round of making directories goes -/
inductive Round (bound : Nat) (p : Path) (s : Surroundings) : Except Fault Surroundings × Surroundings → Prop where
  | made {made : Surroundings} (makes : s.makeDirectory p = .ok made) : Round bound p s (.ok made, made)
  | present {c : Cause} (fails : s.makeDirectory p = .error c) (known : c ≠ .missing) :
    Round bound p s (s.orPresent p c, s)
  /-- the directory above could not be made -/
  | barred {f : Fault} {left : Surroundings} (fails : s.makeDirectory p = .error .missing) (below : p.parts ≠ [])
    (above : makeDirectoriesUpTo bound p.parent s = (.error f, left)) : Round bound p s (.error f, left)
  /-- it could be made, and then this one -/
  | madeBelow {above left made : Surroundings} (fails : s.makeDirectory p = .error .missing) (below : p.parts ≠ [])
    (first : makeDirectoriesUpTo bound p.parent s = (.ok above, left)) (makes : left.makeDirectory p = .ok made) :
    Round bound p s (.ok made, made)
  /-- it could be made, and then this one could not -/
  | presentBelow {above left : Surroundings} {c : Cause} (fails : s.makeDirectory p = .error .missing)
    (below : p.parts ≠ []) (first : makeDirectoriesUpTo bound p.parent s = (.ok above, left))
    (again : left.makeDirectory p = .error c) : Round bound p s (left.orPresent p c, left)

/-- a path without steps leads to where it starts, there or not -/
theorem parts_ne_nil_of_missing (h : s.makeDirectory p = .error .missing) : p.parts ≠ [] := by
  intro hparts
  rcases makeDirectory_error h with hl | ⟨hcause, -⟩
  · cases astray_of_locate hl with
    | gap passes free =>
      rw [hparts] at passes
      cases passes
    | unusable _ known => exact known rfl
  · cases hcause

theorem round (bound : Nat) (p : Path) (s : Surroundings) : Round bound p s (makeDirectoriesUpTo (bound + 1) p s) := by
  unfold makeDirectoriesUpTo
  split
  · rename_i made hmade
    exact .made hmade
  · rename_i hmissing
    have hparts := parts_ne_nil_of_missing hmissing
    rw [if_neg hparts]
    rcases habove : makeDirectoriesUpTo bound p.parent s with ⟨f | above, left⟩
    · exact .barred hmissing hparts habove
    · rcases hagain : left.makeDirectory p with c | made
      · simp only [hagain]
        exact .presentBelow hmissing hparts habove hagain
      · simp only [hagain]
        exact .madeBelow hmissing hparts habove hagain
  · rename_i c hknown hc
    exact .present hc hknown

/-- a directory that was made is there -/
theorem find_makeDirectoriesUpTo {bound : Nat} {left : Surroundings}
    (h : makeDirectoriesUpTo bound p s = (.ok made, left)) : ∃ l, made.find p = .ok (l, .directory) := by
  cases bound with
  | zero => cases h
  | succ bound =>
    have hround := round bound p s
    rw [h] at hround
    generalize hr : (Except.ok made, left) = r at hround
    cases hround with
    | made makes =>
      obtain ⟨hmade, -⟩ := Prod.mk.inj hr
      obtain rfl := Except.ok.inj hmade
      exact find_makeDirectory makes
    | present =>
      obtain ⟨hok, -⟩ := Prod.mk.inj hr
      rw [orPresent_ok hok.symm]
      exact find_orPresent hok.symm
    | barred => cases hr
    | madeBelow _ _ _ makes =>
      obtain ⟨hmade, -⟩ := Prod.mk.inj hr
      obtain rfl := Except.ok.inj hmade
      exact find_makeDirectory makes
    | presentBelow =>
      obtain ⟨hok, -⟩ := Prod.mk.inj hr
      rw [orPresent_ok hok.symm]
      exact find_orPresent hok.symm

theorem find_makeDirectories (h : s.makeDirectories p = (none, made)) : ∃ l, made.find p = .ok (l, .directory) := by
  unfold makeDirectories at h
  rcases hr : makeDirectoriesUpTo (p.parts.length + 1) p s with ⟨f | above, left⟩
  · simp [hr] at h
  · simp only [hr, Prod.mk.injEq, true_and] at h
    subst h
    exact find_makeDirectoriesUpTo hr

/-- directories that are made make no files -/
theorem Furnished.file (h : Furnished s s') (hn : s'.tree.node? l = some (.file n)) :
    s.tree.node? l = some (.file n) := by
  induction h with
  | same => exact hn
  | @made s' m _ free ih =>
    by_cases hl : l = m
    · subst hl
      rw [Tree.node?_putDirectory] at hn
      cases hn
    · rw [Tree.node?_putDirectory_of_ne _ hl] at hn
      exact ih hn

/-- what a directory can not be made for: a file on the way, or an unusable path -/
def Barred (s : Surroundings) (p : Path) : Prop := (∃ m ∈ s.way p, ∃ n, s.tree.node? m = some (.file n)) ∨ p.Unusable

theorem Barred.of_parent (h : s.Barred p.parent) : s.Barred p := by
  rcases h with ⟨m, hm, hfile⟩ | hunusable
  · exact Or.inl ⟨m, mem_way_of_parent hm, hfile⟩
  · exact Or.inr hunusable.of_parent

/-- what is barred after directories were made was so before -/
theorem Barred.of_furnished (hf : Furnished s s') (h : s'.Barred p) : s.Barred p := by
  rcases h with ⟨m, hm, n, hn⟩ | hunusable
  · rw [way_of_cwd hf.cwd] at hm
    exact Or.inl ⟨m, hm, n, hf.file hn⟩
  · exact Or.inr hunusable

/-- a directory that could not be made, for another cause than a gap, and is not there -/
theorem barred_of_orPresent (hmake : s.makeDirectory p = .error c) (hc : c ≠ .missing)
    (h : s.orPresent p c = .error f) : s.Barred p := by
  rcases makeDirectory_error hmake with hl | ⟨rfl, l, e, hfound⟩
  · cases astray_of_locate hl with
    | gap => exact absurd rfl hc
    | file passes stands => exact Or.inl ⟨_, mem_way_of_passed passes, _, stands⟩
    | unusable unusable _ => exact Or.inr unusable
  · cases e with
    | directory =>
      rw [orPresent_of_find hfound (by decide)] at h
      cases h
    | file n =>
      obtain ⟨hl, hn⟩ := find_eq_ok.1 hfound
      obtain ⟨-, -, hgoal⟩ := locate_eq_ok.1 hl
      refine Or.inl ⟨l, ?_, n, hn⟩
      rw [hgoal]
      exact s.goal_mem_way p

/-- once the directory above is there, the way has no gap -/
theorem not_missing_of_find (hparts : p.parts ≠ []) (h : s.find p.parent = .ok (l, .directory))
    (hmake : s.makeDirectory p = .error c) : c ≠ .missing := by
  rintro rfl
  rcases makeDirectory_error hmake with hl | ⟨hcause, -⟩
  · cases astray_of_locate hl with
    | gap passes free =>
      rw [passed_eq_way s hparts] at passes
      rw [way_of_find h _ passes] at free
      cases free
    | unusable _ known => exact known rfl
  · cases hcause

/-- as many rounds as the path has steps are enough -/
theorem barred_makeDirectoriesUpTo {bound : Nat} {left : Surroundings} (hbound : p.parts.length < bound)
    (h : makeDirectoriesUpTo bound p s = (.error f, left)) : s.Barred p := by
  induction bound generalizing p f left with
  | zero => omega
  | succ bound ih =>
    have hround := round bound p s
    rw [h] at hround
    generalize hr : (Except.error f, left) = r at hround
    cases hround with
    | made => cases hr
    | present fails known =>
      obtain ⟨herror, -⟩ := Prod.mk.inj hr
      exact barred_of_orPresent fails known herror.symm
    | barred _ below above =>
      have hshort : p.parent.parts.length < bound := by
        have hlength := p.length_parent
        have hpos := List.length_pos_of_ne_nil below
        omega
      exact (ih hshort above).of_parent
    | madeBelow => cases hr
    | @presentBelow first left _ _ below above again =>
      obtain ⟨herror, -⟩ := Prod.mk.inj hr
      obtain ⟨hup, hsame⟩ := furnished_makeDirectoriesUpTo bound p.parent s
      rw [above] at hup hsame
      obtain ⟨l, hfound⟩ := find_makeDirectoriesUpTo above
      rw [hsame first rfl] at hfound
      exact (barred_of_orPresent again (not_missing_of_find below hfound again) herror.symm).of_furnished hup

/-- Directories can be made unless a file is in the way or the path is unusable, and only then. -/
theorem makeDirectories_fault : (∃ f, (s.makeDirectories p).1 = some f) ↔ s.Barred p := by
  have hfurnished := furnished_makeDirectories s p
  constructor
  · rintro ⟨f, hf⟩
    unfold makeDirectories at hf
    rcases hr : makeDirectoriesUpTo (p.parts.length + 1) p s with ⟨f' | above, left⟩
    · exact barred_makeDirectoriesUpTo (Nat.lt_succ_self _) hr
    · simp [hr] at hf
  · intro hbarred
    rcases hr : s.makeDirectories p with ⟨_ | f, made⟩
    · rw [hr] at hfurnished
      obtain ⟨l, hfound⟩ := find_makeDirectories hr
      rcases hbarred with ⟨m, hm, n, hn⟩ | hunusable
      · rw [← way_of_cwd hfurnished.cwd] at hm
        have hdirectory := way_of_find hfound m hm
        rw [hfurnished.keeps _ _ hn] at hdirectory
        cases hdirectory
      · exact absurd hunusable (locate_eq_ok.1 (find_eq_ok.1 hfound).1).1
    · exact ⟨f, rfl⟩

/-! ## Gaps that are filled -/

/-- Nothing but gaps at some places has been filled. -/
structure FilledIn (on : List Location) (s s' : Surroundings) : Prop where
  cwd : s'.cwd = s.cwd
  environment : s'.environment = s.environment
  homes : s'.homeText? = s.homeText?
  nodes : ∀ m, s'.tree.node? m = s.tree.node? m ∨ s.tree.node? m = none ∧ m ∈ on

theorem FilledIn.refl (on : List Location) (s : Surroundings) : FilledIn on s s :=
  ⟨rfl, rfl, rfl, fun _ => Or.inl rfl⟩

theorem FilledIn.mono (h : FilledIn on s s') (hon : ∀ m ∈ on, m ∈ on') : FilledIn on' s s' :=
  ⟨h.cwd, h.environment, h.homes, fun m => (h.nodes m).imp id fun hfree => ⟨hfree.1, hon m hfree.2⟩⟩

theorem FilledIn.trans {s'' : Surroundings} (h : FilledIn on s s') (h' : FilledIn on s' s'') : FilledIn on s s'' := by
  refine ⟨h'.cwd.trans h.cwd, h'.environment.trans h.environment, h'.homes.trans h.homes, ?_⟩
  intro m
  rcases h.nodes m with hsame | hfree
  · rcases h'.nodes m with hsame' | hfree'
    · exact Or.inl (hsame'.trans hsame)
    · exact Or.inr ⟨hsame ▸ hfree'.1, hfree'.2⟩
  · exact Or.inr hfree

theorem FilledIn.keeps (h : FilledIn on s s') : s.tree.Keeps s'.tree := by
  intro m e he
  rcases h.nodes m with hsame | ⟨hfree, -⟩
  · rw [hsame, he]
  · rw [he] at hfree
    cases hfree

/-- Where gaps have been filled something is there or not as before, unless one of them was on the way. -/
theorem FilledIn.isThere (h : FilledIn on s s') (p : Path) :
    s'.isThere p = s.isThere p ∨ s.isThere p = .ok false ∧ ∃ m ∈ s.way p, s.tree.node? m = none ∧ m ∈ on := by
  have hsame : s'.find p = s.find p → s'.isThere p = s.isThere p := by
    intro hfind
    unfold Surroundings.isThere
    rw [hfind]
  rcases hfind : s.find p with c | ⟨l, e⟩
  · by_cases hc : c = .missing
    · subst hc
      by_cases hway : ∀ m ∈ s.way p, s'.tree.node? m = s.tree.node? m
      · exact Or.inl (hsame (find_congr h.cwd hway))
      · push Not at hway
        obtain ⟨m, hm, hchanged⟩ := hway
        refine Or.inr ⟨?_, m, hm, ?_⟩
        · unfold Surroundings.isThere
          rw [hfind]
        · exact (h.nodes m).resolve_left hchanged
    · exact Or.inl (hsame ((find_error_of_keeps h.cwd h.keeps hfind hc).trans hfind.symm))
  · exact Or.inl (hsame ((find_of_keeps h.cwd h.keeps hfind).trans hfind.symm))

/-- one place filled -/
theorem filledIn_place {tree : Tree} {m : Location} (free : s.tree.node? m = none) (hm : m ∈ on)
    (hothers : ∀ m' ≠ m, tree.node? m' = s.tree.node? m') : FilledIn on s { s with tree } := by
  refine ⟨rfl, rfl, rfl, ?_⟩
  intro m'
  by_cases hsame : m' = m
  · subst hsame
    exact Or.inr ⟨free, hm⟩
  · exact Or.inl (hothers m' hsame)

theorem filledIn_makeDirectory (h : s.makeDirectory p = .ok made) : FilledIn (s.way p) s made := by
  obtain ⟨l, hl, free, rfl⟩ := makeDirectory_ok h
  obtain ⟨-, -, rfl⟩ := locate_eq_ok.1 hl
  exact filledIn_place free (s.goal_mem_way p) fun m hm => Tree.node?_putDirectory_of_ne _ hm

theorem filledIn_makeDirectoriesUpTo (bound : Nat) (p : Path) (s : Surroundings) :
    FilledIn (s.way p) s (makeDirectoriesUpTo bound p s).2 := by
  induction bound generalizing p with
  | zero => exact .refl _ s
  | succ bound ih =>
    have habove : ∀ {left : Surroundings} {r : Except Fault Surroundings},
        makeDirectoriesUpTo bound p.parent s = (r, left) → FilledIn (s.way p) s left := by
      intro left r hr
      have hfilled := ih p.parent
      rw [hr] at hfilled
      exact hfilled.mono fun m hm => mem_way_of_parent hm
    have hround := round bound p s
    generalize makeDirectoriesUpTo (bound + 1) p s = r at hround
    cases hround with
    | made makes => exact filledIn_makeDirectory makes
    | present => exact .refl _ s
    | barred _ _ above => exact habove above
    | madeBelow _ _ first makes =>
      have hfirst := habove first
      have hmade := filledIn_makeDirectory makes
      rw [way_of_cwd hfirst.cwd] at hmade
      exact hfirst.trans hmade
    | presentBelow _ _ first _ => exact habove first

theorem filledIn_makeDirectories (s : Surroundings) (p : Path) : FilledIn (s.way p) s (s.makeDirectories p).2 := by
  have hfilled := filledIn_makeDirectoriesUpTo (p.parts.length + 1) p s
  obtain ⟨-, hsame⟩ := furnished_makeDirectoriesUpTo (p.parts.length + 1) p s
  unfold makeDirectories
  rcases hr : makeDirectoriesUpTo (p.parts.length + 1) p s with ⟨f | above, left⟩
  · rw [hr] at hfilled
    exact hfilled
  · rw [hr] at hfilled hsame
    rw [hsame above rfl]
    exact hfilled

theorem filledIn_openToAdd (h : s.openToAdd p = .ok (n, s')) : FilledIn [s.goal p] s s' := by
  obtain ⟨l, hl, ⟨-, rfl⟩ | ⟨free, -, rfl⟩⟩ := openToAdd_ok h
  · exact .refl _ _
  · obtain ⟨-, -, rfl⟩ := locate_eq_ok.1 hl
    exact filledIn_place free (List.mem_singleton.2 rfl) fun m hm => Tree.node?_putFile_of_ne _ hm

end LinePrompt.Files.Surroundings
