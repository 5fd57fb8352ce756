/-
Settings loaded, changed and saved again.

Where settings are saved is told by where they came from, and where they are loaded from by a search; the two agree. A
file that settings came from is written over in its place, where nothing new is made (`FilledIn.same_of_find`), so the
search ends where it ended. The standard settings came from no file: they are saved to the working directory, which the
search looks at first. Either way the next search finds what was saved, and no other file has changed: `load_savedBack`.
-/
import LinePrompt.Proofs.CommandLine.Checking
import LinePrompt.Proofs.CommandLine.Precedence
import LinePrompt.Proofs.Files.Names
import LinePrompt.Proofs.Settings.RoundTrip

/-! ## Files that are written over -/

namespace LinePrompt.Files.Surroundings

open LinePrompt.Files Location

variable {s s' : Surroundings} {p q : Path} {l : Location} {n : Nat} {bytes : ByteArray}

/-- The directory that is worked in is one, and has a path in full that a system can give it. -/
structure Placed (s : Surroundings) : Prop where
  directory : s.tree.node? s.cwd = some .directory
  grounded : s.tree.Grounded s.cwd
  names : ∀ name ∈ s.cwd, IsName name
  no_null : ∀ name ∈ s.cwd, Char.ofNat 0 ∉ name.toList

/-- a file that can be read is not the directory that is worked in, nor the root -/
theorem Placed.parts_ne_nil (hs : s.Placed) (h : s.read p = .ok bytes) : p.parts ≠ [] := by
  intro hnil
  obtain ⟨l, hl, hcontent⟩ := read_eq_ok_iff.1 h
  have hgoal : l = s.start p := by
    rw [(locate_eq_ok.1 hl).2.2, goal, hnil]
    rfl
  have hstart : s.tree.node? (s.start p) = some .directory := by
    unfold start
    split_ifs
    · exact hs.directory
    · rfl
  simp [Tree.contentAt?, hgoal, hstart] at hcontent

theorem mem_of_mem_intercalate {sep : List Char} {pieces : List (List Char)} {ch : Char}
    (h : ch ∈ sep.intercalate pieces) : ch ∈ sep ∨ ∃ piece ∈ pieces, ch ∈ piece := by
  induction pieces with
  | nil => simp [List.intercalate] at h
  | cons first rest ih =>
    rcases rest with _ | ⟨second, more⟩
    · exact Or.inr ⟨first, List.mem_cons_self, by simpa [List.intercalate] using h⟩
    · rw [List.intercalate_cons_cons] at h
      simp only [List.mem_append] at h
      rcases h with (h | h) | h
      · exact Or.inr ⟨first, List.mem_cons_self, h⟩
      · exact Or.inl h
      · exact (ih h).imp id fun ⟨piece, hpiece, hch⟩ => ⟨piece, List.mem_cons_of_mem _ hpiece, hch⟩

/-- A name leads to a place in the directory that is worked in, also by the path in full; only that this path may be too
long, and then there is no telling whether anything is there. -/
theorem Placed.locate_child (hs : s.Placed) {name : String} (hname : IsName name)
    (hnull : Char.ofNat 0 ∉ name.toList) (hshort : name.utf8ByteSize ≤ Tree.nameLimit)
    (hfree : s.isThere ((Path.ofLocation s.cwd).child name) = .ok false) :
    s.locate ((Path.ofLocation s.cwd).child name) = .ok (name :: s.cwd) := by
  obtain ⟨hpassed, hnames, hback⟩ := Tree.follow_eq_ok.1 hs.grounded
  have hparts : ((Path.ofLocation s.cwd).child name).parts = s.cwd.reverse ++ [name] := rfl
  have hnonull : Char.ofNat 0 ∉ ((Path.ofLocation s.cwd).child name).text.toList := by
    rw [Path.toList_text (by simp [hparts])]
    intro hmem
    rcases mem_of_mem_intercalate hmem with hmem | ⟨piece, hpiece, hmem⟩
    · exact absurd hmem (by decide)
    · rw [hparts] at hpiece
      simp only [Path.child, Path.ofLocation, Origin.blanks, List.map_append, List.map_cons, List.map_nil,
        List.mem_append, List.mem_singleton, List.mem_map, List.mem_reverse] at hpiece
      rcases hpiece with rfl | ⟨part, hpart, rfl⟩ | rfl
      · cases hmem
      · exact hs.no_null part hpart hmem
      · exact hnull hmem
  refine locate_eq_ok.2 ⟨?_, ?_, ?_⟩
  · intro hunusable
    cases hunusable with
    | nullByte holds => exact hnonull holds
    | long long =>
      have hlocate : s.locate ((Path.ofLocation s.cwd).child name) = .error .nameTooLong := by
        unfold locate
        rw [if_neg (by simpa using hnonull), if_pos long]
      simp [isThere, find, hlocate, bind, Except.bind] at hfree
    | name part long =>
      rw [hparts] at part
      rcases List.mem_append.1 part with part | part
      · exact absurd (hnames _ part) (Nat.not_le.2 long)
      · rw [List.mem_singleton.1 part] at long
        exact absurd hshort (Nat.not_le.2 long)
  · intro m hm
    rw [hparts] at hm
    change m ∈ passed [] (s.cwd.reverse ++ [name]) at hm
    rw [passed_concat] at hm
    rcases List.mem_append.1 hm with hm | hm
    · exact hpassed m hm
    · rw [List.mem_singleton.1 hm, ← hback]
      exact hs.directory
  · have hgoal : s.goal ((Path.ofLocation s.cwd).child name) = Path.collapse [] (s.cwd.reverse ++ [name]) := rfl
    rw [hgoal, collapse_append, ← hback, collapse_names s.cwd (by simpa using hname)]
    rfl

/-- gaps filled on the way to a file that is there are none -/
theorem FilledIn.same_of_find (h : FilledIn (s.way p) s s') (hfound : s.find p = .ok (l, .file n)) (m : Location) :
    s'.tree.node? m = s.tree.node? m := by
  obtain ⟨hl, hn⟩ := find_eq_ok.1 hfound
  obtain ⟨-, hpassed, hgoal⟩ := locate_eq_ok.1 hl
  rcases h.nodes m with hsame | ⟨hfree, hm⟩
  · exact hsame
  · rcases List.mem_append.1 hm with hm | hm
    · rw [hpassed m hm] at hfree
      cases hfree
    · rw [List.mem_singleton.1 hm, ← goal, ← hgoal, hn] at hfree
      cases hfree

/-- a file that can be read is found -/
theorem find_of_read (h : s.read p = .ok bytes) : ∃ l n, s.find p = .ok (l, .file n) := by
  obtain ⟨l, hl, hcontent⟩ := read_eq_ok_iff.1 h
  unfold Tree.contentAt? at hcontent
  split at hcontent
  · rename_i n hn
    exact ⟨l, n, find_file hl hn⟩
  · cases hcontent

end LinePrompt.Files.Surroundings

namespace LinePrompt.Settings

open LinePrompt.Files Surroundings

open LinePrompt.CommandLine (hereFile homeFile firstThere?_cons usualPaths_ok)

variable {s s' : Surroundings} {p q : Path} {c : Settings} {bytes : ByteArray} {request : Option String}

/-- a file is written by filling gaps on the way of its path -/
theorem filledIn_writeFile {text : Except Trouble String} (h : writeFile s p text = (none, s')) :
    FilledIn (s.way p) s s' := by
  unfold writeFile at h
  have hmade := filledIn_makeDirectories s p.parent
  rcases hm : s.makeDirectories p.parent with ⟨_ | f, s₁⟩
  · rw [hm] at hmade
    have habove : FilledIn (s.way p) s s₁ := hmade.mono fun m hm => mem_way_of_parent hm
    rcases ho : s₁.openToWrite p with f | ⟨n, s₂⟩
    · simp [hm, ho] at h
    · obtain ⟨opened, hadd, rfl⟩ := openToWrite_ok ho
      have hopened : FilledIn (s.way p) s₁ opened := by
        refine (filledIn_openToAdd hadd).mono fun m hm => ?_
        rw [List.mem_singleton.1 hm, goal_of_cwd habove.cwd]
        exact s.goal_mem_way p
      cases text with
      | error trouble => simp [hm, ho] at h
      | ok t =>
        simp only [hm, ho, Prod.mk.injEq, true_and] at h
        subst h
        -- bytes change no entry of the tree
        exact habove.trans ⟨hopened.cwd, hopened.environment, hopened.homes, hopened.nodes⟩
  · simp [hm] at h

/-! ## Where settings are looked for -/

/-- the name of the file in the working directory -/
def standardName : String := "textprompt.yaml"

theorem isName_standardName : IsName standardName :=
  ⟨⟨by decide, by decide, by decide⟩, by decide⟩

/-- a path of one step is read from its text -/
theorem ofText_singleton {origin : Origin} {step text : String} (hstep : IsStep step)
    (htext : (⟨origin, [step]⟩ : Path).text = text) : Path.ofText text = ⟨origin, [step]⟩ :=
  htext ▸ Path.ofText_text (List.cons_ne_nil step []) (List.forall_mem_singleton.2 hstep)

theorem ofText_standardName : Path.ofText standardName = ⟨.here, [standardName]⟩ :=
  ofText_singleton isName_standardName.toIsStep rfl

theorem isStep_child {name : String} (hp : ∀ part ∈ p.parts, IsStep part) (hname : IsStep name) :
    ∀ part ∈ (p.child name).parts, IsStep part := by
  intro part hpart
  rcases List.mem_append.1 hpart with hpart | hpart
  · exact hp part hpart
  · exact List.mem_singleton.1 hpart ▸ hname

theorem isStep_hereFile (hs : s.Placed) : ∀ part ∈ (hereFile s).parts, IsStep part :=
  isStep_child (fun part hpart => (hs.names part (List.mem_reverse.1 hpart)).toIsStep) isName_standardName.toIsStep

theorem isStep_homeFile {home : Path} (lives : s.expandHome? (.ofText "~") = some home) :
    ∀ part ∈ (homeFile home).parts, IsStep part :=
  have hhome : expanded s (.ofText "~") = .ok home := by rw [expanded, lives]
  isStep_child (isStep_child (isStep_child (isStep_expanded hhome) ⟨by decide, by decide, by decide⟩)
    ⟨by decide, by decide, by decide⟩) ⟨by decide, by decide, by decide⟩

/-- how settings are found: at the path asked for, or by the search, or nowhere -/
inductive Found (s : Surroundings) (request : Option String) (c : Settings) : Prop where
  | asked {raw : String} (asked : nonempty? request = some raw) (reads : read s (.ofText raw) = .ok c)
  | working (unasked : nonempty? request = none) {home : Path} (lives : s.expandHome? (.ofText "~") = some home)
    (reads : read s (hereFile s) = .ok c)
  | home (unasked : nonempty? request = none) {home : Path} (lives : s.expandHome? (.ofText "~") = some home)
    (free : s.isThere (hereFile s) = .ok false) (reads : read s (homeFile home) = .ok c)
  | standard (unasked : nonempty? request = none) {home : Path} (lives : s.expandHome? (.ofText "~") = some home)
    (free : s.isThere (hereFile s) = .ok false) (free' : s.isThere (homeFile home) = .ok false)
    (unset : c = standard)

theorem found_of_load (h : load s request = .ok c) : Found s request c := by
  unfold load at h
  rcases hasked : nonempty? request with _ | raw
  · simp only [hasked] at h
    obtain ⟨paths, hpaths, h⟩ := exists_of_bind_ok h
    obtain ⟨home, lives, rfl⟩ := usualPaths_ok hpaths
    obtain ⟨found, hfirst, h⟩ := exists_of_bind_ok h
    rcases firstThere?_cons hfirst with ⟨-, rfl⟩ | ⟨free, hrest⟩
    · exact .working hasked lives h
    · rcases firstThere?_cons hrest with ⟨-, rfl⟩ | ⟨free', hnone⟩
      · exact .home hasked lives free h
      · obtain rfl : none = found := Except.ok.inj hnone
        exact .standard hasked lives free free' (Except.ok.inj h).symm
  · simp only [hasked] at h
    obtain ⟨found, hfirst, h⟩ := exists_of_bind_ok h
    rcases firstThere?_cons hfirst with ⟨-, rfl⟩ | ⟨-, hnone⟩
    · exact .asked hasked h
    · obtain rfl : none = found := Except.ok.inj hnone
      cases h

theorem load_unasked (unasked : nonempty? request = none) {home : Path}
    (lives : s.expandHome? (.ofText "~") = some home) :
    load s request = (firstThere? s [hereFile s, homeFile home]).bind fun found =>
      match found with
      | some p => read s p
      | none => .ok standard := by
  simp only [load, unasked, usualPaths, expanded, lives]
  rfl

/-- what can be read is there -/
theorem isThere_of_reads (h : read s p = .ok c) : s.isThere p = .ok true := by
  unfold Settings.read at h
  rcases hread : s.read p with f | bytes
  · simp [hread] at h
  · exact isThere_of_read hread

theorem load_of_found (h : Found s request c) : load s request = .ok c := by
  cases h with
  | asked asked reads => simp only [load, asked, firstThere?, isThere_of_reads reads, bind, Except.bind, reads]
  | working unasked lives reads =>
    simp only [load_unasked unasked lives, firstThere?, isThere_of_reads reads, Except.bind, reads]
  | home unasked lives free reads =>
    simp only [load_unasked unasked lives, firstThere?, free, isThere_of_reads reads, Except.bind, reads]
  | standard unasked lives free free' unset =>
    simp only [load_unasked unasked lives, firstThere?, free, free', Except.bind, unset]

/-! ## Saved where they were found -/

/-- settings with the values that a file can hold set anew; where they came from stays -/
def reset (c : Settings) (label level : String) (escape : Bool) (file : Option String) : Settings :=
  ⟨label, escape, level, ⟨[], fileItem file⟩, c.source⟩

/-- settings that came from a file have its path as their source -/
theorem source_ofDocument {path : String} {v : Yaml.Value} (h : ofDocument path v = .ok c) :
    c.source = some path := by
  unfold ofDocument at h
  split_ifs at h
  · obtain ⟨_, hrefused, -⟩ := exists_of_bind_ok h
    cases hrefused
  · obtain ⟨escape, -, h⟩ := exists_of_bind_ok h
    obtain ⟨label, -, h⟩ := exists_of_bind_ok h
    obtain ⟨level, -, h⟩ := exists_of_bind_ok h
    exact Except.ok.inj h ▸ rfl

theorem source_ofBytes {path : String} (h : ofBytes path bytes = .ok c) : c.source = some path := by
  unfold ofBytes at h
  rcases hdecode : String.fromUTF8? bytes with _ | text
  · simp [hdecode] at h
  · rcases hvalue : Yaml.Value.parse text.toList with fault | v
    · cases fault <;> simp [hdecode, hvalue] at h
    · simp only [hdecode, hvalue] at h
      exact source_ofDocument h

/-- settings that were read came from bytes at the path -/
theorem read_eq_ok (h : read s p = .ok c) : ∃ bytes, s.read p = .ok bytes ∧ ofBytes p.text bytes = .ok c := by
  unfold Settings.read at h
  rcases hread : s.read p with f | bytes
  · simp [hread] at h
  · exact ⟨bytes, rfl, by simpa [hread] using h⟩

/-- settings are saved to the path that they came from, as it was written -/
theorem target_of_source (hparts : p.parts ≠ []) (hsteps : ∀ part ∈ p.parts, IsStep part)
    (h : c.source = some p.text) : c.target none = p := by
  have hback := Path.ofText_text hparts hsteps
  have hgiven : p.text ≠ "" := by
    intro hblank
    have hnone : (Path.ofText "").parts = [] := (Path.steps_eq "").trans (by decide)
    rw [← hblank, hback] at hnone
    exact hparts hnone
  have hsource : nonempty? c.source = some p.text := by simp [nonempty?, h, hgiven]
  unfold target
  rw [hsource]
  exact hback

/-- settings that came from no file are saved to the working directory -/
theorem target_of_unset (h : c.source = none) : c.target none = ⟨.here, [standardName]⟩ := by
  rw [← ofText_standardName]
  simp [target, h, nonempty?, standardName]

/-- what a save leaves behind -/
structure Saved (s s' : Surroundings) (c : Settings) (p : Path) (l : Location) : Prop where
  located : s'.locate p = .ok l
  /-- the settings as they are read from that path -/
  reads : ∃ bytes, s'.tree.contentAt? l = some bytes ∧
    ∀ path, ∃ cells, ofBytes path bytes = .ok { c with logFile := ⟨cells, c.logFile.root⟩, source := some path }
  others : ∀ l' ≠ l, s'.tree.contentAt? l' = s.tree.contentAt? l'
  filled : FilledIn (s.way p) s s'

theorem saved_of_save (hfile : c.LogFileText) (h : c.save s request = (none, s')) :
    ∃ l, Saved s s' c (c.target request) l := by
  obtain ⟨t, -, hprint, -⟩ := ofBytes_print hfile ""
  unfold save at h
  rw [hprint] at h
  obtain ⟨t', l, ht', hwritten⟩ := writeFile_ok h
  obtain rfl : t = t' := Except.ok.inj ht'
  obtain ⟨l', hl', hcontent⟩ := read_eq_ok_iff.1 hwritten.read
  obtain rfl : l' = l := Except.ok.inj (hl'.symm.trans hwritten.located)
  refine ⟨l', hl', ⟨_, hcontent, fun path => ?_⟩, hwritten.others, filledIn_writeFile h⟩
  obtain ⟨t', cells, hprint', hread⟩ := ofBytes_print hfile path
  obtain rfl : t = t' := Except.ok.inj (hprint.symm.trans hprint')
  exact ⟨cells, hread⟩

/-- what was saved is read at every path that leads to its place -/
theorem Saved.read {l : Location} (h : Saved s s' c p l) (hq : s'.locate q = .ok l) :
    ∃ cells, read s' q = .ok { c with logFile := ⟨cells, c.logFile.root⟩, source := some q.text } := by
  obtain ⟨bytes, hcontent, hreads⟩ := h.reads
  obtain ⟨cells, hcells⟩ := hreads q.text
  refine ⟨cells, ?_⟩
  unfold Settings.read
  rw [read_eq_ok_iff.2 ⟨l, hq, hcontent⟩]
  exact hcells

/-! ## The next search -/

theorem isThere_congr (hcwd : s'.cwd = s.cwd) (h : ∀ m, s'.tree.node? m = s.tree.node? m) (p : Path) :
    s'.isThere p = s.isThere p := by
  unfold isThere
  rw [find_congr hcwd fun m _ => h m]

theorem hereFile_congr (h : s'.cwd = s.cwd) : hereFile s' = hereFile s := by
  unfold hereFile
  rw [h]

/-- Where settings came from: the file whose bytes they were read off, or else the file in the working directory. -/
inductive CameFrom (s : Surroundings) (c : Settings) (l : Location) : Prop where
  | file {path : String} {bytes : ByteArray} (source : c.source = some path)
    (located : s.locate (.ofText path) = .ok l) (holds : s.tree.contentAt? l = some bytes)
    (reads : ofBytes path bytes = .ok c)
  | nowhere (unset : c = standard) (place : l = standardName :: s.cwd)

/-- settings put in the place of others in the file that these came from -/
structure SavedBack (s s' : Surroundings) (c c' : Settings) (p : Path) : Prop where
  cwd : s'.cwd = s.cwd
  homes : s'.homeText? = s.homeText?
  /-- nothing new stands anywhere -/
  nodes : ∀ m, s'.tree.node? m = s.tree.node? m
  reads : ∃ cells, read s' p = .ok { c' with logFile := ⟨cells, c'.logFile.root⟩ }
  kept : ∃ l, CameFrom s c l ∧ ∀ l' ≠ l, s'.tree.contentAt? l' = s.tree.contentAt? l'

theorem savedBack_of_save {c' : Settings} (hplaced : s.Placed)
    (hsteps : ∀ part ∈ p.parts, IsStep part) (hread : read s p = .ok c) (hsource : c'.source = c.source)
    (hfile : c'.LogFileText) (hsave : c'.save s none = (none, s')) : SavedBack s s' c c' p := by
  obtain ⟨bytes, hbytes, hvalue⟩ := read_eq_ok hread
  have hparts : p.parts ≠ [] := hplaced.parts_ne_nil hbytes
  have hcame : c.source = some p.text := source_ofBytes hvalue
  have htarget : c'.target none = p := target_of_source hparts hsteps (hsource.trans hcame)
  obtain ⟨l, hsaved⟩ := saved_of_save hfile hsave
  rw [htarget] at hsaved
  obtain ⟨l', hl', hholds⟩ := read_eq_ok_iff.1 hbytes
  obtain rfl : l' = l :=
    Except.ok.inj ((locate_of_keeps hsaved.filled.cwd hsaved.filled.keeps hl').symm.trans hsaved.located)
  obtain ⟨_, n, hfound⟩ := find_of_read hbytes
  obtain ⟨cells, hreads⟩ := hsaved.read hsaved.located
  have hplace : s.locate (.ofText p.text) = .ok l' := by rwa [Path.ofText_text hparts hsteps]
  refine ⟨hsaved.filled.cwd, hsaved.filled.homes, hsaved.filled.same_of_find hfound, ⟨cells, ?_⟩, l',
    .file hcame hplace hholds hvalue, hsaved.others⟩
  rw [hreads, hsource, hcame]

/-- Settings that are loaded, set anew and saved without a path are loaded again by the same request as they were set;
no file has changed but the one that they came from, or for the standard settings the one in the working directory. -/
theorem load_savedBack {label level : String} {escape : Bool} {file : Option String} (hplaced : s.Placed)
    (hload : load s request = .ok c)
    (hsave : (c.reset label level escape file).save s none = (none, s')) :
    (∃ d, load s' request = .ok d ∧ d.cancelLabel = label ∧ d.escapeDismisses = escape ∧ d.logLevel = level ∧
      d.logFile.root = fileItem file ∧ ∀ path, c.source = some path → d.source = some path) ∧
    ∃ l, CameFrom s c l ∧ ∀ l' ≠ l, s'.tree.contentAt? l' = s.tree.contentAt? l' := by
  have hsource : (c.reset label level escape file).source = c.source := rfl
  have hfile : (c.reset label level escape file).LogFileText := ⟨file, rfl⟩
  cases found_of_load hload with
  | @asked raw asked reads =>
    have hback := savedBack_of_save hplaced (fun part hpart => isStep_of_mem_steps hpart) reads hsource hfile hsave
    obtain ⟨cells, hd⟩ := hback.reads
    exact ⟨⟨_, load_of_found (.asked asked hd), rfl, rfl, rfl, rfl, fun _ h => h⟩, hback.kept⟩
  | working unasked lives reads =>
    have hback := savedBack_of_save hplaced (isStep_hereFile hplaced) reads hsource hfile hsave
    obtain ⟨cells, hd⟩ := hback.reads
    rw [← hereFile_congr hback.cwd] at hd
    rw [← expandHome?_congr hback.homes] at lives
    exact ⟨⟨_, load_of_found (.working unasked lives hd), rfl, rfl, rfl, rfl, fun _ h => h⟩, hback.kept⟩
  | home unasked lives free reads =>
    have hback := savedBack_of_save hplaced (isStep_homeFile lives) reads hsource hfile hsave
    obtain ⟨cells, hd⟩ := hback.reads
    have hfree : s'.isThere (hereFile s') = .ok false := by
      rw [hereFile_congr hback.cwd, isThere_congr hback.cwd hback.nodes, free]
    rw [← expandHome?_congr hback.homes] at lives
    exact ⟨⟨_, load_of_found (.home unasked lives hfree hd), rfl, rfl, rfl, rfl, fun _ h => h⟩, hback.kept⟩
  | standard unasked lives free free' unset =>
    obtain ⟨l, hsaved⟩ := saved_of_save hfile hsave
    rw [target_of_unset (hsource.trans (unset ▸ rfl))] at hsaved
    have hplace : s.locate (hereFile s) = .ok (standardName :: s.cwd) :=
      hplaced.locate_child isName_standardName (by decide) (by decide) free
    have hl : l = standardName :: s.cwd := by
      rw [(locate_eq_ok.1 hsaved.located).2.2, goal_of_cwd hsaved.filled.cwd]
      rfl
    have hlocated : s'.locate (hereFile s') = .ok l := by
      rw [hereFile_congr hsaved.filled.cwd, hl]
      exact locate_of_keeps hsaved.filled.cwd hsaved.filled.keeps hplace
    obtain ⟨cells, hd⟩ := hsaved.read hlocated
    rw [← expandHome?_congr hsaved.filled.homes] at lives
    refine ⟨⟨_, load_of_found (.working unasked lives hd), rfl, rfl, rfl, rfl, fun path h => ?_⟩,
      l, .nowhere unset hl, hsaved.others⟩
    rw [unset] at h
    cases h

/-- a directory to work in, with nothing in it -/
def workRoom : Surroundings :=
  { Surroundings.bare with
    tree := .putDirectory .empty ["work"]
    cwd := ["work"]
    environment := [("HOME", "/root")] }

theorem placed_workRoom : workRoom.Placed :=
  ⟨rfl, rfl, List.forall_mem_singleton.2 ⟨⟨by decide, by decide, by decide⟩, by decide⟩,
    List.forall_mem_singleton.2 (by decide)⟩

theorem load_workRoom : load workRoom none = .ok standard := by
  have htilde : Path.ofText "~" = ⟨.here, ["~"]⟩ := ofText_singleton ⟨by decide, by decide, by decide⟩ rfl
  have howner : Path.ofText "/root" = ⟨.root, ["root"]⟩ := ofText_singleton ⟨by decide, by decide, by decide⟩ rfl
  have hhome : workRoom.homeText? "~" = some "/root" := by decide +kernel
  have lives : workRoom.expandHome? (.ofText "~") = some ⟨.root, ["root"]⟩ := by
    rw [htilde]
    unfold expandHome?
    simp [hhome, howner]
  exact load_of_found (.standard rfl lives rfl rfl rfl)

/-- settings that are set anew to texts that look like something else -/
def thorny (c : Settings) : Settings := c.reset "yes" " 1:30\n# null " false (some "~/it's: a log")

theorem print_thorny (c : Settings) : ∃ t, (thorny c).print = .ok t := by
  obtain ⟨t, -, hprint, -⟩ := ofBytes_print (c := thorny c) ⟨some "~/it's: a log", rfl⟩ ""
  exact ⟨t, hprint⟩

theorem save_thorny : ((thorny standard).save workRoom none).1 = none := by
  obtain ⟨t, hprint⟩ := print_thorny standard
  unfold save
  rw [target_of_unset rfl, hprint]
  rfl

open LinePrompt.CommandLine (configured configuredSettings load_configured)

theorem placed_configured : configured.Placed :=
  ⟨rfl, rfl, List.forall_mem_nil _, List.forall_mem_nil _⟩

theorem save_thorny_configured : ((thorny configuredSettings).save configured none).1 = none := by
  obtain ⟨t, hprint⟩ := print_thorny configuredSettings
  have htarget : (thorny configuredSettings).target none = ⟨.here, ["c"]⟩ :=
    target_of_source (List.cons_ne_nil _ _) (List.forall_mem_singleton.2 ⟨by decide, by decide, by decide⟩) rfl
  unfold save
  rw [htarget, hprint]
  rfl

/-- Settings that came from a file are found there by the next search, once they are saved. Those that came from no file
are found too. -/
theorem load_savedBack_thorny :
    (workRoom.Placed ∧ load workRoom none = .ok standard ∧
      ((thorny standard).save workRoom none).1 = none ∧
      ∃ d, load ((thorny standard).save workRoom none).2 none = .ok d ∧ d.cancelLabel = "yes" ∧
        d.escapeDismisses = false ∧ d.logLevel = " 1:30\n# null " ∧
        d.logFile.root = fileItem (some "~/it's: a log")) ∧
    configured.Placed ∧ load configured (some "c") = .ok configuredSettings ∧
      ((thorny configuredSettings).save configured none).1 = none ∧
      ∃ d, load ((thorny configuredSettings).save configured none).2 (some "c") = .ok d ∧ d.cancelLabel = "yes" ∧
        d.escapeDismisses = false ∧ d.logLevel = " 1:30\n# null " ∧
        d.logFile.root = fileItem (some "~/it's: a log") ∧ d.source = some "c" := by
  obtain ⟨⟨d, hd, hlabel, hescape, hlevel, hfile, -⟩, -⟩ :=
    load_savedBack placed_workRoom load_workRoom (Prod.ext save_thorny rfl :
      (thorny standard).save workRoom none = (none, ((thorny standard).save workRoom none).2))
  obtain ⟨⟨d', hd', hlabel', hescape', hlevel', hfile', hsource'⟩, -⟩ :=
    load_savedBack placed_configured load_configured (Prod.ext save_thorny_configured rfl :
      (thorny configuredSettings).save configured none = (none, ((thorny configuredSettings).save configured none).2))
  exact ⟨⟨placed_workRoom, load_workRoom, save_thorny, d, hd, hlabel, hescape, hlevel, hfile⟩, placed_configured,
    load_configured, save_thorny_configured, d', hd', hlabel', hescape', hlevel', hfile', hsource' "c" rfl⟩

end LinePrompt.Settings
