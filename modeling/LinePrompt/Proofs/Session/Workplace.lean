/-
Where a session works.

Whatever the steps of a session do, the directory that it works in is one, and its path in full leads to it. Files are
written and removed, directories are made and entered, settings are saved, commands run, and a log rolls its file over,
which may give a directory on the way there another name: no step undoes it (`settled_perform`). So every session has
the directory in place that the results about saved settings, about logs and about their files ask for
(`placed_outcomes`).
-/
import LinePrompt.Proofs.Files.Rooted
import LinePrompt.Proofs.Log.Turns
import LinePrompt.Proofs.Settings.SaveBack

namespace LinePrompt.Files.Surroundings

open LinePrompt.Files

variable {s : Surroundings}

theorem Based.named (hs : s.Based) : s.Named := fun name hname =>
  (hs.rooted.names (by simp [hs.directory]) name hname).toIsName

theorem Based.placed (hs : s.Based) : s.Placed where
  directory := hs.directory
  grounded := hs.rooted.grounded hs.directory
  names := hs.named
  no_null name hname := (hs.rooted.names (by simp [hs.directory]) name hname).no_null

end LinePrompt.Files.Surroundings

/-! ## Logs -/

namespace LinePrompt.Log

open LinePrompt.Files Surroundings

variable {s : Surroundings} {p : Path} {above : List String} {name : String} {log : Logbook}

/-- by a path in full a log leaves the directory that is worked in in place -/
theorem stays_based (hp : p.Beside above name) : Stays Based p where
  remove hs h := hs.remove h
  rename hs moves free h := by
    have hfirst := beside_backup hp 1
    cases moves with
    | file => exact hs.rename hp hfirst (backup_name_ne name 1).symm free h
    | backup => exact hs.rename hfirst (beside_backup hp 2) (backup_names_ne name) free h
  openToAdd hs h := hs.openToAdd (fun part hpart => (hp.names part hpart).toIsStep) h
  append n bytes hs := hs.append n bytes

/-- a directory to work in that is in place, and a log that leaves it there -/
structure Settled (log : Logbook) (s : Surroundings) : Prop where
  based : s.Based
  kept : ∀ h ∈ log.handlers, h.Stays Based

theorem Settled.add (h : Settled log s) (r : Record) : Settled (log.add r s).1 (log.add r s).2.surroundings :=
  have hkept := stays_add h.kept h.based r
  ⟨hkept.1, hkept.2⟩

theorem Settled.addAll (h : Settled log s) (records : List Record) :
    Settled (log.addAll records s).1 (log.addAll records s).2.surroundings := by
  induction records generalizing log s with
  | nil => exact h
  | cons r rest ih => exact ih (h.add r)

theorem settled_setUp (hs : s.Based) (c : Option Settings) (w : Wanted) :
    Settled (setUp c w s).2.1 (setUp c w s).2.2 := by
  unfold setUp
  rcases hpath : Settings.logPath s c w.file with t | p
  · exact ⟨hs, List.forall_mem_nil _⟩
  · have hsteps := Settings.isStep_logPath hpath
    have hmade := hs.makeDirectories (p := p.parent) fun part hpart => hsteps part (List.dropLast_subset _ hpart)
    rcases hm : s.makeDirectories p.parent with ⟨_ | f, s₁⟩
    · rw [hm] at hmade
      simp only [hm]
      have hfull : (p.absolute s₁.cwd).InFull := inFull_absolute (Based.named hmade) hsteps
      have hnames : ∀ part ∈ (p.absolute s₁.cwd).parts, IsStep part := fun part hpart =>
        (hfull.names part hpart).toIsStep
      rcases ho : s₁.openToAdd (p.absolute s₁.cwd) with f | ⟨n, s₂⟩
      · exact ⟨hmade, List.forall_mem_nil _⟩
      · obtain ⟨l, hl, hn, -⟩ := opened_at ho
        obtain ⟨above, name, hbeside⟩ := beside_of_find hfull (find_eq_ok.2 ⟨hl, hn⟩)
        refine ⟨Based.openToAdd hmade hnames ho, List.forall_mem_cons.2 ⟨.file (stays_based hbeside) _, ?_⟩⟩
        split_ifs
        · exact List.forall_mem_singleton.2 (.terminal true)
        · exact List.forall_mem_nil _
    · rw [hm] at hmade
      simp only [hm]
      exact ⟨hmade, List.forall_mem_nil _⟩

theorem Settled.endCommand (h : Settled log s) : Settled log.endCommand s := by
  refine ⟨h.based, fun handler hhandler => ?_⟩
  obtain ⟨before, hbefore, rfl⟩ := List.mem_map.1 hhandler
  split
  · exact .terminal false
  · exact h.kept before hbefore

end LinePrompt.Log

namespace LinePrompt.Settings

open LinePrompt.Files Surroundings

variable {s : Surroundings} {p : Path}

theorem based_writeFile (hs : s.Based) (hsteps : ∀ part ∈ p.parts, IsStep part) (text : Except Trouble String) :
    (writeFile s p text).2.Based := by
  have hmade := hs.makeDirectories (p := p.parent) fun part hpart => hsteps part (List.dropLast_subset _ hpart)
  unfold writeFile
  rcases hm : s.makeDirectories p.parent with ⟨_ | f, s₁⟩
  · rw [hm] at hmade
    dsimp only
    rcases ho : s₁.openToWrite p with f | ⟨n, s₂⟩
    · exact hmade
    · have hopened := Based.openToWrite hmade hsteps ho
      cases text with
      | ok t => exact hopened.append n t.toUTF8
      | error t => exact hopened
  · rw [hm] at hmade
    exact hmade

end LinePrompt.Settings

namespace LinePrompt.CommandLine

open LinePrompt.Files LinePrompt.Log

variable {s : Surroundings} {log : Logbook}

theorem settled_run (h : Settled log s) (words : List String) (play : Play) :
    Settled (run words play log s).log (run words play log s).surroundings := by
  unfold run
  split
  · exact h
  · rename_i g q _
    unfold runAsk
    split
    · exact h
    · rename_i c _
      have hset := settled_setUp h.based (some c) ⟨g.level, g.logFile, false⟩
      rcases hsetUp : setUp (some c) ⟨g.level, g.logFile, false⟩ s with ⟨_ | t, log', s'⟩
      · rw [hsetUp] at hset
        exact hset.addAll _
      · rw [hsetUp] at hset
        exact hset
  · rename_i g config _
    refine Settled.endCommand ?_
    unfold runValidate
    have hset := settled_setUp h.based none ⟨g.level, g.logFile, true⟩
    rcases hsetUp : setUp none ⟨g.level, g.logFile, true⟩ s with ⟨_ | t, log', s'⟩
    · rw [hsetUp] at hset
      exact hset
    · rw [hsetUp] at hset
      exact hset

end LinePrompt.CommandLine

namespace LinePrompt.Session

open LinePrompt.Files LinePrompt.Log Surroundings

variable {st : State} {root : Location}

/-! ## Steps -/

/-- the directory that a session works in is in place, and so are the files of its log -/
def State.Settled (st : State) : Prop := Log.Settled st.log st.surroundings

theorem settled_change {r : Except Settings.Trouble Surroundings} (h : st.Settled)
    (hr : ∀ s', r = .ok s' → s'.Based) : (st.change r).state.Settled := by
  rcases r with t | s'
  · exact h
  · exact ⟨hr s' rfl, h.kept⟩

theorem ok_of_onFile {α : Type} {r : Except Files.Fault α} {a : α} (h : State.onFile r = .ok a) : r = .ok a := by
  rcases r with f | b
  · cases h
  · exact congrArg Except.ok (Except.ok.inj h)

theorem settled_writeBytes (h : st.Settled) (path : String) (bytes : ByteArray) :
    (st.writeBytes path bytes).state.Settled := by
  unfold State.writeBytes
  rcases hpath : st.path path with t | p
  · exact h
  · have hsteps := Settings.isStep_expanded hpath
    have hmade := h.based.makeDirectories (p := p.parent) fun part hpart =>
      hsteps part (List.dropLast_subset _ hpart)
    rcases hm : st.surroundings.makeDirectories p.parent with ⟨_ | f, s₁⟩
    · rw [hm] at hmade
      simp only [hm]
      refine settled_change ⟨hmade, h.kept⟩ fun s' hs' => ?_
      obtain ⟨⟨n, opened⟩, ho, rfl⟩ := exists_of_map_ok hs'
      exact (Based.openToWrite hmade hsteps (ok_of_onFile ho)).append n bytes
    · rw [hm] at hmade
      simp only [hm]
      exact ⟨hmade, h.kept⟩

theorem settled_makeDirectory (h : st.Settled) (path : String) : (st.makeDirectory path).state.Settled := by
  unfold State.makeDirectory
  rcases hpath : st.path path with t | p
  · exact h
  · have hmade := h.based.makeDirectories (Settings.isStep_expanded hpath)
    rcases hm : st.surroundings.makeDirectories p with ⟨_ | f, s₁⟩
    · rw [hm] at hmade
      simp only [hm]
      exact ⟨hmade, h.kept⟩
    · rw [hm] at hmade
      simp only [hm]
      exact ⟨hmade, h.kept⟩

theorem settled_save (h : st.Settled) (path : Option String) : (st.save path).state.Settled := by
  have hwritten (text : String) (value : Except Settings.Trouble String) :
      (Settings.writeFile st.surroundings (.ofText text) value).2.Based :=
    Settings.based_writeFile h.based (fun part hpart => isStep_of_mem_steps hpart) value
  unfold State.save Settings.save Settings.target
  rcases st.settings with _ | c
  · rcases Settings.nonempty? path with _ | p
    · exact h
    · have hbased := hwritten p (.error (.noSettings "default_cancel_label"))
      dsimp only
      generalize Settings.writeFile st.surroundings (.ofText p) _ = written at hbased ⊢
      exact ⟨hbased, h.kept⟩
  · have hbased := hwritten (((Settings.nonempty? path).or (Settings.nonempty? c.source)).getD "textprompt.yaml")
      (c.print.mapError .value)
    dsimp only
    generalize Settings.writeFile st.surroundings _ _ = written at hbased ⊢
    exact ⟨hbased, h.kept⟩

theorem settled_record (h : st.Settled) (records : List Record) (answer : Except Problem Answer) :
    (st.record records answer).state.Settled := Log.Settled.addAll h records

theorem state_answer {α : Type} (r : Except Settings.Trouble α) (f : α → Answer) : (st.answer r f).state = st := by
  unfold State.answer
  split <;> rfl

theorem settled_withSettings {wanted : String} {f : Settings → Outcome} (h : st.Settled)
    (hf : ∀ c, (f c).state.Settled) : (st.withSettings wanted f).state.Settled := by
  unfold State.withSettings
  split
  · exact hf _
  · exact h

theorem settled_load (h : st.Settled) (path : Option String) : (st.loadSettings path).state.Settled := by
  unfold State.loadSettings
  split
  · exact ⟨h.based, h.kept⟩
  · exact h

/-- **No step moves a session out of a directory that is in place.** -/
theorem settled_perform (h : st.Settled) (step : Step) : (st.perform step).state.Settled := by
  cases step with
  | write path bytes => exact settled_writeBytes h path bytes
  | makeDirectory path => exact settled_makeDirectory h path
  | remove path =>
    refine settled_change h fun s' hs' => ?_
    obtain ⟨p, -, hremoved⟩ := exists_of_bind_ok hs'
    exact h.based.remove (ok_of_onFile hremoved)
  | enter path =>
    refine settled_change h fun s' hs' => ?_
    obtain ⟨p, -, hentered⟩ := exists_of_bind_ok hs'
    exact h.based.enter (ok_of_onFile hentered)
  | setVariable name value =>
    refine settled_change h fun s' hs' => ?_
    obtain rfl := Except.ok.inj hs'
    exact ⟨h.based.rooted, h.based.directory⟩
  | load path => exact settled_load h path
  | overrideSettings => exact settled_withSettings h fun c => ⟨h.based, h.kept⟩
  | check => exact settled_withSettings h fun c => (state_answer _ _).symm ▸ h
  | serialize => exact settled_withSettings h fun c => h
  | save path => exact settled_save h path
  | setUp w => exact Log.settled_setUp h.based st.settings w
  | log name severity message n => exact settled_record h _ _
  | logAbout title severity message n => exact settled_record h _ _
  | prompt title verbs => exact settled_record h _ _
  | command words play => exact CommandLine.settled_run h words play
  | read path => exact (state_answer _ _).symm ▸ h
  | logPath override => exact (state_answer _ _).symm ▸ h
  | list | take | level | tag => exact h

/-! ## Sessions -/

theorem node?_putDirectories (directories : List Location) (t : Tree) (l : Location) :
    (directories.foldl (fun t l => t.putDirectory l) t).node? l =
      if l ∈ directories then some .directory else t.node? l := by
  induction directories generalizing t with
  | nil => rfl
  | cons m rest ih =>
    rw [List.foldl_cons, ih]
    by_cases hm : l = m
    · subst hm
      simp [Tree.node?_putDirectory]
    · simp [Tree.node?_putDirectory_of_ne t hm, hm]

theorem mem_upward {l : Location} : l ∈ root.upward ↔ l ≠ [] ∧ l <:+ root := by
  unfold Location.upward
  simp only [List.mem_map, List.mem_range]
  constructor
  · rintro ⟨n, hn, rfl⟩
    exact ⟨by simpa [List.drop_eq_nil_iff] using hn, List.drop_suffix n root⟩
  · rintro ⟨hl, below, rfl⟩
    have hlength := List.length_pos_of_ne_nil hl
    exact ⟨below.length, by simp [hlength], by simp⟩

/-- the session starts in a directory that is in place, if the names above it are such as a system takes -/
theorem settled_start (hroot : ∀ name ∈ root, IsFileName name) : (State.start root).Settled := by
  have hnode (l : Location) : (startingAt root).tree.node? l =
      if l ∈ root.upward ++ ["work" :: root, "home" :: root] then some .directory else Tree.empty.node? l :=
    node?_putDirectories _ _ l
  have habove {l : Location} (hl : l <:+ root) : (startingAt root).tree.node? l = some .directory := by
    by_cases hempty : l = []
    · subst hempty
      rfl
    · rw [hnode, if_pos (List.mem_append_left _ (mem_upward.2 ⟨hempty, hl⟩))]
  refine ⟨⟨fun name l hl => ?_, ?_⟩, List.forall_mem_nil _⟩
  · rw [State.start, hnode] at hl
    split_ifs at hl with hmem
    · simp only [List.mem_append, List.mem_cons, List.not_mem_nil, or_false, List.cons.injEq, mem_upward] at hmem
      rcases hmem with ⟨-, hsuffix⟩ | ⟨rfl, rfl⟩ | ⟨rfl, rfl⟩
      · exact ⟨habove ((List.suffix_cons _ _).trans hsuffix), hroot name (hsuffix.subset List.mem_cons_self)⟩
      · exact ⟨habove (List.suffix_refl _), ⟨⟨⟨by decide, by decide, by decide⟩, by decide⟩, by decide, by decide⟩⟩
      · exact ⟨habove (List.suffix_refl _), ⟨⟨⟨by decide, by decide, by decide⟩, by decide⟩, by decide, by decide⟩⟩
    · exact absurd rfl hl
  · show (startingAt root).tree.node? ("work" :: root) = some .directory
    rw [hnode, if_pos (by simp)]

theorem settled_outcomes (h : st.Settled) (steps : List Step) : ∀ o ∈ outcomes steps st, o.state.Settled := by
  induction steps generalizing st with
  | nil => exact List.forall_mem_nil _
  | cons step rest ih =>
    have hstep := settled_perform h step
    exact List.forall_mem_cons.2 ⟨hstep, ih hstep⟩

/-- **A session works in a directory that is in place**, after each of its steps. -/
theorem placed_outcomes (hroot : ∀ name ∈ root, IsFileName name) (steps : List Step) :
    ∀ o ∈ outcomes steps (State.start root), o.state.surroundings.Placed := fun o ho =>
  (settled_outcomes (settled_start hroot) steps o ho).based.placed

end LinePrompt.Session
