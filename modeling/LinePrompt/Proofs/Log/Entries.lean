/-
What becomes of records in a log with one file.

Setting up a log opens its one file (`setUp_ok`), and the log keeps to the path of that file, which is open there or not
open at all (`KeptIn`). What a line that is written comes to is told by `Entered`, a constructor for each way: it stands
at the end of the file, as it was or after a roll-over, or something in the way of the file has lost it. A record whose
message could not be formatted is lost before that.

As long as the lines fit in a file that is open, nothing is lost and the file has grown by all of them, in order
(`addAll_fits`).
-/
import LinePrompt.Proofs.Files.Ways

namespace LinePrompt.Files.Surroundings

variable {s s' : Surroundings} {p : Path} {l : Location} {n : Nat}

/-! ## Files that are open -/

/-- a file that was opened is found at its path -/
theorem find_openToAdd (h : s.openToAdd p = .ok (n, s')) : ∃ l, s'.find p = .ok (l, .file n) := by
  obtain ⟨l, hl, ⟨hn, rfl⟩ | ⟨free, rfl, rfl⟩⟩ := openToAdd_ok h
  · exact ⟨l, find_file hl hn⟩
  · have hlocated : ({ s with tree := (s.tree.create l).2 } : Surroundings).locate p = .ok l :=
      locate_of_keeps (s := s) rfl (Tree.keeps_create free) hl
    exact ⟨l, find_file hlocated (Tree.node?_create free)⟩

/-- a file that stands at the path is the one that is opened -/
theorem openToAdd_of_find (h : s.find p = .ok (l, .file n)) : s.openToAdd p = .ok (n, s) := by
  obtain ⟨hl, hn⟩ := find_eq_ok.1 h
  simp only [openToAdd, blame, hl, Except.mapError, bind, Except.bind, hn, pure, Except.pure]

/-- where no directory stands a file can be opened -/
theorem openToAdd_of_locate (hl : s.locate p = .ok l) (hfree : s.tree.node? l ≠ some .directory) :
    ∃ n s', s.openToAdd p = .ok (n, s') := by
  rcases hn : s.tree.node? l with _ | (_ | n)
  · refine ⟨s.tree.next, { s with tree := (s.tree.create l).2 }, ?_⟩
    simp only [openToAdd, blame, hl, Except.mapError, bind, Except.bind, hn]
    rfl
  · exact absurd hn hfree
  · exact ⟨n, s, openToAdd_of_find (find_eq_ok.2 ⟨hl, hn⟩)⟩

/-- bytes at the end of a file leave it where it is -/
theorem find_append (h : s.find p = .ok (l, .file n)) (m : Nat) (bytes : ByteArray) :
    (s.append m bytes).find p = .ok (l, .file n) :=
  find_of_keeps (s := s) rfl (fun _ _ he => he) h

theorem read_append (h : s.find p = .ok (l, .file n)) (bytes : ByteArray) :
    (s.append n bytes).read p = .ok (s.tree.content n ++ bytes) := by
  unfold read blame
  rw [find_append h]
  simp only [Except.mapError, append, Tree.append, Tree.content_setContent]

theorem content_append (s : Surroundings) (n : Nat) (bytes : ByteArray) :
    (s.append n bytes).tree.content n = s.tree.content n ++ bytes := by
  simp only [append, Tree.append, Tree.content_setContent]

end LinePrompt.Files.Surroundings

namespace LinePrompt.Log

open LinePrompt.Files Surroundings

variable {s s' : Surroundings} {path : Path} {number : Option Nat} {log log' : Logbook} {r : Record}
  {text line : String}

/-! ## A log that is set up -/

/-- a log that is set up has the threshold and the file that the settings and what overrides them say -/
theorem setUp_ok {c : Option Settings} {w : Wanted} (h : setUp c w s = (none, log, s')) :
    ∃ path n made, Settings.logPath s c w.file = .ok path ∧ s.makeDirectories path.parent = (none, made) ∧
      made.openToAdd (path.absolute s.cwd) = .ok (n, s') ∧
      log = ⟨Settings.threshold c w.level,
        .file (path.absolute s.cwd) (some n) :: (if w.terminal then [.terminal true] else [])⟩ := by
  unfold setUp at h
  rcases hpath : Settings.logPath s c w.file with t | path
  · simp [hpath] at h
  · rcases hmake : s.makeDirectories path.parent with ⟨_ | f, made⟩
    · have hcwd : made.cwd = s.cwd := by
        have hfurnished := furnished_makeDirectories s path.parent
        rw [hmake] at hfurnished
        exact hfurnished.cwd
      simp only [hpath, hmake, hcwd] at h
      rcases hopen : made.openToAdd (path.absolute s.cwd) with f | ⟨n, opened⟩
      · simp [hopen] at h
      · simp only [hopen, Prod.mk.injEq, true_and] at h
        obtain ⟨rfl, rfl⟩ := h
        exact ⟨path, n, made, rfl, hmake, hopen, rfl⟩
    · simp [hpath, hmake] at h

/-! ## A log that keeps to its file -/

/-- a file is open at its path, or not open -/
def Attached (path : Path) (number : Option Nat) (s : Surroundings) : Prop :=
  ∀ n, number = some n → ∃ l, s.find path = .ok (l, .file n)

/-- the log has one file, and this is its path -/
def KeptIn (path : Path) (log : Logbook) (s : Surroundings) : Prop :=
  ∃ number, log.handlers = [.file path number] ∧ Attached path number s

theorem attached_none (path : Path) (s : Surroundings) : Attached path none s := fun _ h => nomatch h

theorem attached_some {n : Nat} {l : Location} (h : s.find path = .ok (l, .file n)) : Attached path (some n) s := by
  intro m hm
  obtain rfl := Option.some.inj hm
  exact ⟨l, h⟩

theorem keptIn_setUp {c : Option Settings} {level file : Option String}
    (h : setUp c ⟨level, file, false⟩ s = (none, log, s')) :
    ∃ path, Settings.logPath s c file = .ok path ∧ KeptIn (path.absolute s.cwd) log s' := by
  obtain ⟨path, n, made, hpath, -, hopen, rfl⟩ := setUp_ok h
  obtain ⟨l, hfound⟩ := find_openToAdd hopen
  exact ⟨path, hpath, some n, rfl, attached_some hfound⟩

/-- an open file need not be opened -/
theorem opened_eq (h : Attached path number s) : opened path number s = s.openToAdd path := by
  cases number with
  | none => rfl
  | some n =>
    obtain ⟨l, hfound⟩ := h n rfl
    rw [openToAdd_of_find hfound]
    rfl

theorem blocked_of_find {n : Nat} {l : Location} (h : s.find path = .ok (l, .file n)) : blocked s path = false := by
  simp [blocked, isDirectory, h, Except.toOption]

/-! ## Lines -/

/-- what a line for the file comes to: its number afterwards, and the effect -/
inductive Entered (path : Path) (line : String) (s : Surroundings) : Option Nat → Effect → Prop where
  /-- the line is the last one of the file -/
  | added {n : Nat} {opened s' : Surroundings} (opens : s.openToAdd path = .ok (n, opened))
    (fits : (opened.tree.content n).size + line.length < sizeLimit)
    (reads : s'.read path = .ok (opened.tree.content n ++ line.toUTF8)) :
    Entered path line s (some n) ⟨s', "", 0⟩
  /-- the file was rolled over, and the line is the last one of the next file -/
  | rolled {n m : Nat} {opened moved next s' : Surroundings} (opens : s.openToAdd path = .ok (n, opened))
    (full : sizeLimit ≤ (opened.tree.content n).size + line.length) (rolls : rollOver path opened = (none, moved))
    (reopens : moved.openToAdd path = .ok (m, next))
    (reads : s'.read path = .ok (next.tree.content m ++ line.toUTF8)) :
    Entered path line s (some m) ⟨s', "", 0⟩
  /-- the file could not be opened -/
  | shut {f : Fault} (opens : s.openToAdd path = .error f) : Entered path line s none ⟨s, "", 1⟩
  /-- it could not be rolled over -/
  | stuck {n : Nat} {f : Fault} {opened moved : Surroundings} (opens : s.openToAdd path = .ok (n, opened))
    (full : sizeLimit ≤ (opened.tree.content n).size + line.length) (rolls : rollOver path opened = (some f, moved)) :
    Entered path line s none ⟨moved, "", 1⟩
  /-- it was rolled over, and the next one could not be opened -/
  | gone {n : Nat} {f : Fault} {opened moved : Surroundings} (opens : s.openToAdd path = .ok (n, opened))
    (full : sizeLimit ≤ (opened.tree.content n).size + line.length) (rolls : rollOver path opened = (none, moved))
    (reopens : moved.openToAdd path = .error f) : Entered path line s none ⟨moved, "", 1⟩

theorem Entered.shown {e : Effect} (h : Entered path line s number e) : e.shown = "" := by
  cases h <;> rfl

theorem entered_writeLine (h : Attached path number s) (line : String) :
    ∃ number', (writeLine path number line s).1 = .file path number' ∧
      Entered path line s number' (writeLine path number line s).2 ∧
      Attached path number' (writeLine path number line s).2.surroundings := by
  unfold writeLine
  rw [opened_eq h]
  rcases hopen : s.openToAdd path with f | ⟨n, opened⟩
  · exact ⟨none, rfl, .shut hopen, attached_none path _⟩
  · obtain ⟨l, hfound⟩ := find_openToAdd hopen
    have hfull : isFull opened path n line = decide (sizeLimit ≤ (opened.tree.content n).size + line.length) := by
      simp [isFull, blocked_of_find hfound]
    simp only [hfull, decide_eq_true_eq]
    split_ifs with hlong
    · rcases hroll : rollOver path opened with ⟨_ | f, moved⟩
      · rcases hagain : moved.openToAdd path with f | ⟨m, next⟩
        · simp only [hagain]
          exact ⟨none, rfl, .gone hopen hlong hroll hagain, attached_none path _⟩
        · obtain ⟨l', hfound'⟩ := find_openToAdd hagain
          simp only [hagain]
          exact ⟨some m, rfl, .rolled hopen hlong hroll hagain (read_append hfound' _),
            attached_some (find_append hfound' m _)⟩
      · exact ⟨none, rfl, .stuck hopen hlong hroll, attached_none path _⟩
    · exact ⟨some n, rfl, .added hopen (Nat.lt_of_not_le hlong) (read_append hfound _),
        attached_some (find_append hfound n _)⟩

/-! ## Records -/

/-- a record that passes the threshold goes to the one handler -/
theorem add_eq (hlog : log.handlers = [.file path number]) (hrank : log.effective ≤ r.severity.rank) :
    log.add r s = ({ log with handlers := [((Handler.file path number).handle r s).1] },
      ⟨((Handler.file path number).handle r s).2.surroundings, ((Handler.file path number).handle r s).2.shown,
        ((Handler.file path number).handle r s).2.lost⟩) := by
  unfold Logbook.add
  rw [if_neg (Nat.not_lt.2 hrank), hlog]
  simp [handleAll, Effect.none]

/-- A record with a message is entered in the file. -/
theorem entered_add (h : KeptIn path log s) (hrank : log.effective ≤ r.severity.rank)
    (hmessage : r.message = .ok text) :
    ∃ number, Entered path (lineOf s.clock r text) s number (log.add r s).2 := by
  obtain ⟨number, hlog, hattached⟩ := h
  obtain ⟨number', -, hentered, -⟩ := entered_writeLine hattached (lineOf s.clock r text)
  refine ⟨number', ?_⟩
  rw [add_eq hlog hrank]
  simpa only [Handler.handle, hmessage] using hentered

/-- a log keeps to its file, whatever the record -/
theorem KeptIn.add (h : KeptIn path log s) (r : Record) : KeptIn path (log.add r s).1 (log.add r s).2.surroundings := by
  by_cases hrank : log.effective ≤ r.severity.rank
  · obtain ⟨number, hlog, hattached⟩ := h
    rw [add_eq hlog hrank]
    rcases hmessage : r.message with flaw | text
    · refine ⟨number, ?_, ?_⟩
      · simp only [Handler.handle, hmessage]
      · simpa only [Handler.handle, hmessage] using hattached
    · obtain ⟨number', hpath, -, hattached'⟩ := entered_writeLine hattached (lineOf s.clock r text)
      refine ⟨number', ?_, ?_⟩
      · simp only [Handler.handle, hmessage, hpath]
      · simpa only [Handler.handle, hmessage] using hattached'
  · unfold Logbook.add
    rw [if_pos (Nat.lt_of_not_le hrank)]
    exact h

theorem KeptIn.addAll (h : KeptIn path log s) (rs : List Record) :
    KeptIn path (log.addAll rs s).1 (log.addAll rs s).2.surroundings := by
  induction rs generalizing log s with
  | nil => exact h
  | cons r rest ih => exact ih (h.add r)

/-! ## Records one after another -/

theorem threshold_add (b : Logbook) (r : Record) (s : Surroundings) : (b.add r s).1.threshold = b.threshold := by
  unfold Logbook.add
  split_ifs <;> rfl

/-- records leave the threshold as it was set -/
theorem threshold_addAll (b : Logbook) (rs : List Record) (s : Surroundings) :
    (b.addAll rs s).1.threshold = b.threshold := by
  induction rs generalizing b s with
  | nil => rfl
  | cons r rest ih => exact (ih _ _).trans (threshold_add b r s)

theorem effective_addAll (b : Logbook) (rs : List Record) (s : Surroundings) :
    (b.addAll rs s).1.effective = b.effective := by
  unfold Logbook.effective
  rw [threshold_addAll]

/-- nothing of a record for the file is shown on the terminal -/
theorem shown_addAll (h : KeptIn path log s) (rs : List Record) : (log.addAll rs s).2.shown = "" := by
  induction rs generalizing log s with
  | nil => rfl
  | cons r rest ih =>
    have hshown : (log.add r s).2.shown = "" := by
      by_cases hrank : log.effective ≤ r.severity.rank
      · obtain ⟨number, hlog, hattached⟩ := h
        rw [add_eq hlog hrank]
        rcases hmessage : r.message with flaw | text
        · simp only [Handler.handle, hmessage]
        · obtain ⟨number', -, hentered, -⟩ := entered_writeLine hattached (lineOf s.clock r text)
          simp only [Handler.handle, hmessage, hentered.shown]
      · unfold Logbook.add
        rw [if_pos (Nat.lt_of_not_le hrank)]
        rfl
    simp only [Logbook.addAll, hshown, ih (h.add r)]
    rfl

/-- the lines of records, one after another -/
def linesOf (clock : String) : List Record → String
  | [] => ""
  | r :: rest =>
    match r.message with
    | .ok text => lineOf clock r text ++ linesOf clock rest
    | .error _ => linesOf clock rest

theorem length_le_size (cs : List Char) : cs.length ≤ cs.utf8Encode.size := by
  induction cs with
  | nil => exact Nat.zero_le _
  | cons c cs ih =>
    have hc : 0 < [c].utf8Encode.size := by simp [List.utf8Encode_singleton, Char.utf8Size_pos]
    rw [List.utf8Encode_cons, ByteArray.size_append, List.length_cons]
    omega

/-- a text takes at least a byte for each character -/
theorem length_le_utf8ByteSize (t : String) : t.length ≤ t.utf8ByteSize := by
  have h := length_le_size t.toList
  rwa [String.utf8Encode_toList, String.length_toList] at h

/-- a line that fits is added to the file that is open -/
theorem add_fits {n : Nat} {l : Location} (hlog : log.handlers = [.file path (some n)])
    (hfound : s.find path = .ok (l, .file n)) (hrank : log.effective ≤ r.severity.rank)
    (hmessage : r.message = .ok text)
    (hfits : (s.tree.content n).size + (lineOf s.clock r text).length < sizeLimit) :
    log.add r s = (log, ⟨s.append n (lineOf s.clock r text).toUTF8, "", 0⟩) := by
  have hfull : isFull s path n (lineOf s.clock r text) = false := by
    simp [isFull, blocked_of_find hfound, hfits]
  have hwritten : writeLine path (some n) (lineOf s.clock r text) s =
      (.file path (some n), ⟨s.append n (lineOf s.clock r text).toUTF8, "", 0⟩) := by
    simp [writeLine, opened, hfull]
  rw [add_eq hlog hrank]
  simp only [Handler.handle, hmessage, hwritten, ← hlog]

/-- **Lines that fit are kept.** Records with messages are all in the file, one line for each, in their order. -/
theorem addAll_fits {n : Nat} {l : Location} {rs : List Record} (hlog : log.handlers = [.file path (some n)])
    (hfound : s.find path = .ok (l, .file n)) (hranks : ∀ r ∈ rs, log.effective ≤ r.severity.rank)
    (hmessages : ∀ r ∈ rs, ∃ text, r.message = .ok text)
    (hfits : (s.tree.content n).size + (linesOf s.clock rs).utf8ByteSize < sizeLimit) :
    (log.addAll rs s).2.lost = 0 ∧
      (log.addAll rs s).2.surroundings.read path = .ok (s.tree.content n ++ (linesOf s.clock rs).toUTF8) := by
  induction rs generalizing s with
  | nil =>
    refine ⟨rfl, ?_⟩
    show s.read path = .ok (s.tree.content n ++ ByteArray.empty)
    unfold Surroundings.read blame
    rw [hfound]
    simp [Except.mapError]
  | cons r rest ih =>
    obtain ⟨text, hmessage⟩ := hmessages r List.mem_cons_self
    have hlines : linesOf s.clock (r :: rest) = lineOf s.clock r text ++ linesOf s.clock rest := by
      simp only [linesOf, hmessage]
    have hsize : (lineOf s.clock r text).toUTF8.size = (lineOf s.clock r text).utf8ByteSize := rfl
    have hlength := length_le_utf8ByteSize (lineOf s.clock r text)
    rw [hlines, String.utf8ByteSize_append] at hfits
    have hadd := add_fits hlog hfound (hranks r List.mem_cons_self) hmessage (by omega)
    have hcontent := content_append s n (lineOf s.clock r text).toUTF8
    obtain ⟨hlost, hread⟩ := ih (s := s.append n (lineOf s.clock r text).toUTF8) (find_append hfound n _)
      (fun r hr => hranks r (List.mem_cons_of_mem _ hr)) (fun r hr => hmessages r (List.mem_cons_of_mem _ hr)) (by
        rw [hcontent, ByteArray.size_append, hsize]
        show _ + (linesOf s.clock rest).utf8ByteSize < _
        omega)
    have htext : (linesOf s.clock (r :: rest)).toUTF8 =
        (lineOf s.clock r text).toUTF8 ++ (linesOf s.clock rest).toUTF8 := by
      rw [hlines]
      rfl
    simp only [Logbook.addAll, hadd]
    refine ⟨by rw [hlost], ?_⟩
    rw [hread, hcontent, htext, ByteArray.append_assoc]
    rfl

end LinePrompt.Log
