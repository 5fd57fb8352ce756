/-
What a log file and its backups hold.

Whatever is written to one file, by however many setups of the log: the second backup, the first one and the file hold,
in this order, an end of what they held at first and the lines that have been written since, each piece whole and in one
file (`Shelf`). Rolling over moves pieces from one file to the next and drops the oldest ones only; the newest line is
at the end of the file (`files_in_order`).

That is shown for one line after another. With the files goes a history that nothing is dropped from: a line is added at
its end (`Shelf.wrote`), and what the files hold stays an end of it.
-/
import LinePrompt.Proofs.Log.Turns

namespace LinePrompt.Files

/-- where a path in full leads -/
def Path.place (p : Path) : Location := p.parts.reverse

namespace Tree

variable {t t' : Tree} {l m : Location} {n : Nat}

theorem contentAt?_file (h : t.node? l = some (.file n)) : t.contentAt? l = some (t.content n) := by
  simp only [contentAt?, h]

theorem contentAt?_free (h : t.node? l = none) : t.contentAt? l = none := by
  simp only [contentAt?, h]

/-- the same files at two places of two trees that hold the same bytes -/
theorem contentAt?_congr (hnode : t'.node? m = t.node? l) (hbytes : t'.bytes = t.bytes) :
    t'.contentAt? m = t.contentAt? l := by
  simp only [contentAt?, content, hnode, hbytes]

theorem contentAt?_created (hfree : t.node? l = none) : (t.create l).2.contentAt? l = some .empty := by
  rw [contentAt?_file (node?_create hfree)]
  exact congrArg some (content_setContent (t.putFile l) t.next .empty)

end Tree

end LinePrompt.Files

namespace LinePrompt.Log

open LinePrompt.Files Surroundings

variable {s s' moved : Surroundings} {F p : Path} {l m : Location} {n : Nat} {number : Option Nat}
  {above : List String} {name line text : String} {log : Logbook} {r : Record}

/-! ## Pieces -/

/-- a piece of what a file holds: what was there before, or a line -/
inductive Piece where
  | earlier (bytes : ByteArray)
  | line (text : String)

def Piece.bytes : Piece → ByteArray
  | .earlier bytes => bytes
  | .line text => text.toUTF8

/-- pieces, one after another -/
def bytesOf (pieces : List Piece) : ByteArray := pieces.foldr (fun piece rest => piece.bytes ++ rest) .empty

theorem bytesOf_append (front back : List Piece) : bytesOf (front ++ back) = bytesOf front ++ bytesOf back := by
  induction front with
  | nil => exact ByteArray.empty_append.symm
  | cons piece front ih =>
    show piece.bytes ++ bytesOf (front ++ back) = piece.bytes ++ bytesOf front ++ bytesOf back
    rw [ih, ByteArray.append_assoc]

theorem bytesOf_line (text : String) : bytesOf [.line text] = text.toUTF8 := ByteArray.append_empty

/-- what stands at a place holds these pieces and nothing else -/
inductive Holds (s : Surroundings) (l : Location) : List Piece → Prop where
  | nothing (free : s.tree.contentAt? l = none) : Holds s l []
  | file {pieces : List Piece} (stands : s.tree.contentAt? l = some (bytesOf pieces)) : Holds s l pieces

theorem Holds.congr {pieces : List Piece} (h : Holds s l pieces)
    (hsame : s'.tree.contentAt? m = s.tree.contentAt? l) : Holds s' m pieces := by
  cases h with
  | nothing free => exact .nothing (hsame.trans free)
  | file stands => exact .file (hsame.trans stands)

theorem Holds.eq_nil {pieces : List Piece} (h : Holds s l pieces) (hfree : s.tree.contentAt? l = none) :
    pieces = [] := by
  cases h with
  | nothing free => rfl
  | file stands =>
    rw [hfree] at stands
    cases stands

theorem Holds.bytes {pieces : List Piece} {bytes : ByteArray} (h : Holds s l pieces)
    (hstands : s.tree.contentAt? l = some bytes) : bytes = bytesOf pieces := by
  cases h with
  | nothing free =>
    rw [hstands] at free
    cases free
  | file stands => exact Option.some.inj (hstands.symm.trans stands)

/-- the bytes at a place, if there are any -/
def bytesAt (s : Surroundings) (l : Location) : ByteArray := (s.tree.contentAt? l).getD .empty

theorem Holds.bytesAt {pieces : List Piece} (h : Holds s l pieces) : bytesAt s l = bytesOf pieces := by
  unfold Log.bytesAt
  cases h with
  | nothing free => rw [free]; rfl
  | file stands => rw [stands]; rfl

/-- A line that follows something is written only below the limit: the bytes before it, and its characters. -/
def WithinLimit (pieces : List Piece) : Prop :=
  ∀ front text, pieces = front ++ [.line text] → front ≠ [] → (bytesOf front).size + text.length < sizeLimit

theorem withinLimit_one (piece : Piece) : WithinLimit [piece] := by
  intro front text hpieces hfront
  obtain ⟨first, rest, rfl⟩ := List.exists_cons_of_ne_nil hfront
  simp at hpieces

theorem withinLimit_nil : WithinLimit [] := fun front text hpieces _ => by simp at hpieces

theorem withinLimit_added {pieces : List Piece} (h : (bytesOf pieces).size + line.length < sizeLimit) :
    WithinLimit (pieces ++ [.line line]) := by
  intro front text hpieces _
  obtain ⟨rfl, hlast⟩ := List.append_inj' hpieces rfl
  cases hlast
  exact h

/-! ## Three files -/

/-- a file and its backups, and a history that they hold the end of -/
structure Shelf (F : Path) (history : List Piece) (s : Surroundings) (second first current : List Piece) : Prop where
  inSecond : Holds s (backup F 2).place second
  inFirst : Holds s (backup F 1).place first
  inCurrent : Holds s F.place current
  suffix : second ++ first ++ current <:+ history
  within : ∀ pieces ∈ [second, first, current], WithinLimit pieces
  newest : ∀ text, history.getLast? = some (.line text) → current.getLast? = some (.line text)

/-- A file and its backups hold the end of a history. -/
def InOrder (F : Path) (history : List Piece) (s : Surroundings) : Prop :=
  ∃ second first current, Shelf F history s second first current

theorem place_ne (hF : F.Beside above name) (n : Nat) : (backup F n).place ≠ F.place := by
  unfold Path.place
  rw [(beside_backup hF n).parts, hF.parts]
  simpa using backup_name_ne name n

/-- the places of a path in full, whichever root it starts from -/
theorem goal_eq_place (hF : F.Beside above name) (hp : p.InFull) (hparts : p.parts = F.parts) (s : Surroundings) :
    s.goal p = F.place ∧ ∀ n, s.goal (backup p n) = (backup F n).place := by
  have hbeside : p.Beside above name := ⟨hp, hparts.trans hF.parts⟩
  refine ⟨(goal_inFull hp).trans (congrArg List.reverse hparts), fun n => ?_⟩
  rw [goal_beside (beside_backup hbeside n), ← goal_beside (s := s) (beside_backup hF n)]
  exact goal_inFull (beside_backup hF n).toInFull

/-- another file does not change when a new one is opened and written to -/
theorem contentAt?_newFile (hne : m ≠ l) (bytes : ByteArray) :
    ((withFile s l).append s.tree.next bytes).tree.contentAt? m = s.tree.contentAt? m := by
  have hnode : ((withFile s l).append s.tree.next bytes).tree.node? m = s.tree.node? m :=
    Tree.node?_putFile_of_ne s.tree hne
  unfold Tree.contentAt?
  rw [hnode]
  rcases hthere : s.tree.node? m with _ | (_ | k)
  · rfl
  · rfl
  · have hother : k ≠ s.tree.next := Nat.ne_of_lt (Tree.lt_next_of_node? hthere)
    have hcontent := (content_append_of_ne (withFile s l) bytes hother).trans ((content_withFile s l).2 k hother)
    exact congrArg some hcontent

/-- what the three files hold once the file has been rolled over and a line has been written -/
theorem contents_rolled (h : p.Beside above name) (hl : s.locate p = .ok l)
    (rolls : Rolled p s moved) (line : String) :
    let after := (withFile moved (moved.goal p)).append moved.tree.next line.toUTF8
    after.tree.contentAt? (s.goal p) = some line.toUTF8 ∧
      after.tree.contentAt? (s.goal (backup p 1)) = s.tree.contentAt? (s.goal p) ∧
      after.tree.contentAt? (s.goal (backup p 2)) =
        if s.tree.node? (s.goal (backup p 1)) = none then s.tree.contentAt? (s.goal (backup p 2))
        else s.tree.contentAt? (s.goal (backup p 1)) := by
  intro after
  obtain ⟨hl', hfree⟩ := rolls.locate h hl
  have hgoal : moved.goal p = s.goal p := goal_of_inFull h.toInFull s moved
  have hother (n : Nat) : s.goal (backup p n) ≠ moved.goal p := by
    rw [hgoal]
    exact ((goals_beside h (beside_backup h n)).2 (backup_name_ne name n).symm).symm
  refine ⟨?_, ?_, ?_⟩
  · have hnow : after.tree.node? (s.goal p) = some (.file moved.tree.next) := hgoal ▸ Tree.node?_create hfree
    rw [Tree.contentAt?_file hnow]
    show some (((withFile moved (moved.goal p)).append moved.tree.next line.toUTF8).tree.content moved.tree.next) = _
    rw [content_append, (content_withFile moved _).1, ByteArray.empty_append]
  · have hsame : after.tree.contentAt? (s.goal (backup p 1)) = moved.tree.contentAt? (s.goal (backup p 1)) :=
      contentAt?_newFile (hother 1) _
    exact hsame.trans (Tree.contentAt?_congr rolls.first rolls.bytes)
  · have hsecond := rolls.second
    have hsame : after.tree.contentAt? (s.goal (backup p 2)) = moved.tree.contentAt? (s.goal (backup p 2)) :=
      contentAt?_newFile (hother 2) _
    rw [hsame]
    split_ifs with hnone
    · rw [hnone, Option.none_or] at hsecond
      exact Tree.contentAt?_congr hsecond rolls.bytes
    · obtain ⟨e, he⟩ := Option.ne_none_iff_exists'.1 hnone
      rw [he, Option.some_or, ← he] at hsecond
      exact Tree.contentAt?_congr hsecond rolls.bytes

/-- Once the file has been rolled over, what its second backup holds is followed by what the file held. Where there was
no first backup, the second one is as it was. -/
theorem Shelf.moved_on {history second first current : List Piece} (h : Shelf F history s second first current)
    (hsecond : s'.tree.contentAt? (backup F 2).place =
      if s.tree.node? (backup F 1).place = none then s.tree.contentAt? (backup F 2).place
      else s.tree.contentAt? (backup F 1).place) :
    ∃ older, Holds s' (backup F 2).place older ∧ older ++ current <:+ history ∧ WithinLimit older := by
  have hwithin := h.within
  simp only [List.forall_mem_cons] at hwithin
  split_ifs at hsecond with hnone
  · have hempty : first = [] := h.inFirst.eq_nil (Tree.contentAt?_free hnone)
    refine ⟨second, h.inSecond.congr hsecond, ?_, hwithin.1⟩
    have hsuffix := h.suffix
    rwa [hempty, List.append_nil] at hsuffix
  · refine ⟨first, h.inFirst.congr hsecond, ?_, hwithin.2.1⟩
    have hsuffix : second ++ (first ++ current) <:+ history := List.append_assoc second first current ▸ h.suffix
    exact (List.suffix_append second (first ++ current)).trans hsuffix

theorem eq_of_newest {history : List Piece} (h : (history ++ [Piece.line line]).getLast? = some (.line text)) :
    line = text := by
  rw [List.getLast?_concat] at h
  cases h
  rfl

/-- a line added to the file -/
theorem Shelf.added {history second first current : List Piece} (h : Shelf F history s second first current)
    (hothers : ∀ n, s'.tree.contentAt? (backup F n).place = s.tree.contentAt? (backup F n).place)
    (hnow : s'.tree.contentAt? F.place = some (bytesOf current ++ line.toUTF8))
    (hfits : (bytesOf current).size + line.length < sizeLimit) :
    Shelf F (history ++ [.line line]) s' second first (current ++ [.line line]) where
  inSecond := h.inSecond.congr (hothers 2)
  inFirst := h.inFirst.congr (hothers 1)
  inCurrent := .file (by rw [hnow, bytesOf_append, bytesOf_line])
  suffix := by
    rw [← List.append_assoc]
    exact List.suffix_append_self_iff.2 h.suffix
  within := by
    have hwithin := h.within
    simp only [List.forall_mem_cons] at hwithin ⊢
    exact ⟨hwithin.1, hwithin.2.1, withinLimit_added hfits, List.forall_mem_nil _⟩
  newest text hlast := by rw [List.getLast?_concat, eq_of_newest hlast]

/-- the file rolled over, and a line written to a new one -/
theorem Shelf.rolled {history second first current : List Piece} (h : Shelf F history s second first current)
    (hnow : s'.tree.contentAt? F.place = some line.toUTF8)
    (hfirst : s'.tree.contentAt? (backup F 1).place = s.tree.contentAt? F.place)
    (hsecond : s'.tree.contentAt? (backup F 2).place =
      if s.tree.node? (backup F 1).place = none then s.tree.contentAt? (backup F 2).place
      else s.tree.contentAt? (backup F 1).place) :
    InOrder F (history ++ [.line line]) s' := by
  obtain ⟨older, hholds, hsuffix, hwithin⟩ := h.moved_on hsecond
  refine ⟨older, current, [.line line], ?_⟩
  exact {
    inSecond := hholds
    inFirst := h.inCurrent.congr hfirst
    inCurrent := .file (by rw [hnow, bytesOf_line])
    suffix := List.suffix_append_self_iff.2 hsuffix
    within := by
      simp only [List.forall_mem_cons]
      exact ⟨hwithin, h.within current (by simp), withinLimit_one _, List.forall_mem_nil _⟩
    newest := by
      intro text hlast
      rw [eq_of_newest hlast]
      rfl }

/-- a line that is written keeps the files in order, and one that is lost leaves them as they are -/
theorem Shelf.wrote {w : Handler × Effect} {history second first current : List Piece}
    (hF : F.Beside above name) (hp : p.InFull) (hparts : p.parts = F.parts) (hfound : s.find p = .ok (l, .file n))
    (h : Shelf F history s second first current) (hw : Wrote p line s n w) :
    w.2.lost = 0 ∧ InOrder F (history ++ [.line line]) w.2.surroundings ∨ w.2.lost = 1 ∧ w.2.surroundings = s := by
  have hbeside : p.Beside above name := ⟨hp, hparts.trans hF.parts⟩
  obtain ⟨hl, hstands⟩ := find_eq_ok.1 hfound
  obtain ⟨hgoal, hgoals⟩ := goal_eq_place hF hp hparts s
  obtain rfl : l = F.place := (locate_eq_ok.1 hl).2.2.trans hgoal
  have hbytes := h.inCurrent.bytes (Tree.contentAt?_file hstands)
  cases hw with
  | added fits =>
    have hothers (k : Nat) : (s.append n line.toUTF8).tree.contentAt? (backup F k).place =
        s.tree.contentAt? (backup F k).place := Tree.contentAt?_setContent hstands _ (place_ne hF k)
    have hnow : (s.append n line.toUTF8).tree.contentAt? F.place = some (bytesOf current ++ line.toUTF8) := by
      have hthere : (s.append n line.toUTF8).tree.node? F.place = some (.file n) := hstands
      rw [Tree.contentAt?_file hthere, content_append, hbytes]
    exact Or.inl ⟨rfl, _, _, _, h.added hothers hnow (hbytes ▸ fits)⟩
  | rolled full rolls =>
    obtain ⟨hnow, hfirst, hsecond⟩ := contents_rolled hbeside hl rolls line
    rw [hgoals 1, hgoal] at hfirst
    rw [hgoals 1, hgoals 2] at hsecond
    rw [hgoal] at hnow
    exact Or.inl ⟨rfl, h.rolled hnow hfirst hsecond⟩
  | dropped full barred => exact Or.inr ⟨rfl, rfl⟩

/-! ## Turns on one file -/

/-- A setup changes no bytes; at most it makes the file that it names. -/
theorem contentAt?_setUp (c : Option Settings) (w : Wanted) (hs : s.Named) :
    (∀ l, (setUp c w s).2.2.tree.contentAt? l = s.tree.contentAt? l) ∨
      ∃ path, Settings.logPath s c w.file = .ok path ∧
        s.tree.contentAt? (path.absolute s.cwd).place = none ∧
        (setUp c w s).2.2.tree.contentAt? (path.absolute s.cwd).place = some .empty ∧
        ∀ l ≠ (path.absolute s.cwd).place, (setUp c w s).2.2.tree.contentAt? l = s.tree.contentAt? l := by
  unfold setUp
  rcases hpath : Settings.logPath s c w.file with t | path
  · exact Or.inl fun l => rfl
  · have hfurnished := furnished_makeDirectories s path.parent
    rcases hmake : s.makeDirectories path.parent with ⟨_ | f, made⟩
    · rw [hmake] at hfurnished
      have hcwd : made.cwd = s.cwd := hfurnished.cwd
      rcases hopen : made.openToAdd (path.absolute made.cwd) with f | ⟨n, opened⟩
      · simp only [hmake, hopen]
        exact Or.inl hfurnished.contentAt?
      · simp only [hmake, hopen]
        obtain ⟨l, hl, ⟨-, rfl⟩ | ⟨hfree, -, rfl⟩⟩ := openToAdd_ok hopen
        · exact Or.inl hfurnished.contentAt?
        · rw [hcwd] at hl
          have hplace : l = (path.absolute s.cwd).place :=
            (locate_eq_ok.1 hl).2.2.trans (goal_inFull (Settings.inFull_logPath hs hpath))
          subst hplace
          refine Or.inr ⟨path, rfl, ?_, Tree.contentAt?_created hfree, fun m hm => ?_⟩
          · rw [← hfurnished.contentAt?, Tree.contentAt?_free hfree]
          · rw [← hfurnished.contentAt? m]
            exact Tree.contentAt?_create hm
    · rw [hmake] at hfurnished
      simp only [hmake]
      exact Or.inl hfurnished.contentAt?

theorem InOrder.congr {history : List Piece} (h : InOrder F history s)
    (hsame : ∀ l, s'.tree.contentAt? l = s.tree.contentAt? l) : InOrder F history s' := by
  obtain ⟨second, first, current, hshelf⟩ := h
  exact ⟨second, first, current, { hshelf with
    inSecond := hshelf.inSecond.congr (hsame _)
    inFirst := hshelf.inFirst.congr (hsame _)
    inCurrent := hshelf.inCurrent.congr (hsame _) }⟩

theorem InOrder.setUp {history : List Piece} (h : InOrder F history s) (hF : F.Beside above name)
    (hs : s.Named) (c : Option Settings) (w : Wanted)
    (hon : ∀ path, Settings.logPath s c w.file = .ok path → (path.absolute s.cwd).parts = F.parts) :
    InOrder F history (setUp c w s).2.2 := by
  rcases contentAt?_setUp c w hs with hsame | ⟨path, hpath, hfree, hmade, hothers⟩
  · exact h.congr hsame
  · have hplace : (path.absolute s.cwd).place = F.place := congrArg List.reverse (hon path hpath)
    rw [hplace] at hfree hmade hothers
    obtain ⟨second, first, current, hshelf⟩ := h
    obtain rfl := hshelf.inCurrent.eq_nil hfree
    exact ⟨second, first, [], { hshelf with
      inSecond := hshelf.inSecond.congr (hothers _ (place_ne hF 2))
      inFirst := hshelf.inFirst.congr (hothers _ (place_ne hF 1))
      inCurrent := .file hmade }⟩

/-- a turn in which the log is set up for this file, if it is set up at all -/
def Turn.On (F : Path) : Turn → Desk → Prop
  | .setUp c w, d => ∀ path, Settings.logPath d.surroundings c w.file = .ok path →
      (path.absolute d.surroundings.cwd).parts = F.parts
  | _, _ => True

def StayOn (F : Path) : List Turn → Desk → Prop
  | [], _ => True
  | t :: rest, d => t.On F d ∧ StayOn F rest (t.take d)

/-- the line that a turn writes to the file of the log, if it does: none has lost it -/
def Turn.line? : Turn → Desk → Option String
  | .record r, d =>
    if d.log.handlers = [] ∨ r.severity.rank < d.log.effective ∨ (d.log.add r d.surroundings).2.lost ≠ 0 then none
    else r.message.toOption.map (lineOf d.surroundings.clock r)
  | _, _ => none

/-- all lines that turns write -/
def written : List Turn → Desk → List String
  | [], _ => []
  | t :: rest, d => (t.line? d).toList ++ written rest (t.take d)

/-- a log that is tended, always on one file, and the history that this file and its backups hold the end of -/
structure Shelved (F : Path) (asked : Option Asked) (history : List Piece) (d : Desk) : Prop extends
    Tended asked d where
  on : ∀ a whole, asked = some a → a.Names whole → whole.parts = F.parts
  order : InOrder F history d.surroundings

/-- a record without effect leaves all as it is -/
theorem line?_idle {d : Desk}
    (h : r.severity.rank < d.log.effective ∨ (∃ flaw, r.message = .error flaw) ∨ d.log.handlers = []) :
    (Turn.record r).line? d = none ∧ (Turn.record r).take d = d := by
  refine ⟨?_, take_idle h⟩
  show (if _ then _ else _) = none
  split_ifs with hout
  · rfl
  · rcases h with hrank | ⟨flaw, hmessage⟩ | hnone
    · exact absurd (Or.inr (Or.inl hrank)) hout
    · rw [hmessage]
      rfl
    · exact absurd (Or.inl hnone) hout

/-- a record that reaches a file: its line is written, or lost -/
theorem line?_reached {d : Desk} (hhandlers : d.log.handlers ≠ []) (hrank : d.log.effective ≤ r.severity.rank)
    (hmessage : r.message = .ok text) :
    (Turn.record r).line? d =
      if (d.log.add r d.surroundings).2.lost = 0 then some (lineOf d.surroundings.clock r text) else none := by
  show (if _ then _ else _) = _
  rw [hmessage]
  split_ifs with hout hkept hkept
  · rcases hout with hnone | hbelow | hlost
    · exact absurd hnone hhandlers
    · exact absurd hrank (Nat.not_le.2 hbelow)
    · exact absurd hkept hlost
  · rfl
  · rfl
  · exact absurd (Or.inr (Or.inr hkept)) hout

theorem Shelved.record {asked : Option Asked} {history : List Piece} {d : Desk} (hF : F.Beside above name)
    (h : Shelved F asked history d) (r : Record) :
    InOrder F (history ++ ((Turn.record r).line? d).toList.map .line) ((Turn.record r).take d).surroundings := by
  by_cases hidle : r.severity.rank < d.log.effective ∨ (∃ flaw, r.message = .error flaw) ∨ d.log.handlers = []
  · obtain ⟨hline, hsame⟩ := line?_idle hidle
    rw [hline, hsame]
    simpa using h.order
  · rw [not_or, not_or, Nat.not_lt] at hidle
    obtain ⟨hrank, hmessage, hhandlers⟩ := hidle
    obtain ⟨a, whole, number, l, n, hasked, named, full, hlog, stands, attached⟩ := h.toTended.opened hhandlers
    obtain ⟨text, htext⟩ : ∃ text, r.message = .ok text := by
      rcases hr : r.message with flaw | text
      · exact absurd ⟨flaw, hr⟩ hmessage
      · exact ⟨text, rfl⟩
    have hadd := add_opened (s := d.surroundings) hlog hrank htext rfl
    obtain ⟨second, first, current, hshelf⟩ := h.order
    have hwrote := wrote_writeLine full stands attached (lineOf d.surroundings.clock r text)
    rw [line?_reached hhandlers hrank htext, surroundings_take_record, hadd]
    have hon := h.on a whole hasked named
    rcases hshelf.wrote hF full hon stands hwrote with ⟨hlost, horder⟩ | ⟨hlost, hsame⟩
    · rw [if_pos hlost]
      exact horder
    · rw [if_neg (by rw [hlost]; decide)]
      show InOrder F (history ++ []) _
      rw [List.append_nil, hsame]
      exact h.order

/-- one turn keeps a file and its backups in order -/
theorem Shelved.take {asked : Option Asked} {history : List Piece} {d : Desk} (hF : F.Beside above name)
    (h : Shelved F asked history d) (t : Turn) (ht : t.On F d) :
    Shelved F (t.asked d asked) (history ++ (t.line? d).toList.map .line) (t.take d) := by
  have htended := h.toTended.take t
  have hidle (hline : t.line? d = none) (horder : InOrder F history (t.take d).surroundings) :
      InOrder F (history ++ (t.line? d).toList.map .line) (t.take d).surroundings := by
    rw [hline]
    simpa using horder
  cases t with
  | setUp c w =>
    refine ⟨htended, ?_, hidle rfl (h.order.setUp hF d.named c w ht)⟩
    rintro a whole ha ⟨path, hpath, rfl⟩
    obtain rfl := Option.some.inj ha
    exact ht path hpath
  | record r => exact ⟨htended, h.on, h.record hF r⟩
  | enter path =>
    refine ⟨htended, h.on, hidle rfl ?_⟩
    show InOrder F history (d.enter path).surroundings
    rcases d.enter_cases path with hsame | ⟨s', hentered, hdesk⟩
    · rw [hsame]
      exact h.order
    · rw [hdesk]
      exact h.order.congr fun l => by rw [enter_tree hentered]
  | setVariable name value => exact ⟨htended, h.on, hidle rfl (h.order.congr fun l => rfl)⟩
  | tick time => exact ⟨htended, h.on, hidle rfl (h.order.congr fun l => rfl)⟩

theorem Shelved.takeAll {asked : Option Asked} {history : List Piece} {d : Desk} (hF : F.Beside above name)
    (h : Shelved F asked history d) (turns : List Turn) (hon : StayOn F turns d) :
    Shelved F (latest asked turns d) (history ++ (written turns d).map .line) (takeAll turns d) := by
  induction turns generalizing asked history d with
  | nil =>
    show Shelved F asked (history ++ []) d
    rw [List.append_nil]
    exact h
  | cons t rest ih =>
    obtain ⟨ht, hrest⟩ := hon
    have hnext := ih (h.take hF t ht) hrest
    simp only [written, List.map_append]
    rwa [← List.append_assoc]

/-! ## Every run -/

/-- what stands at a place before anything is written: one piece, or none if there is no file -/
def earlierAt (s : Surroundings) (l : Location) : List Piece := (s.tree.contentAt? l).toList.map .earlier

/-- what a file and its backups hold before anything is written -/
def earlier (F : Path) (s : Surroundings) : List Piece :=
  earlierAt s (backup F 2).place ++ earlierAt s (backup F 1).place ++ earlierAt s F.place

theorem holds_earlierAt (s : Surroundings) (l : Location) :
    Holds s l (earlierAt s l) ∧ WithinLimit (earlierAt s l) ∧ ∀ text, .line text ∉ earlierAt s l := by
  unfold earlierAt
  rcases hstands : s.tree.contentAt? l with _ | bytes
  · exact ⟨.nothing hstands, withinLimit_nil, fun _ => List.not_mem_nil⟩
  · refine ⟨.file ?_, withinLimit_one _, fun text => by simp⟩
    rw [hstands]
    exact congrArg some ByteArray.append_empty.symm

theorem inOrder_earlier (F : Path) (s : Surroundings) : InOrder F (earlier F s) s := by
  obtain ⟨hsecond, htwo, hnot₂⟩ := holds_earlierAt s (backup F 2).place
  obtain ⟨hfirst, hone, hnot₁⟩ := holds_earlierAt s (backup F 1).place
  obtain ⟨hcurrent, hnow, hnot⟩ := holds_earlierAt s F.place
  refine ⟨_, _, _, hsecond, hfirst, hcurrent, List.suffix_refl _, ?_, ?_⟩
  · simp only [List.forall_mem_cons]
    exact ⟨htwo, hone, hnow, List.forall_mem_nil _⟩
  · intro text hlast
    have hmem := List.mem_of_getLast? hlast
    simp only [earlier, List.mem_append] at hmem
    rcases hmem with (hmem | hmem) | hmem
    · exact absurd hmem (hnot₂ text)
    · exact absurd hmem (hnot₁ text)
    · exact absurd hmem (hnot text)

/-- the bytes of the three files are the end of the bytes of the history -/
theorem InOrder.bytes {history : List Piece} (h : InOrder F history s) :
    ∃ gone, bytesOf history =
      gone ++ (bytesAt s (backup F 2).place ++ bytesAt s (backup F 1).place ++ bytesAt s F.place) := by
  obtain ⟨second, first, current, hshelf⟩ := h
  obtain ⟨gone, rfl⟩ := hshelf.suffix
  refine ⟨bytesOf gone, ?_⟩
  rw [hshelf.inSecond.bytesAt, hshelf.inFirst.bytesAt, hshelf.inCurrent.bytesAt]
  simp only [bytesOf_append]

/-- **What is written to a file is there in order.** After any run in which the log is set up for this file only, the
file and its backups hold the end of what they held at first and all lines that were written: the pieces whole, each in
one file, the newest line at the end of the file, and a line behind another piece only below the limit. A record that
reaches the log is written, unless its line calls for a roll-over of a file that can not be rolled over. -/
theorem files_in_order {d : Desk} (hfresh : d.log.handlers = []) (hF : F.Beside above name)
    (turns : List Turn) (hon : StayOn F turns d) :
    InOrder F (earlier F d.surroundings ++ (written turns d).map .line) (takeAll turns d).surroundings ∧
      (∃ gone, bytesOf (earlier F d.surroundings ++ (written turns d).map .line) =
        gone ++ (bytesAt (takeAll turns d).surroundings (backup F 2).place ++
          bytesAt (takeAll turns d).surroundings (backup F 1).place ++
          bytesAt (takeAll turns d).surroundings F.place)) ∧
      ∀ r text, (takeAll turns d).log.handlers ≠ [] → (takeAll turns d).log.effective ≤ r.severity.rank →
        r.message = .ok text →
          (Turn.record r).line? (takeAll turns d) = some (lineOf (takeAll turns d).surroundings.clock r text) ∨
            ∃ whole, whole.parts = F.parts ∧
              Dropped whole (lineOf (takeAll turns d).surroundings.clock r text) (takeAll turns d).surroundings
                ((Turn.record r).take (takeAll turns d)).surroundings := by
  have hstart : Shelved F none (earlier F d.surroundings) d :=
    ⟨⟨fun _ => hfresh, (fun a ha => nomatch ha)⟩, (fun a whole ha => nomatch ha), inOrder_earlier F d.surroundings⟩
  have hend := hstart.takeAll hF turns hon
  refine ⟨hend.order, hend.order.bytes, fun r text hhandlers hrank hmessage => ?_⟩
  obtain ⟨a, whole, number, l, n, hasked, named, full, hlog, stands, attached⟩ := hend.toTended.opened hhandlers
  have hwrote := wrote_writeLine full stands attached (lineOf (takeAll turns d).surroundings.clock r text)
  have hadd := add_opened (s := (takeAll turns d).surroundings) hlog hrank hmessage rfl
  rw [line?_reached hhandlers hrank hmessage, surroundings_take_record, hadd]
  rcases (delivered_of_wrote full stands hwrote).2 with ⟨hkept, -⟩ | ⟨-, hdropped⟩
  · exact Or.inl (if_pos hkept)
  · exact Or.inr ⟨whole, hend.on a whole hasked named, hdropped⟩

/-! ### A name without room -/

theorem utf8ByteSize_repeated (n : Nat) : (repeated n).utf8ByteSize = n := by
  rw [repeated, String.utf8ByteSize_ofList]
  induction n with
  | zero => rfl
  | succ n ih =>
    have hone : Char.utf8Size 'x' = 1 := rfl
    rw [List.replicate_succ, String.utf8Len_cons, ih, hone]

theorem mem_repeated {c : Char} (h : c ∈ (repeated n).toList) : c = 'x' := by
  rw [repeated, String.toList_ofList] at h
  exact List.eq_of_mem_replicate h

theorem isName_repeated (h : 3 ≤ n) : IsName (repeated n) := by
  have hshort {text : String} (htext : text.length < 3) : repeated n ≠ text := by
    rintro rfl
    rw [length_repeated] at htext
    omega
  refine ⟨⟨hshort (by decide), hshort (by decide), fun hslash => ?_⟩, hshort (by decide)⟩
  exact absurd (mem_repeated hslash) (by decide)

theorem beside_repeated (h : 3 ≤ n) : Path.Beside ⟨.root, [repeated n]⟩ [] (repeated n) :=
  ⟨⟨(fun horigin => nomatch horigin), List.forall_mem_singleton.2 (isName_repeated h)⟩, rfl⟩

/-- a file can not be rolled over if its name has no room for a backup's -/
theorem stuck_of_long (h : p.Beside above name) (hlong : Tree.nameLimit < name.utf8ByteSize + 2) :
    ¬ Rolled p s moved := by
  intro rolls
  have hpart : name ++ "." ++ toString 1 ∈ (backup p 1).parts := by
    rw [(beside_backup h 1).parts]
    exact List.mem_append_right _ List.mem_cons_self
  have hpoint : ".".utf8ByteSize = 1 := rfl
  have hdigit : (toString 1).utf8ByteSize = 1 := rfl
  refine rolls.usable (.name hpart ?_)
  rw [String.utf8ByteSize_append, String.utf8ByteSize_append, hpoint, hdigit]
  exact hlong

theorem logPath_repeated (h : 3 ≤ n) (s : Surroundings) :
    Settings.logPath s none (some (repeated n)) = .ok ⟨.here, [repeated n]⟩ := by
  have hname := isName_repeated h
  have htext : Path.text ⟨.here, [repeated n]⟩ = repeated n := by
    simp [Path.text, Path.originText, String.intercalate_singleton]
  have hhome : s.expandHome? ⟨.here, [repeated n]⟩ = some ⟨.here, [repeated n]⟩ := by
    have htilde : (repeated n).toList.head? ≠ some '~' := by
      intro hhead
      exact absurd (mem_repeated (List.mem_of_head? hhead)) (by decide)
    simp only [expandHome?, if_neg htilde]
  have hpath := logPath_here s [repeated n] (List.cons_ne_nil _ _)
    (List.forall_mem_singleton.2 ⟨hname.nonempty, hname.no_point, hname.slash⟩) (htext ▸ hname.nonempty) hhome
  rwa [htext] at hpath

theorem absolute_repeated (h : 3 ≤ n) : (⟨.here, [repeated n]⟩ : Path).absolute [] = ⟨.root, [repeated n]⟩ := by
  have hcollapse := collapse_names [] (List.forall_mem_singleton.2 (isName_repeated h))
  simp only [Path.absolute, Path.ofLocation, hcollapse]
  rfl

/-- nothing is in the way of a file whose name is not too long -/
theorem clear_repeated (h : 3 ≤ n) (hn : n ≤ Tree.nameLimit) : ¬ Obstacle bare.surroundings ⟨.here, [repeated n]⟩ := by
  have hgoal : bare.surroundings.goal ⟨.here, [repeated n]⟩ = [repeated n] :=
    collapse_names [] (List.forall_mem_singleton.2 (isName_repeated h))
  have hway : bare.surroundings.way (Path.parent ⟨.here, [repeated n]⟩) = [[]] := rfl
  have htext : (⟨.root, [repeated n]⟩ : Path).text = "/" ++ repeated n := by
    simp [Path.text, Path.originText, String.intercalate_singleton]
  have hslash : "/".utf8ByteSize = 1 := rfl
  intro hobstacle
  cases hobstacle with
  | barred barred =>
    rcases barred with ⟨m, hm, k, hfile⟩ | hunusable
    · rw [hway, List.mem_singleton] at hm
      subst hm
      cases hfile
    · have hfound : bare.surroundings.locate ⟨.here, []⟩ = .ok [] := by decide +kernel
      exact (locate_eq_ok.1 hfound).1 hunusable
  | directory stands =>
    rw [hgoal] at stands
    cases stands
  | circle back =>
    rw [hgoal, hway, List.mem_singleton] at back
    cases back
  | unusable unusable =>
    have habsolute : (⟨.here, [repeated n]⟩ : Path).absolute bare.surroundings.cwd = ⟨.root, [repeated n]⟩ :=
      absolute_repeated h
    rw [habsolute] at unusable
    cases unusable with
    | nullByte holds =>
      rw [htext, String.toList_append, List.mem_append] at holds
      rcases holds with holds | holds
      · exact absurd holds (by decide)
      · exact absurd (mem_repeated holds) (by decide)
    | long long =>
      rw [htext, String.utf8ByteSize_append, hslash, utf8ByteSize_repeated] at long
      have hlimits : 1 + Tree.nameLimit ≤ pathLimit := by decide
      omega
    | name part long =>
      rw [List.mem_singleton.1 part, utf8ByteSize_repeated] at long
      omega

/-- one setup opens the file, and all turns of such a run are on it -/
theorem takeAll_repeated (h : 3 ≤ n) (hn : n ≤ Tree.nameLimit) :
    ∃ number s', ∃ named : s'.Named,
      takeAll [setUpAt (repeated n)] bare = ⟨⟨30, [.file ⟨.root, [repeated n]⟩ (some number)]⟩, s', named⟩ ∧
      s'.find ⟨.root, [repeated n]⟩ = .ok ([repeated n], .file number) := by
  have hgoal : bare.surroundings.goal ⟨.here, [repeated n]⟩ = [repeated n] :=
    collapse_names [] (List.forall_mem_singleton.2 (isName_repeated h))
  have habsolute : (⟨.here, [repeated n]⟩ : Path).absolute bare.surroundings.cwd = ⟨.root, [repeated n]⟩ :=
    absolute_repeated h
  obtain ⟨number, s', hset, hfound⟩ := setUp_opens (c := none) (w := ⟨none, some (repeated n), false⟩)
    (Tree.grounded_root bare.surroundings.tree) (logPath_repeated h bare.surroundings) (clear_repeated h hn)
  rw [habsolute] at hset hfound
  rw [hgoal] at hfound
  rw [threshold_default] at hset
  have hnamed := named_setUp bare.named none ⟨none, some (repeated n), false⟩
  rw [hset] at hnamed
  exact ⟨number, s', hnamed, Desk.ext (congrArg (·.2.1) hset) (congrArg (·.2.2) hset), hfound⟩

theorem stayOn_repeated (h : 3 ≤ n) (r : Record) :
    StayOn ⟨.root, [repeated n]⟩ [setUpAt (repeated n), .record r] bare := by
  refine ⟨fun path hpath => ?_, trivial, trivial⟩
  rw [logPath_repeated h] at hpath
  obtain rfl := Except.ok.inj hpath
  exact congrArg Path.parts (absolute_repeated h)

theorem contentAt?_bare (l : Location) : bare.surroundings.tree.contentAt? l = none := by
  unfold Tree.contentAt? Tree.node?
  split_ifs <;> rfl

theorem earlier_bare (F : Path) : earlier F bare.surroundings = [] := by
  simp only [earlier, earlierAt, contentAt?_bare]
  rfl

/-- a short record to a file whose name is as long as a name may be -/
theorem files_in_order_longest :
    bare.log.handlers = [] ∧ Path.Beside ⟨.root, [repeated 255]⟩ [] (repeated 255) ∧
      StayOn ⟨.root, [repeated 255]⟩ [setUpAt (repeated 255), .record ⟨.error, "textprompt.a", .ok "b"⟩] bare ∧
      InOrder ⟨.root, [repeated 255]⟩
        ((written [setUpAt (repeated 255), .record ⟨.error, "textprompt.a", .ok "b"⟩] bare).map .line)
        (takeAll [setUpAt (repeated 255), .record ⟨.error, "textprompt.a", .ok "b"⟩] bare).surroundings := by
  have hbeside := beside_repeated (n := 255) (by decide)
  have hon := stayOn_repeated (n := 255) (by decide) ⟨.error, "textprompt.a", .ok "b"⟩
  have horder := (files_in_order rfl hbeside _ hon).1
  rw [earlier_bare, List.nil_append] at horder
  exact ⟨rfl, hbeside, hon, horder⟩

/-- what holds nothing does not end with a line -/
theorem InOrder.not_line (h : InOrder F [] s) (hline : 0 < line.utf8ByteSize) : ¬ InOrder F [.line line] s := by
  rintro ⟨second, first, current, hshelf⟩
  obtain ⟨second', first', current', hempty⟩ := h
  obtain rfl : current' = [] := (List.append_eq_nil_iff.1 (List.suffix_nil.1 hempty.suffix)).2
  have hlast := hshelf.newest line rfl
  obtain ⟨front, rfl⟩ := List.getLast?_eq_some_iff.1 hlast
  have hbytes : bytesOf (front ++ [.line line]) = bytesOf [] :=
    hshelf.inCurrent.bytesAt.symm.trans hempty.inCurrent.bytesAt
  have hsize := congrArg ByteArray.size hbytes
  rw [bytesOf_append, bytesOf_line, ByteArray.size_append] at hsize
  have hline' : line.toUTF8.size = line.utf8ByteSize := rfl
  have hnone : (bytesOf []).size = 0 := rfl
  omega

/-- a record is left out whose line calls for a roll-over of a file with a name that is too long for that -/
theorem take_overlong {number : Nat} (hname : 3 ≤ n) (hlong : Tree.nameLimit < n + 2)
    (hfound : s.find ⟨.root, [repeated n]⟩ = .ok (l, .file number)) (hreaches : 30 ≤ r.severity.rank)
    (hmessage : r.message = .ok text) (htext : sizeLimit ≤ text.length) (hs : s.Named) :
    ((Turn.record r).take ⟨⟨30, [.file ⟨.root, [repeated n]⟩ (some number)]⟩, s, hs⟩).surroundings = s := by
  have hbeside := beside_repeated hname
  have hstuck (moved : Surroundings) : ¬ Rolled ⟨.root, [repeated n]⟩ s moved :=
    stuck_of_long hbeside (by rwa [utf8ByteSize_repeated])
  exact add_unmoved rfl hreaches hmessage htext hbeside.toInFull hfound (attached_some hfound) hstuck

/-- Not every line gets into the files: one that calls for a roll-over does not where a backup's name is too long. -/
theorem overlong_left_out :
    ¬ ∀ (d : Desk) (F : Path) (above : List String) (name : String) (turns : List Turn) (r : Record) (text : String),
      d.log.handlers = [] → F.Beside above name →
      (∀ n, d.surroundings.tree.node? (backup F n).place ≠ some .directory) → StayOn F turns d →
      (takeAll turns d).log.handlers ≠ [] → (takeAll turns d).log.effective ≤ r.severity.rank →
      r.message = .ok text →
        InOrder F
          (earlier F d.surroundings ++ (written turns d).map .line ++
            [.line (lineOf (takeAll turns d).surroundings.clock r text)])
          ((Turn.record r).take (takeAll turns d)).surroundings := by
  intro hall
  have hbeside := beside_repeated (n := 255) (by decide)
  have hon : StayOn ⟨.root, [repeated 255]⟩ [setUpAt (repeated 255)] bare :=
    ⟨(stayOn_repeated (n := 255) (by decide) ⟨.error, "textprompt.a", .ok ""⟩).1, trivial⟩
  have hfree (n : Nat) : bare.surroundings.tree.node? (backup ⟨.root, [repeated 255]⟩ n).place ≠ some .directory := by
    unfold Path.place
    rw [(beside_backup hbeside n).parts]
    intro hdirectory
    cases hdirectory
  have hempty := (files_in_order rfl hbeside _ hon).1
  have hlast := hall bare _ _ _ _ ⟨.error, "textprompt.a", .ok (repeated sizeLimit)⟩ (repeated sizeLimit)
    rfl hbeside hfree hon
  have hnothing : written [setUpAt (repeated 255)] bare = [] := rfl
  obtain ⟨number, s', hnamed, hdesk, hfound⟩ := takeAll_repeated (n := 255) (by decide) (by decide)
  have hreaches : Logbook.effective ⟨30, [.file ⟨.root, [repeated 255]⟩ (some number)]⟩ ≤ Severity.error.rank := by
    rw [effective_mk]
    decide
  rw [earlier_bare, hnothing, hdesk] at hempty hlast
  have hline := hlast (List.cons_ne_nil _ _) hreaches rfl
  rw [take_overlong (by decide) (by decide) hfound (by decide) rfl (length_repeated sizeLimit).ge hnamed] at hline
  exact hempty.not_line (utf8ByteSize_lineOf_pos _ _ _) hline

end LinePrompt.Log
