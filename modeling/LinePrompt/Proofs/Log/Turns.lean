/-
A log from one setup to the next.

A log takes turns: it is set up, again and again and by whatever settings, and records are sent to it; in between the
program goes to other directories, the environment changes and time passes. What the log is at any moment is what its
latest setup asked for, by that setup's own arguments and by the home and the directory that it found, and nothing is
left of the setups before (`latest_setup_serves`).

A record's line is then in the file of that setup, once, and no other file has changed (`Delivered`). The one exception
is a line that calls for a roll-over of a file that can not be rolled over (`Barred`): it is dropped.
-/
import LinePrompt.Proofs.Log.Around

namespace LinePrompt.Settings

open LinePrompt.Files

/-- the file for the log depends on nothing around but the home directories -/
theorem logPath_congr {s s' : Surroundings} (h : s'.homeText? = s.homeText?) (c : Option Settings)
    (file : Option String) : logPath s' c file = logPath s c file := by
  have hexpanded : expanded s' = expanded s := by
    funext p
    unfold expanded Surroundings.expandHome?
    rw [h]
  unfold logPath
  rw [hexpanded]

end LinePrompt.Settings

namespace LinePrompt.Log

open LinePrompt.Files Surroundings

variable {s s' : Surroundings} {p : Path} {l : Location} {n : Nat} {number : Option Nat} {line : String}
  {log : Logbook} {r : Record} {text : String}

/-! ## Turns -/

/-- what happens to a log, or around it -/
inductive Turn where
  | setUp (settings : Option Settings) (wanted : Wanted)
  | record (record : Record)
  /-- go to another directory, if it is one -/
  | enter (path : String)
  | setVariable (name : String) (value : Option String)
  | tick (time : String)

/-- a log, and what it finds around it, in a directory whose path goes by names -/
@[ext]
structure Desk where
  log : Logbook
  surroundings : Surroundings
  named : surroundings.Named

/-- whatever the path of a log's file is, the log leaves the program in a directory whose path goes by names -/
theorem stays_named (p : Path) : Stays Named p where
  remove hs h := hs.remove h
  rename hs moves _ h := by
    cases moves with
    | file => exact hs.rename h
    | backup => exact hs.rename h
  openToAdd hs h := by
    obtain ⟨l, -, ⟨-, rfl⟩ | ⟨-, -, rfl⟩⟩ := openToAdd_ok h
    · exact hs
    · exact hs
  append _ _ hs := hs

theorem named_add (hs : s.Named) (log : Logbook) (r : Record) : (log.add r s).2.surroundings.Named :=
  (stays_add (fun _ _ p _ _ => stays_named p) hs r).1

theorem named_setUp (hs : s.Named) (c : Option Settings) (w : Wanted) : (Log.setUp c w s).2.2.Named := by
  unfold Named
  rw [(preserved_setUp c w s).cwd]
  exact hs

def Desk.enter (path : String) (d : Desk) : Desk :=
  match h : d.surroundings.enter (.ofText path) with
  | .ok surroundings => ⟨d.log, surroundings, d.named.enter h⟩
  | .error _ => d

def Turn.take : Turn → Desk → Desk
  | .setUp c w, d =>
    ⟨(Log.setUp c w d.surroundings).2.1, (Log.setUp c w d.surroundings).2.2, named_setUp d.named c w⟩
  | .record r, d =>
    ⟨(d.log.add r d.surroundings).1, (d.log.add r d.surroundings).2.surroundings, named_add d.named d.log r⟩
  | .enter path, d => d.enter path
  | .setVariable name value, d => { d with surroundings := d.surroundings.setVariable name value }
  | .tick time, d => { d with surroundings := { d.surroundings with clock := time } }

theorem surroundings_take_record (r : Record) (d : Desk) :
    ((Turn.record r).take d).surroundings = (d.log.add r d.surroundings).2.surroundings := rfl

theorem Desk.enter_cases (path : String) (d : Desk) :
    d.enter path = d ∨ ∃ s', ∃ h : d.surroundings.enter (.ofText path) = .ok s',
      d.enter path = ⟨d.log, s', d.named.enter h⟩ := by
  unfold Desk.enter
  split
  · rename_i s' hentered
    exact Or.inr ⟨s', hentered, rfl⟩
  · exact Or.inl rfl

def takeAll (turns : List Turn) (d : Desk) : Desk := turns.foldl (fun d t => t.take d) d

/-- a setup, and what it found -/
structure Asked where
  settings : Option Settings
  wanted : Wanted
  found : Surroundings

namespace Asked

/-- the trouble of the setup, if there was any -/
def trouble? (a : Asked) : Option Settings.Trouble := (Log.setUp a.settings a.wanted a.found).1

def threshold (a : Asked) : Nat := Settings.threshold a.settings a.wanted.level

/-- the file that was asked for, by its path in full -/
def Names (a : Asked) (whole : Path) : Prop :=
  ∃ path, Settings.logPath a.found a.settings a.wanted.file = .ok path ∧ whole = path.absolute a.found.cwd

def terminal (a : Asked) : List Handler := if a.wanted.terminal then [.terminal true] else []

end Asked

/-- the setup that is the latest one after a turn -/
def Turn.asked (t : Turn) (d : Desk) (before : Option Asked) : Option Asked :=
  match t with
  | .setUp c w => some ⟨c, w, d.surroundings⟩
  | _ => before

/-- the latest setup among turns, if there is one -/
def latest (before : Option Asked) : List Turn → Desk → Option Asked
  | [], _ => before
  | t :: rest, d => latest (t.asked d before) rest (t.take d)

/-! ## One record -/

/-- A line is at the end of the file at a path, and no other file has changed. -/
inductive Delivered (p : Path) (line : String) (s s' : Surroundings) : Prop where
  | added {l : Location} {n : Nat} (found : s.find p = .ok (l, .file n))
    (fits : (s.tree.content n).size + line.length < sizeLimit) (still : s'.find p = .ok (l, .file n))
    (content : s'.tree.content n = s.tree.content n ++ line.toUTF8)
    (others : ∀ m ≠ n, s'.tree.content m = s.tree.content m)
  /-- the file is the first backup, and the line the first one of a new file -/
  | rolled {l : Location} {n m : Nat} (found : s.find p = .ok (l, .file n))
    (full : sizeLimit ≤ (s.tree.content n).size + line.length) (now : s'.find p = .ok (l, .file m)) (new : n < m)
    (kept : s'.find (backup p 1) = .ok (s.goal (backup p 1), .file n)) (content : s'.tree.content m = line.toUTF8)
    (others : ∀ k ≠ m, s'.tree.content k = s.tree.content k)

/-- a line called for a roll-over of a file that can not be rolled over -/
structure Dropped (p : Path) (line : String) (s s' : Surroundings) : Prop where
  full : ∃ l n, s.find p = .ok (l, .file n) ∧ sizeLimit ≤ (s.tree.content n).size + line.length
  barred : Barred p s
  unchanged : s' = s

theorem content_withFile (s : Surroundings) (l : Location) :
    (withFile s l).tree.content s.tree.next = .empty ∧
      ∀ m ≠ s.tree.next, (withFile s l).tree.content m = s.tree.content m :=
  ⟨Tree.content_setContent _ _ _, fun _ hm => Tree.content_setContent_of_ne _ _ hm⟩

theorem content_append_of_ne {m : Nat} (s : Surroundings) (bytes : ByteArray) (hm : m ≠ n) :
    (s.append n bytes).tree.content m = s.tree.content m :=
  Tree.content_setContent_of_ne _ _ hm

theorem delivered_rolled {moved : Surroundings} (h : p.InFull)
    (hfound : s.find p = .ok (l, .file n)) (full : sizeLimit ≤ (s.tree.content n).size + line.length)
    (rolls : Rolled p s moved) :
    Delivered p line s ((withFile moved (moved.goal p)).append moved.tree.next line.toUTF8) := by
  obtain ⟨above, name, hbeside⟩ := beside_of_find h hfound
  obtain ⟨hl, hstands⟩ := find_eq_ok.1 hfound
  obtain ⟨hl', hfree⟩ := rolls.locate hbeside hl
  have hfirst := beside_backup hbeside 1
  obtain rfl : l = moved.goal p := (locate_eq_ok.1 hl).2.2.trans (goal_of_inFull h moved s)
  have hplace : s.goal (backup p 1) = moved.goal (backup p 1) := goal_of_inFull hfirst.toInFull moved s
  have hnow := find_append (find_withFile hl' hfree) moved.tree.next line.toUTF8
  obtain ⟨hempty, hothers⟩ := content_withFile moved (moved.goal p)
  have hlocated : moved.locate (backup p 1) = .ok (moved.goal (backup p 1)) :=
    locate_goal hbeside hl' hfirst rolls.usable
  have hbackup : moved.find (backup p 1) = .ok (s.goal (backup p 1), .file n) := by
    rw [← hplace] at hlocated
    refine find_eq_ok.2 ⟨hlocated, ?_⟩
    rw [rolls.first, ← (locate_eq_ok.1 hl).2.2, hstands]
  refine .rolled hfound full hnow ?_ ?_ ?_ ?_
  · rw [rolls.next]
    exact Tree.lt_next_of_node? hstands
  · have hkept : (withFile moved (moved.goal p)).find (backup p 1) = .ok (s.goal (backup p 1), .file n) :=
      find_of_keeps (s := moved) rfl (Tree.keeps_create hfree) hbackup
    exact find_append hkept _ _
  · rw [content_append, hempty, ByteArray.empty_append]
  · intro k hk
    rw [content_append_of_ne _ _ hk, hothers k hk]
    unfold Tree.content
    rw [rolls.bytes]

theorem delivered_of_wrote {w : Handler × Effect} (h : p.InFull)
    (hfound : s.find p = .ok (l, .file n)) (hw : Wrote p line s n w) :
    w.2.shown = "" ∧ (w.2.lost = 0 ∧ Delivered p line s w.2.surroundings ∨
      w.2.lost = 1 ∧ Dropped p line s w.2.surroundings) := by
  cases hw with
  | added fits =>
    refine ⟨rfl, Or.inl ⟨rfl, .added hfound fits (find_append hfound _ _) (content_append _ _ _) ?_⟩⟩
    exact fun m hm => content_append_of_ne _ _ hm
  | rolled full rolls => exact ⟨rfl, Or.inl ⟨rfl, delivered_rolled h hfound full rolls⟩⟩
  | dropped full barred => exact ⟨rfl, Or.inr ⟨rfl, ⟨l, n, hfound, full⟩, barred, rfl⟩⟩

/-- a line is not empty: it ends at least -/
theorem utf8ByteSize_lineOf_pos (clock : String) (r : Record) (text : String) :
    0 < (lineOf clock r text).utf8ByteSize := by
  have hend : "\n".utf8ByteSize = 1 := rfl
  unfold lineOf
  rw [String.utf8ByteSize_append, hend]
  exact Nat.succ_pos _

/-- a line that has got to its file has changed something -/
theorem Delivered.changed (h : Delivered p line s s') (hline : 0 < line.utf8ByteSize) : s' ≠ s := by
  rintro rfl
  cases h with
  | added found fits still content others =>
    have hsize := congrArg ByteArray.size content
    rw [ByteArray.size_append] at hsize
    have hline' : line.toUTF8.size = line.utf8ByteSize := rfl
    omega
  | rolled found full now new kept content others =>
    rw [found] at now
    cases now
    exact absurd new (Nat.lt_irrefl _)

/-- what a record comes to in a log with a file, and perhaps the terminal -/
theorem add_opened {terminal : Bool} {w : Handler × Effect}
    (hlog : log.handlers = .file p number :: (if terminal then [.terminal true] else []))
    (hrank : log.effective ≤ r.severity.rank) (hmessage : r.message = .ok text)
    (hw : writeLine p number (lineOf s.clock r text) s = w) :
    log.add r s =
      ({ log with handlers := w.1 :: (if terminal then [.terminal true] else []) },
        ⟨w.2.surroundings, w.2.shown ++ (if terminal then lineOf w.2.surroundings.clock r text else ""),
          w.2.lost⟩) := by
  subst hw
  unfold Logbook.add
  rw [if_neg (Nat.not_lt.2 hrank), hlog]
  cases terminal <;> simp [handleAll, Handler.handle, hmessage, Effect.none]

/-- a line that calls for a roll-over is dropped where there can be none -/
theorem add_unmoved (hlog : log.handlers = [.file p number]) (hrank : log.effective ≤ r.severity.rank)
    (hmessage : r.message = .ok text) (hlong : sizeLimit ≤ text.length) (h : p.InFull)
    (hfound : s.find p = .ok (l, .file n)) (hnumber : Attached p number s) (hstuck : ∀ moved, ¬ Rolled p s moved) :
    (log.add r s).2.surroundings = s := by
  have hhandlers : log.handlers = .file p number :: (if false then [.terminal true] else []) := hlog
  have hline : sizeLimit ≤ (lineOf s.clock r text).length := by
    unfold lineOf
    simp only [String.length_append]
    omega
  have hwrote := wrote_writeLine h hfound hnumber (lineOf s.clock r text)
  rw [add_opened hhandlers hrank hmessage rfl]
  generalize writeLine p number (lineOf s.clock r text) s = w at hwrote ⊢
  cases hwrote with
  | added fits => omega
  | rolled full rolls => exact absurd rolls (hstuck _)
  | dropped full barred => rfl

theorem handleAll_flawed {flaw : Text.Percent.Flaw} (hmessage : r.message = .error flaw) (hs : List Handler) :
    (handleAll r hs s).1 = hs ∧ (handleAll r hs s).2.surroundings = s := by
  induction hs with
  | nil => exact ⟨rfl, rfl⟩
  | cons h rest ih =>
    have hlost : h.handle r s = (h, ⟨s, "", 1⟩) := by cases h <;> simp [Handler.handle, hmessage]
    simp only [handleAll, hlost]
    exact ⟨by rw [ih.1], ih.2⟩

/-- below the threshold, without a message or without a handler nothing changes -/
theorem add_idle
    (h : r.severity.rank < log.effective ∨ (∃ flaw, r.message = .error flaw) ∨ log.handlers = []) :
    (log.add r s).1 = log ∧ (log.add r s).2.surroundings = s := by
  unfold Logbook.add
  split_ifs with hrank hempty
  · exact ⟨rfl, rfl⟩
  · exact ⟨rfl, lastResort_surroundings r s⟩
  · rcases h with h | ⟨flaw, hmessage⟩ | h
    · exact absurd h hrank
    · obtain ⟨hhandlers, hsame⟩ := handleAll_flawed (s := s) hmessage log.handlers
      simp only [hhandlers, hsame, and_self]
    · simp [h] at hempty

theorem take_idle {d : Desk}
    (h : r.severity.rank < d.log.effective ∨ (∃ flaw, r.message = .error flaw) ∨ d.log.handlers = []) :
    (Turn.record r).take d = d := by
  obtain ⟨hlog, hsame⟩ := add_idle (s := d.surroundings) h
  exact Desk.ext hlog hsame

/-! ## The latest setup -/

/-- a log that is as its latest setup has asked for -/
inductive Serves (a : Asked) (log : Logbook) (s : Surroundings) : Prop where
  | opened {whole : Path} {number : Option Nat} {l : Location} {n : Nat} (works : a.trouble? = none)
    (named : a.Names whole) (full : whole.InFull) (is : log = ⟨a.threshold, .file whole number :: a.terminal⟩)
    (stands : s.find whole = .ok (l, .file n)) (attached : Attached whole number s)
  | shut {t : Settings.Trouble} (fails : a.trouble? = some t) (is : log = ⟨a.threshold, []⟩)

/-- a setup that fails leaves a log without handlers -/
theorem setUp_fails {c : Option Settings} {w : Wanted} {t : Settings.Trouble} (h : (setUp c w s).1 = some t) :
    (setUp c w s).2.1 = ⟨Settings.threshold c w.level, []⟩ := by
  unfold setUp at h ⊢
  rcases hpath : Settings.logPath s c w.file with t | path
  · rfl
  · rcases hmake : s.makeDirectories path.parent with ⟨_ | f, made⟩
    · rcases hopen : made.openToAdd (path.absolute made.cwd) with f | ⟨n, opened⟩
      · simp only [hmake, hopen]
      · simp [hpath, hmake, hopen] at h
    · simp only [hmake]

theorem effective_mk (threshold : Nat) (handlers : List Handler) :
    Logbook.effective ⟨threshold, handlers⟩ = if threshold = 0 then Severity.warning.rank else threshold := rfl

/-- a log right after it was set up -/
theorem serves_setUp (hs : s.Named) (c : Option Settings) (w : Wanted) :
    Serves ⟨c, w, s⟩ (Log.setUp c w s).2.1 (Log.setUp c w s).2.2 := by
  rcases hset : Log.setUp c w s with ⟨_ | t, log, s'⟩
  · obtain ⟨path, n, made, hpath, hmake, hopen, rfl⟩ := setUp_ok hset
    obtain ⟨l, hfound⟩ := find_openToAdd hopen
    have hworks : Asked.trouble? ⟨c, w, s⟩ = none := congrArg Prod.fst hset
    exact .opened hworks ⟨path, hpath, rfl⟩ (Settings.inFull_logPath hs hpath) rfl hfound (attached_some hfound)
  · have hfails : (Log.setUp c w s).1 = some t := by rw [hset]
    have hshut := setUp_fails hfails
    rw [hset] at hshut
    exact .shut hfails hshut

/-- a path in full leads where it led, wherever the program has gone -/
theorem find_of_tree (h : p.InFull) (htree : s'.tree = s.tree) : s'.find p = s.find p := by
  unfold find locate
  rw [htree, if_neg h.rooted, if_neg h.rooted]

/-- a log at a desk, and its latest setup if there was one -/
structure Tended (asked : Option Asked) (d : Desk) : Prop where
  fresh : asked = none → d.log.handlers = []
  serves : ∀ a, asked = some a → Serves a d.log d.surroundings

/-- a log that has handlers has a file open, the one its latest setup names -/
theorem Tended.opened {asked : Option Asked} {d : Desk} (h : Tended asked d) (hhandlers : d.log.handlers ≠ []) :
    ∃ a whole number l n, asked = some a ∧ a.Names whole ∧ whole.InFull ∧
      d.log.handlers = .file whole number :: a.terminal ∧ d.surroundings.find whole = .ok (l, .file n) ∧
      Attached whole number d.surroundings := by
  rcases hasked : asked with _ | a
  · exact absurd (h.fresh hasked) hhandlers
  · cases h.serves a hasked with
    | @opened whole number l n works named full hlog stands attached =>
      exact ⟨a, whole, number, l, n, rfl, named, full, congrArg Logbook.handlers hlog, stands, attached⟩
    | shut fails hlog => exact absurd (congrArg Logbook.handlers hlog) hhandlers

theorem Serves.around {a : Asked} (h : Serves a log s) (htree : s'.tree = s.tree) : Serves a log s' := by
  cases h with
  | @opened whole number l n works named full hlog stands attached =>
    have hfind : s'.find whole = s.find whole := find_of_tree full htree
    refine .opened works named full hlog (hfind.trans stands) ?_
    intro m hm
    rw [hfind]
    exact attached m hm
  | shut fails hlog => exact .shut fails hlog

theorem Tended.around {asked : Option Asked} {d d' : Desk} (h : Tended asked d) (hlog : d'.log = d.log)
    (htree : d'.surroundings.tree = d.surroundings.tree) : Tended asked d' := by
  refine ⟨fun hnone => ?_, fun a ha => ?_⟩
  · rw [hlog]
    exact h.fresh hnone
  · rw [hlog]
    exact (h.serves a ha).around htree

/-- a record leaves the log as its setup has asked for -/
theorem Serves.record {a : Asked} (h : Serves a log s) (r : Record) :
    Serves a (log.add r s).1 (log.add r s).2.surroundings := by
  have hidle (hidle : r.severity.rank < log.effective ∨ (∃ flaw, r.message = .error flaw) ∨ log.handlers = []) :
      Serves a (log.add r s).1 (log.add r s).2.surroundings := by
    obtain ⟨hlog, hsame⟩ := add_idle (s := s) hidle
    rw [hlog, hsame]
    exact h
  by_cases hrank : log.effective ≤ r.severity.rank
  · rcases hmessage : r.message with flaw | text
    · exact hidle (Or.inr (Or.inl ⟨flaw, hmessage⟩))
    · cases h with
      | @opened whole number l n works named full hlog stands attached =>
        have hwrote := wrote_writeLine full stands attached (lineOf s.clock r text)
        obtain ⟨number', m, hpath, hstill, hattached⟩ := hwrote.stands full stands
        rw [add_opened (congrArg Logbook.handlers hlog) hrank hmessage rfl]
        refine .opened works named full ?_ hstill hattached
        rw [hlog, hpath]
        rfl
      | shut fails hlog => exact hidle (Or.inr (Or.inr (congrArg Logbook.handlers hlog)))
  · exact hidle (Or.inl (Nat.lt_of_not_le hrank))

/-- one turn keeps a log as its latest setup has asked for -/
theorem Tended.take {asked : Option Asked} {d : Desk} (h : Tended asked d) (t : Turn) :
    Tended (t.asked d asked) (t.take d) := by
  cases t with
  | setUp c w =>
    refine ⟨(fun hnone => nomatch hnone), fun a ha => ?_⟩
    obtain rfl := Option.some.inj ha
    exact serves_setUp d.named c w
  | record r =>
    refine ⟨fun hnone => ?_, fun a ha => (h.serves a ha).record r⟩
    rw [take_idle (Or.inr (Or.inr (h.fresh hnone)))]
    exact h.fresh hnone
  | enter path =>
    show Tended asked (d.enter path)
    rcases d.enter_cases path with hsame | ⟨s', hentered, hdesk⟩
    · rw [hsame]
      exact h
    · rw [hdesk]
      exact h.around rfl (enter_tree hentered)
  | setVariable name value => exact h.around rfl rfl
  | tick time => exact h.around rfl rfl

theorem Tended.takeAll {asked : Option Asked} {d : Desk} (h : Tended asked d) (turns : List Turn) :
    Tended (latest asked turns d) (takeAll turns d) := by
  induction turns generalizing asked d with
  | nil => exact h
  | cons t rest ih => exact ih (h.take t)

/-! ## Every run -/

/-- what a log is, and what it does with its next record, once its latest setup was `a` -/
structure Served (a : Asked) (d : Desk) : Prop where
  /-- its level, or warnings where that comes to none -/
  effective : d.log.effective = if a.threshold = 0 then Severity.warning.rank else a.threshold
  /-- the file and perhaps the terminal if the setup worked, and nothing if it did not -/
  handlers : (∃ t, a.trouble? = some t) ∧ d.log.handlers = [] ∨
    a.trouble? = none ∧ ∃ whole number, a.Names whole ∧ d.log.handlers = .file whole number :: a.terminal
  below : ∀ r, r.severity.rank < d.log.effective → d.log.add r d.surroundings = (d.log, .none d.surroundings)
  shut : ∀ r t, a.trouble? = some t → (d.log.add r d.surroundings).2.surroundings = d.surroundings
  reached : ∀ r text whole, a.trouble? = none → a.Names whole → d.log.effective ≤ r.severity.rank →
    r.message = .ok text →
      (d.log.add r d.surroundings).2.shown =
          (if a.wanted.terminal then lineOf d.surroundings.clock r text else "") ∧
        ((d.log.add r d.surroundings).2.lost = 0 ∧
            Delivered whole (lineOf d.surroundings.clock r text) d.surroundings
              (d.log.add r d.surroundings).2.surroundings ∨
          (d.log.add r d.surroundings).2.lost = 1 ∧
            Dropped whole (lineOf d.surroundings.clock r text) d.surroundings
              (d.log.add r d.surroundings).2.surroundings)
  /-- the file depends on nothing that the setup found but the directory and the homes -/
  own : ∀ s, s.cwd = a.found.cwd → s.homeText? = a.found.homeText? →
    ∀ whole, Asked.Names ⟨a.settings, a.wanted, s⟩ whole ↔ a.Names whole

theorem Asked.Names.unique {a : Asked} {whole whole' : Path} (h : a.Names whole) (h' : a.Names whole') :
    whole' = whole := by
  obtain ⟨path, hpath, rfl⟩ := h
  obtain ⟨path', hpath', rfl⟩ := h'
  rw [Except.ok.inj (hpath'.symm.trans hpath)]

theorem Asked.names_congr (a : Asked) (hcwd : s.cwd = a.found.cwd) (hhome : s.homeText? = a.found.homeText?)
    (whole : Path) : Asked.Names ⟨a.settings, a.wanted, s⟩ whole ↔ a.Names whole := by
  unfold Asked.Names
  rw [Settings.logPath_congr hhome, hcwd]

theorem Serves.served {a : Asked} {d : Desk} (h : Serves a d.log d.surroundings) : Served a d := by
  have hbelow (r : Record) (hr : r.severity.rank < d.log.effective) :
      d.log.add r d.surroundings = (d.log, .none d.surroundings) := if_pos hr
  cases h with
  | @opened whole number l n works named full hlog stands attached =>
    refine ⟨by rw [hlog, effective_mk], Or.inr ⟨works, whole, number, named, by rw [hlog]⟩, hbelow, ?_, ?_,
      fun s hcwd hhome whole => a.names_congr hcwd hhome whole⟩
    · intro r t hfails
      rw [works] at hfails
      cases hfails
    · intro r text whole' _ hnamed hrank hmessage
      obtain rfl := named.unique hnamed
      have hwrote := wrote_writeLine full stands attached (lineOf d.surroundings.clock r text)
      obtain ⟨hshown, hdelivered⟩ := delivered_of_wrote full stands hwrote
      rw [add_opened (congrArg Logbook.handlers hlog) hrank hmessage rfl]
      refine ⟨?_, hdelivered⟩
      show _ ++ _ = _
      rw [hshown, String.empty_append, hwrote.clock]
  | @shut t fails hlog =>
    refine ⟨by rw [hlog, effective_mk], Or.inl ⟨⟨t, fails⟩, by rw [hlog]⟩, hbelow, ?_, ?_,
      fun s hcwd hhome whole => a.names_congr hcwd hhome whole⟩
    · intro r _ _
      exact (add_idle (Or.inr (Or.inr (congrArg Logbook.handlers hlog)))).2
    · intro r text whole works
      rw [fails] at works
      cases works

/-- **A log is what its latest setup asked for.** For every sequence of setups and records, with other directories,
environments and times in between. -/
theorem latest_setup_serves {d : Desk} (hfresh : d.log.handlers = []) (turns : List Turn) {a : Asked}
    (ha : latest none turns d = some a) : Served a (takeAll turns d) := by
  have htended : Tended none d := ⟨fun _ => hfresh, fun a ha => nomatch ha⟩
  have hend := htended.takeAll turns
  exact (hend.serves a ha).served

/-! ### Directories in the way -/

/-- a text of one letter, so many times -/
def repeated (n : Nat) : String := String.ofList (List.replicate n 'x')

theorem length_repeated (n : Nat) : (repeated n).length = n := by
  rw [repeated, String.length_ofList, List.length_replicate]

/-- a log that nothing has been said about, where nothing is -/
def bare : Desk := ⟨.untouched, .bare, List.forall_mem_nil _⟩

/-- a setup that is told the file and nothing else -/
def setUpAt (file : String) : Turn := .setUp none ⟨none, some file, false⟩

theorem take_setUpAt (file : String) (d : Desk) :
    (setUpAt file).take d = ⟨(setUp none ⟨none, some file, false⟩ d.surroundings).2.1,
      (setUp none ⟨none, some file, false⟩ d.surroundings).2.2, named_setUp d.named _ _⟩ :=
  rfl

/-- two setups that make directories in the places of two backups -/
def obstacles : List Turn := [setUpAt "x.1/y", setUpAt "x.2/y"]

/-- what they leave -/
def crowded : Surroundings :=
  { Surroundings.bare with
    tree := ((((Tree.empty.putDirectory ["x.1"]).create ["y", "x.1"]).2.putDirectory ["x.2"]).create ["y", "x.2"]).2 }

/-- the setup of a file that has no place for its backups -/
def hemmedIn : Asked := ⟨none, ⟨none, some "x", false⟩, crowded⟩

theorem logPath_here (s : Surroundings) (parts : List String) (hparts : parts ≠ [])
    (hsteps : ∀ part ∈ parts, part ≠ "" ∧ part ≠ "." ∧ '/' ∉ part.toList)
    (hfile : Path.text ⟨.here, parts⟩ ≠ "") (hhome : s.expandHome? ⟨.here, parts⟩ = some ⟨.here, parts⟩) :
    Settings.logPath s none (some (Path.text ⟨.here, parts⟩)) = .ok ⟨.here, parts⟩ := by
  refine Settings.logPath_given hfile (Path.ofText_text hparts fun part hpart => ?_) hhome none
  obtain ⟨hnonempty, hpoint, hslash⟩ := hsteps part hpart
  exact ⟨hnonempty, hpoint, hslash⟩

theorem threshold_default : Settings.threshold none none = 30 := by
  have hnone : Settings.nonempty? none = none := rfl
  simp only [Settings.threshold, Option.map_none, hnone, Option.or_none, Option.getD_none,
    Settings.thresholdOfName?_warning, Option.getD_some]

theorem takeAll_obstacles :
    takeAll obstacles bare = ⟨⟨30, [.file ⟨.root, ["x.2", "y"]⟩ (some 1)]⟩, crowded, List.forall_mem_nil _⟩ := by
  have hfirst (s : Surroundings) : Settings.logPath s none (some "x.1/y") = .ok ⟨.here, ["x.1", "y"]⟩ :=
    logPath_here s ["x.1", "y"] (by decide) (by decide +kernel) (by decide) rfl
  have hsecond (s : Surroundings) : Settings.logPath s none (some "x.2/y") = .ok ⟨.here, ["x.2", "y"]⟩ :=
    logPath_here s ["x.2", "y"] (by decide) (by decide +kernel) (by decide) rfl
  simp only [takeAll, obstacles, List.foldl, take_setUpAt, setUp, hfirst, hsecond, threshold_default]
  rfl

theorem setUp_hemmedIn :
    setUp none ⟨none, some "x", false⟩ crowded =
        (none, ⟨30, [.file ⟨.root, ["x"]⟩ (some 2)]⟩, withFile crowded ["x"]) ∧
      hemmedIn.Names ⟨.root, ["x"]⟩ := by
  have hown : Settings.logPath crowded none (some "x") = .ok ⟨.here, ["x"]⟩ :=
    logPath_here crowded ["x"] (by decide) (by decide +kernel) (by decide) rfl
  refine ⟨?_, ⟨_, hown, rfl⟩⟩
  simp only [setUp, hown, threshold_default]
  rfl

theorem latest_hemmedIn : latest none (obstacles ++ [setUpAt "x"]) bare = some hemmedIn := by
  show some (Asked.mk none ⟨none, some "x", false⟩ (takeAll obstacles bare).surroundings) = some hemmedIn
  rw [takeAll_obstacles]
  rfl

theorem works_hemmedIn : hemmedIn.trouble? = none := congrArg Prod.fst setUp_hemmedIn.1

/-- three setups, of which the last one counts -/
theorem latest_setup_serves_hemmedIn :
    bare.log.handlers = [] ∧ latest none (obstacles ++ [setUpAt "x"]) bare = some hemmedIn ∧
      hemmedIn.trouble? = none ∧ hemmedIn.Names ⟨.root, ["x"]⟩ ∧
      Served hemmedIn (takeAll (obstacles ++ [setUpAt "x"]) bare) :=
  ⟨rfl, latest_hemmedIn, works_hemmedIn, setUp_hemmedIn.2,
    latest_setup_serves rfl (obstacles ++ [setUpAt "x"]) latest_hemmedIn⟩

theorem takeAll_hemmedIn :
    takeAll (obstacles ++ [setUpAt "x"]) bare =
      ⟨⟨30, [.file ⟨.root, ["x"]⟩ (some 2)]⟩, withFile crowded ["x"], List.forall_mem_nil _⟩ := by
  have hlast : takeAll (obstacles ++ [setUpAt "x"]) bare = (setUpAt "x").take (takeAll obstacles bare) := by
    simp only [takeAll, List.foldl_append, List.foldl_cons, List.foldl_nil]
  rw [hlast, takeAll_obstacles]
  exact Desk.ext (congrArg (·.2.1) setUp_hemmedIn.1) (congrArg (·.2.2) setUp_hemmedIn.1)

theorem beside_oneLetter : Path.Beside ⟨.root, ["x"]⟩ [] "x" := by
  have hname : IsName "x" := ⟨⟨by decide, by decide, by decide⟩, by decide⟩
  exact ⟨⟨by decide, List.forall_mem_singleton.2 hname⟩, rfl⟩

/-- the first backup is a directory, and can not be moved to the second, which is one too -/
theorem stuck_hemmedIn (moved : Surroundings) : ¬ Rolled ⟨.root, ["x"]⟩ (withFile crowded ["x"]) moved := by
  intro rolls
  have hfirst := goal_beside (s := withFile crowded ["x"]) (beside_backup beside_oneLetter 1)
  have hsecond := goal_beside (s := withFile crowded ["x"]) (beside_backup beside_oneLetter 2)
  rcases rolls.clear with hfree | hclear
  · rw [hfirst] at hfree
    cases hfree
  · rw [hsecond] at hclear
    exact hclear rfl

/-- Not every line gets to the file: one that calls for a roll-over does not where directories are in the way. -/
theorem overlong_dropped :
    ¬ ∀ (d : Desk) (turns : List Turn) (a : Asked) (r : Record) (text : String) (whole : Path),
      d.log.handlers = [] → latest none turns d = some a → a.trouble? = none → a.Names whole →
      (takeAll turns d).log.effective ≤ r.severity.rank → r.message = .ok text →
        Delivered whole (lineOf (takeAll turns d).surroundings.clock r text) (takeAll turns d).surroundings
          ((takeAll turns d).log.add r (takeAll turns d).surroundings).2.surroundings := by
  intro hall
  have hreaches : Logbook.effective ⟨30, [.file ⟨.root, ["x"]⟩ (some 2)]⟩ ≤ Severity.error.rank := by decide
  have hstands : (withFile crowded ["x"]).find ⟨.root, ["x"]⟩ = .ok (["x"], .file 2) := by decide +kernel
  -- the message alone is as long as a file may grow
  have hlength : sizeLimit ≤ (repeated sizeLimit).length := (length_repeated sizeLimit).ge
  have hdelivered := hall bare (obstacles ++ [setUpAt "x"]) hemmedIn ⟨.error, "textprompt.a", .ok (repeated sizeLimit)⟩
    (repeated sizeLimit) _ rfl latest_hemmedIn works_hemmedIn setUp_hemmedIn.2
  rw [takeAll_hemmedIn] at hdelivered
  refine (hdelivered hreaches rfl).changed (utf8ByteSize_lineOf_pos _ _ _) ?_
  exact add_unmoved rfl hreaches rfl hlength beside_oneLetter.toInFull hstands (attached_some hstands) stuck_hemmedIn

end LinePrompt.Log
