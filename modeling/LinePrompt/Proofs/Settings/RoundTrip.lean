/-
Settings saved and loaded again.

The text of a settings file has a line for each entry, in one of three forms; read back, the lines are the entries they
were written for (`parse_lines`). So settings that could be saved to a path are loaded from it as they were, with the
path as their source: `load_save`.
-/
import LinePrompt.Proofs.Settings.Loading
import LinePrompt.Proofs.Yaml.Lines

namespace LinePrompt.Settings

open LinePrompt.Files LinePrompt.Yaml Surroundings

/-! ## The text of a settings file -/

/-- the text of a truth value -/
def boolText (b : Bool) : String := if b then "true" else "false"

/-- the entries of a settings file, by key, type and text; the file for the log is left out if there is none -/
def writtenEntries (label : String) (escape : Bool) (level : String) (file : Option String) :
    List (List Char × Tag × List Char) :=
  [("default_cancel_label".toList, .text, label.toList), ("escape_dismisses".toList, .bool, (boolText escape).toList),
    ("log_level".toList, .text, level.toList)] ++ (file.map fun f => ("log_file".toList, Tag.text, f.toList)).toList

/-- what stands for the file for the log -/
def fileItem (file : Option String) : Item := .scalar ((file.map Scalar.text).getD .null)

variable {c : Settings} {label level : String} {escape : Bool} {file : Option String}

/-- the keys of a settings file -/
def keys : List String := ["default_cancel_label", "escape_dismisses", "log_level", "log_file"]

theorem isEntry_written (label : String) (escape : Bool) (level : String) (file : Option String) :
    ∀ e ∈ writtenEntries label escape level file, IsEntry e := by
  have hname : ∀ key ∈ keys, IsName key.toList ∧ key.toList.length ≤ 100 ∧
      Printer.formFor .text key.toList = .plain := by
    decide
  have hkeys : ∀ e ∈ writtenEntries label escape level file, ∃ key ∈ keys, e.1 = key.toList := by
    cases file <;> simp [writtenEntries, keys]
  intro e he
  obtain ⟨key, hkey, heq⟩ := hkeys e he
  obtain ⟨hn, hshort, hplain⟩ := hname key hkey
  refine ⟨heq ▸ hn, heq ▸ hshort, heq ▸ hplain, ?_⟩
  simp only [writtenEntries, List.mem_append, List.mem_cons, List.not_mem_nil, or_false, Option.mem_toList,
    Option.map_eq_some_iff] at he
  rcases he with (rfl | rfl | rfl) | ⟨f, -, rfl⟩
  · exact Or.inl rfl
  · refine Or.inr ⟨rfl, ?_⟩
    cases escape
    · exact Or.inr rfl
    · exact Or.inl rfl
  · exact Or.inl rfl
  · exact Or.inl rfl

/-- a mapping of scalars needs no anchor -/
theorem anchored_scalars {n : Nat} {entries : List (Item × Item)} {cells : List (Nat × Cell)}
    (h : ∀ e ∈ entries, ∃ k v, e = (.scalar k, .scalar v)) :
    Printer.anchored ⟨(n, .mapping entries) :: cells, .cell n⟩ = [] := by
  have hwalk : ∀ (v : Value) (bound : Nat) (met : List Nat),
      (Printer.children (.mapping entries)).foldl (Printer.walk v (bound + 1)) met = met := by
    intro v bound met
    induction entries with
    | nil => rfl
    | cons e rest ih =>
      obtain ⟨k, x, rfl⟩ := h e List.mem_cons_self
      exact ih fun e he => h e (List.mem_cons_of_mem _ he)
  simp only [Printer.anchored, List.length_cons, Printer.walk, List.contains_nil, Bool.false_eq_true, if_false,
    Value.cell?, List.lookup_cons, beq_self_eq_true, Option.map_some, Option.getD_some, hwalk]
  rfl

/-- the blocks of the file are those of its entries -/
theorem ofValue_document (cells : List (Nat × Cell)) (source : Option String) :
    Printer.Block.ofValue (document ⟨label, escape, level, ⟨cells, fileItem file⟩, source⟩) =
      .ok (.mapping none .mapping ((writtenEntries label escape level file).flatMap blocks)) := by
  have hanchored : Printer.anchored (document ⟨label, escape, level, ⟨cells, fileItem file⟩, source⟩) = [] := by
    refine anchored_scalars ?_
    intro e he
    cases file <;> simp [entries, fileItem, Value.ofText] at he <;> rcases he with rfl | rfl | rfl | rfl <;>
      exact ⟨_, _, rfl⟩
  rw [Printer.Block.ofValue, hanchored]
  generalize hn : (cells.map (·.1)).foldl max 0 + 1 = n
  cases file <;> cases escape <;>
  · simp only [document, fileItem, hn, List.length_cons, Printer.blockOf, List.contains_nil, Bool.false_eq_true,
      if_false, Value.cell?, List.lookup_cons, beq_self_eq_true]
    rfl

/-- the text of a settings file is made of lines for its entries -/
theorem print_eq (label : String) (escape : Bool) (level : String) (file : Option String) (cells : List (Nat × Cell))
    (source : Option String) :
    ∃ ls : List Line, ls.map Line.entry = writtenEntries label escape level file ∧ (∀ l ∈ ls, l.Sound) ∧
      print ⟨label, escape, level, ⟨cells, fileItem file⟩, source⟩ = .ok (String.ofList (ls.flatMap Line.text)) := by
  obtain ⟨ls, hentries, hsound, hink⟩ := exists_lines (isEntry_written label escape level file) .start rfl
  refine ⟨ls, hentries, hsound, ?_⟩
  have hroot :
      Printer.writeRoot (.mapping none .mapping ((writtenEntries label escape level file).flatMap blocks)) .start =
        Printer.writeEntries 0 ((writtenEntries label escape level file).flatMap blocks) .start := rfl
  have hstart : (Printer.Pen.start.indent 0).ink = [] := rfl
  simp only [print, Value.print, ofValue_document, bind, Except.bind, pure, Except.pure, hroot, Printer.Pen.written,
    hink, hstart, List.append_nil, List.reverse_reverse]

/-! ## The text read back -/

/-- the value of a settings file -/
def readValue (label : String) (escape : Bool) (level : String) (file : Option String) : Value :=
  ⟨[(0, .mapping ([(.scalar (.text "default_cancel_label"), .scalar (.text label)),
      (.scalar (.text "escape_dismisses"), .scalar (.bool escape)),
      (.scalar (.text "log_level"), .scalar (.text level))] ++
      (file.map fun f => (Item.scalar (.text "log_file"), Item.scalar (.text f))).toList)), (0, .mapping [])], .cell 0⟩

/-- the graph of a settings file's text is filled with its value -/
theorem ofGraph_lines {ls : List Line} (hentries : ls.map Line.entry = writtenEntries label escape level file) :
    Value.ofGraph ⟨.mapping .mapping (Composer.pairUp (List.range' 1 (2 * ls.length)).reverse) ::
      ls.flatMap Line.nodes, 0⟩ = .ok (readValue label escape level file) := by
  have hnodes : ∀ l : Line, l.nodes = (fun e : List Char × Tag × List Char =>
      [Node.scalar (resolveChars e.1) (String.ofList e.1), Node.scalar e.2.1 (String.ofList e.2.2)]) l.entry :=
    fun _ => rfl
  have hflat : ls.flatMap Line.nodes = (writtenEntries label escape level file).flatMap fun e =>
      [Node.scalar (resolveChars e.1) (String.ofList e.1), Node.scalar e.2.1 (String.ofList e.2.2)] := by
    rw [← hentries, List.flatMap_map]
    exact List.flatMap_congr fun l _ => hnodes l
  have hlength : ls.length = (writtenEntries label escape level file).length := by
    rw [← hentries, List.length_map]
  have hkeys : ∀ key ∈ keys, resolveChars key.toList = .text := by decide
  simp only [keys, List.forall_mem_cons] at hkeys
  obtain ⟨hlabel, hescape, hlevel, hfile, -⟩ := hkeys
  rw [hflat, hlength]
  cases escape <;> cases file <;>
  · simp only [writtenEntries, List.cons_append, List.nil_append, Option.map_none, Option.map_some, Option.toList_none,
      Option.toList_some, List.append_nil, List.flatMap_cons, List.flatMap_nil, String.ofList_toList, hlabel, hescape,
      hlevel, hfile]
    rfl

/-- Lines of these entries are read as this value. -/
theorem parse_lines {ls : List Line} (hentries : ls.map Line.entry = writtenEntries label escape level file)
    (hs : ∀ l ∈ ls, l.Sound) : Value.parse (ls.flatMap Line.text) = .ok (readValue label escape level file) := by
  have hbreaks : unifyBreaks (ls.flatMap Line.text) = ls.flatMap Line.text := by
    refine unifyBreaks_eq fun ch hch => ?_
    obtain ⟨l, hl, hch⟩ := List.mem_flatMap.1 hch
    exact (isAllowed_of_printable ((hs l hl).printable hch)).2
  have hscan : Token.scan (ls.flatMap Line.text) =
      .ok (.blockMappingStart :: (ls.flatMap Line.tokens ++ [.blockEnd])) := by
    cases ls with
    | nil => cases hentries
    | cons l ls => exact scan_lines hs
  unfold Value.parse
  simp only [hbreaks, hscan, events_lines, graph_lines hs, ofGraph_lines hentries, bind, Except.bind]

theorem ofDocument_readValue (label : String) (escape : Bool) (level : String) (file : Option String) (path : String) :
    ∃ cells, ofDocument path (readValue label escape level file) =
      .ok ⟨label, escape, level, ⟨cells, fileItem file⟩, some path⟩ := by
  cases file <;> exact ⟨_, rfl⟩

/-! ## Saving and loading -/

/-- the file for the log is a text, or there is none -/
def LogFileText (c : Settings) : Prop := ∃ file, c.logFile.root = fileItem file

/-- the text of settings is read as the same settings -/
theorem ofBytes_print (hfile : c.LogFileText) (path : String) :
    ∃ t cells, c.print = .ok t ∧ ofBytes path t.toUTF8 =
      .ok { c with logFile := ⟨cells, c.logFile.root⟩, source := some path } := by
  obtain ⟨label, escape, level, ⟨cells, root⟩, source⟩ := c
  obtain ⟨file, rfl⟩ : ∃ file, root = fileItem file := hfile
  obtain ⟨ls, hentries, hsound, hprint⟩ := print_eq label escape level file cells source
  obtain ⟨cells', hdocument⟩ := ofDocument_readValue label escape level file path
  refine ⟨_, cells', hprint, ?_⟩
  have hparse := parse_lines hentries hsound
  have hdecode : ∀ t : String, String.fromUTF8? t.toUTF8 = some t := fun t => dif_pos t.isValidUTF8
  simp only [ofBytes, hdecode, String.toList_ofList, hparse, hdocument]

/-- Settings saved to a path are loaded from it as they were, and no other file has changed. The file for the log is the
same if the same scalar stands for it. -/
theorem load_save {s s' : Surroundings} {raw : String} (hfile : c.LogFileText)
    (hraw : raw ≠ "") (hsave : c.save s (some raw) = (none, s')) :
    (∃ d, load s' (some raw) = .ok d ∧ d.cancelLabel = c.cancelLabel ∧ d.escapeDismisses = c.escapeDismisses ∧
      d.logLevel = c.logLevel ∧ d.logFile.root = c.logFile.root ∧ d.source = some (Path.ofText raw).text) ∧
    ∃ l, s'.locate (.ofText raw) = .ok l ∧ ∀ l' ≠ l, s'.tree.contentAt? l' = s.tree.contentAt? l' := by
  obtain ⟨t, cells, hprint, hread⟩ := ofBytes_print hfile (Path.ofText raw).text
  have hgiven : nonempty? (some raw) = some raw := by simp [nonempty?, hraw]
  have htarget : c.target (some raw) = Path.ofText raw := by simp [target, hgiven]
  unfold save at hsave
  rw [htarget, hprint] at hsave
  obtain ⟨t', l, ht', hwritten⟩ := writeFile_ok hsave
  obtain rfl : t = t' := Except.ok.inj ht'
  have hload := (load_of_read hraw hwritten.read).trans hread
  exact ⟨⟨_, hload, rfl, rfl, rfl, rfl, rfl⟩, l, hwritten.located, hwritten.others⟩

/-- settings whose texts look like something else -/
def troublesome : Settings := ⟨"yes", false, " 1:30\n# null ", Yaml.null, none⟩

theorem save_troublesome : (troublesome.save Surroundings.bare (some "c")).1 = none := by
  obtain ⟨t, cells, hprint, -⟩ := ofBytes_print (c := troublesome) ⟨none, rfl⟩ ""
  have htarget : troublesome.target (some "c") = ⟨.here, ["c"]⟩ := by
    rw [← Path.ofText_oneLetter]
    rfl
  unfold save
  rw [htarget, hprint]
  rfl

/-- settings whose texts look like something else are loaded as they were saved -/
theorem load_save_troublesome :
    troublesome.LogFileText ∧ "c" ≠ "" ∧ (troublesome.save Surroundings.bare (some "c")).1 = none ∧
      ∃ d, load (troublesome.save Surroundings.bare (some "c")).2 (some "c") = .ok d ∧ d.cancelLabel = "yes" ∧
        d.escapeDismisses = false ∧ d.logLevel = " 1:30\n# null " := by
  have hfile : troublesome.LogFileText := ⟨none, rfl⟩
  obtain ⟨⟨d, hd, hlabel, hescape, hlevel, -⟩, -⟩ :=
    load_save hfile (by decide) (Prod.ext save_troublesome rfl :
      troublesome.save Surroundings.bare (some "c") = (none, (troublesome.save Surroundings.bare (some "c")).2))
  exact ⟨hfile, by decide, save_troublesome, d, hd, hlabel, hescape, hlevel⟩

end LinePrompt.Settings
