/-
Writing settings to a file, as a mapping of their entries in a fixed order; the file for the log is left out if there is
none.
-/
import LinePrompt.Settings.Basic
import LinePrompt.Yaml.Printer.Document

namespace LinePrompt.Settings

open LinePrompt.Files

/-- the entries that are written, in order -/
def entries (c : Settings) : List (String × Yaml.Value) :=
  [("default_cancel_label", Yaml.Value.ofText c.cancelLabel),
   ("escape_dismisses", ⟨[], .scalar (.bool c.escapeDismisses)⟩),
   ("log_level", Yaml.Value.ofText c.logLevel)] ++
  (if c.logFile.root = .scalar .null then [] else [("log_file", c.logFile)])

/-- The entries as one value. Only the file for the log can have cells, so its cells are those of the whole. -/
def document (c : Settings) : Yaml.Value :=
  let fresh := (c.logFile.cells.map (·.1)).foldl max 0 + 1
  let items := c.entries.map fun (k, v) => (Yaml.Item.scalar (.text k), v.root)
  ⟨(fresh, .mapping items) :: c.logFile.cells, .cell fresh⟩

/-- the text of a settings file -/
def print (c : Settings) : Except Yaml.Fault String := c.document.print

/-- where settings are written: to the path asked for, else to where they came from, else to the working directory -/
def target (c : Settings) (path : Option String) : Path :=
  .ofText (((nonempty? path).or (nonempty? c.source)).getD "textprompt.yaml")

/-- Write a text to a path, making the directories above it. The file is empty before the text is known. -/
def writeFile (s : Surroundings) (p : Path) (text : Except Trouble String) : Option Trouble × Surroundings :=
  match s.makeDirectories p.parent with
  | (some f, s) => (some (.files f), s)
  | (none, s) =>
    match s.openToWrite p with
    | .error f => (some (.files f), s)
    | .ok (n, s) =>
      match text with
      | .ok t => (none, s.append n t.toUTF8)
      | .error trouble => (some trouble, s)

/-- write the settings -/
def save (c : Settings) (s : Surroundings) (path : Option String) : Option Trouble × Surroundings :=
  writeFile s (c.target path) (c.print.mapError .value)

end LinePrompt.Settings
