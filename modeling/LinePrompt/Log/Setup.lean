/-
Setting up the log by the settings and what overrides them.

The handlers there were are gone first, and the threshold is set, whatever happens to the file afterwards. The file's
directory is made if it is missing, and the file is opened to be added to.
-/
import LinePrompt.Log.Handler
import LinePrompt.Settings.Basic

namespace LinePrompt.Log

open LinePrompt.Files

/-- what is asked of the log -/
structure Wanted where
  level : Option String
  file : Option String
  /-- should records go to the terminal too? -/
  terminal : Bool
deriving DecidableEq, Repr

/-- set up the log: the trouble if there was any, the log and the surroundings -/
def setUp (c : Option Settings) (w : Wanted) (s : Surroundings) : Option Settings.Trouble × Logbook × Surroundings :=
  let bare : Logbook := ⟨Settings.threshold c w.level, []⟩
  match Settings.logPath s c w.file with
  | .error t => (some t, bare, s)
  | .ok p =>
    match s.makeDirectories p.parent with
    | (some f, s) => (some (.files f), bare, s)
    | (none, s) =>
      let whole := p.absolute s.cwd
      match s.openToAdd whole with
      | .error f => (some (.files f), bare, s)
      | .ok (n, s) =>
        (none, { bare with handlers := .file whole (some n) :: (if w.terminal then [.terminal true] else []) }, s)

end LinePrompt.Log
