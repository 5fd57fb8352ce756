/-
The settings of prompts: defaults that a file can set, and that the environment and a command line override.

The label of a cancel control and the level of the log are texts, whatever the file held; the file for the log is kept
as the value that the file held.
-/
import LinePrompt.Files.Surroundings
import LinePrompt.Log.Level
import LinePrompt.Settings.Trouble
import LinePrompt.Text.Blank
import LinePrompt.Text.CaseMap
import LinePrompt.Yaml.Value

namespace LinePrompt

structure Settings where
  /-- the label of a cancel control whose request names none -/
  cancelLabel : String
  /-- does the escape key dismiss a prompt? -/
  escapeDismisses : Bool
  logLevel : String
  logFile : Yaml.Value
  /-- the path of the file the settings were read from -/
  source : Option String
deriving Repr

namespace Settings

open LinePrompt.Files

/-- the settings without a file -/
def standard : Settings := ⟨"Cancel", true, "WARNING", Yaml.null, none⟩

/-! ## The environment -/

def trueWords : List String := ["1", "true", "yes", "on"]

def falseWords : List String := ["0", "false", "no", "off"]

/-- a truth value by one of its words, in any case -/
def switch? (word : String) : Option Bool :=
  if trueWords.contains (Text.toSmall word) then some true
  else if falseWords.contains (Text.toSmall word) then some false
  else none

/-- the settings with those of the environment put in; what is empty or says nothing changes nothing -/
def overridden (c : Settings) (s : Surroundings) : Settings :=
  { c with
    cancelLabel := (s.given? "TEXTPROMPT_CANCEL_LABEL").getD c.cancelLabel
    escapeDismisses := ((s.given? "TEXTPROMPT_ESCAPE_DISMISSES").bind switch?).getD c.escapeDismisses
    logLevel := ((s.given? "TEXTPROMPT_LOG_LEVEL").map Text.toCapitals).getD c.logLevel }

/-! ## The log -/

/-- a text unless it is missing or empty -/
def nonempty? (t : Option String) : Option String := t.filter (· != "")

/-- the threshold of the log: by the override, else by the settings; a name that is none stands for warnings -/
def threshold (c : Option Settings) (override : Option String) : Nat :=
  let name := ((nonempty? override).or (nonempty? (c.map (·.logLevel)))).getD "WARNING"
  (Log.thresholdOfName? (Text.toCapitals name)).getD Log.Severity.warning.rank

/-- where the log goes if nothing else is said -/
def standardLogFile : String := "~/.textprompt/textprompt.log"

/-- the path a value names -/
def pathOf (v : Yaml.Value) : Except Trouble Path :=
  match v.root with
  | .scalar (.text t) => .ok (.ofText t)
  | .scalar (.bytes _) => .error .bytesPath
  | _ => .error (.noPath v.typeName)

/-- what it means that a tilde stands for no home directory: the system is not even asked for an account whose name
holds the character of code zero -/
def homeTrouble (p : Path) : Trouble :=
  if (p.parts.headD "").toList.contains (Char.ofNat 0) then .files ⟨.nullByte, p.text⟩ else .noHome

/-- a path with its home directory in full -/
def expanded (s : Surroundings) (p : Path) : Except Trouble Path :=
  match s.expandHome? p with
  | some p => .ok p
  | none => .error (homeTrouble p)

/-- the file for the log: by the override, else by the settings, if it is not blank -/
def logPath (s : Surroundings) (c : Option Settings) (override : Option String) : Except Trouble Path :=
  let value :=
    match nonempty? override, c with
    | some t, _ => Yaml.Value.ofText t
    | none, some c => if c.logFile.isBlank then .ofText standardLogFile else c.logFile
    | none, none => .ofText standardLogFile
  (pathOf value).bind (expanded s)

/-! ## What is wrong with settings -/

/-- the level names that settings may hold, in any case -/
def levelNames : List String := ["DEBUG", "INFO", "WARNING", "ERROR"]

/-- a complaint about the file for the log, if its directory is missing -/
def logFileErrors (c : Settings) (s : Surroundings) : Except Trouble (List String) :=
  if c.logFile.isBlank then .ok []
  else do
    let parent := (← expanded s (← pathOf c.logFile)).parent
    match s.isThere parent with
    | .ok true => pure []
    | .ok false => pure ["Log file parent directory does not exist: " ++ parent.text]
    | .error f => throw (.files f)

/-- what is wrong with the settings -/
def errors (c : Settings) (s : Surroundings) : Except Trouble (List String) := do
  let label := if Text.allBlank c.cancelLabel then ["default_cancel_label must not be empty"] else []
  let level :=
    if levelNames.contains (Text.toCapitals c.logLevel) then []
    else ["log_level must be one of " ++ ", ".intercalate levelNames ++ ", got '" ++ c.logLevel ++ "'"]
  pure (label ++ level ++ (← c.logFileErrors s))

end Settings

end LinePrompt
