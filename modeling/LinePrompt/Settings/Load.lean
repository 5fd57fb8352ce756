/-
Reading settings from a file.

The file is the one asked for; else the one in the working directory, else the one under the home directory, whichever
is there first. A file without content gives the standard settings, and so does having no file when none was asked for.
-/
import LinePrompt.Settings.Basic
import LinePrompt.Yaml.Document
import LinePrompt.Yaml.Value.Display

namespace LinePrompt.Settings

open LinePrompt.Files

/-- an operation on values, its fault as trouble -/
def ofValue {α : Type} (r : Except Yaml.Fault α) : Except Trouble α := r.mapError .value

/-- the text of an entry, or a given one -/
def textEntry (v : Yaml.Value) (key : String) (default : String) : Except Trouble String :=
  match v.get? key with
  | none => .ok default
  | some e => ofValue e.text

/-- the switch for the escape key -/
def switchEntry (v : Yaml.Value) : Except Trouble Bool :=
  match v.get? "escape_dismisses" with
  | none => .ok true
  | some e =>
    match e.root with
    | .scalar (.bool b) => .ok b
    | _ => (ofValue e.quoted).bind fun shown => .error (.noSwitch shown)

/-- the settings that a file's value holds -/
def ofDocument (path : String) (v : Yaml.Value) : Except Trouble Settings := do
  if !v.isBlank && v.entries?.isNone then throw (.noMapping path v.typeName)
  let escapeDismisses ← switchEntry v
  let cancelLabel ← textEntry v "default_cancel_label" standard.cancelLabel
  let logLevel ← textEntry v "log_level" standard.logLevel
  pure ⟨cancelLabel, escapeDismisses, logLevel, (v.get? "log_file").getD Yaml.null, some path⟩

/-- the settings that bytes hold -/
def ofBytes (path : String) (bytes : ByteArray) : Except Trouble Settings :=
  match String.fromUTF8? bytes with
  | none => .error .undecodable
  | some text =>
    match Yaml.Value.parse text.toList with
    | .ok v => ofDocument path v
    | .error .unreadable => .error (.unreadable path)
    | .error fault => .error (.value fault)

/-- the settings in a file -/
def read (s : Surroundings) (p : Path) : Except Trouble Settings :=
  match s.read p with
  | .ok bytes => ofBytes p.text bytes
  | .error f => .error (.files f)

/-- the file in the working directory, and the one under the home directory -/
def usualPaths (s : Surroundings) : Except Trouble (List Path) := do
  let home ← expanded s (.ofText "~")
  pure [(Path.ofLocation s.cwd).child "textprompt.yaml",
    ((home.child ".config").child "textprompt").child "config.yaml"]

/-- the first path at which something stands -/
def firstThere? (s : Surroundings) : List Path → Except Trouble (Option Path)
  | [] => .ok none
  | p :: rest =>
    match s.isThere p with
    | .ok true => .ok (some p)
    | .ok false => firstThere? s rest
    | .error f => .error (.files f)

/-- the settings in force: those of the file asked for, or of the first usual one, or the standard ones -/
def load (s : Surroundings) (path : Option String) : Except Trouble Settings :=
  match nonempty? path with
  | some raw => do
    match ← firstThere? s [.ofText raw] with
    | some p => read s p
    | none => throw (.noFile raw)
  | none => do
    match ← firstThere? s (← usualPaths s) with
    | some p => read s p
    | none => pure standard

end LinePrompt.Settings
