/-
Sessions: steps taken one after another in the same surroundings, with the settings and the log they leave.

Each step has an answer, or a problem that leaves the rest of the session standing; and it may show something on the
terminal, or lose records.
-/
import LinePrompt.CommandLine.Run
import LinePrompt.Prompt.Scenario
import LinePrompt.Session.Excerpt
import LinePrompt.Settings.Save

namespace LinePrompt.Session

open LinePrompt.Files LinePrompt.Log LinePrompt.Prompt LinePrompt.CommandLine

structure State where
  surroundings : Surroundings
  settings : Option Settings
  log : Logbook

inductive Step where
  | write (path : String) (bytes : ByteArray)
  | makeDirectory (path : String)
  | remove (path : String)
  | enter (path : String)
  | read (path : String)
  /-- what is under a location -/
  | list (root : Location)
  | setVariable (name : String) (value : Option String)
  /-- take settings as they are given -/
  | take (settings : Settings)
  | load (path : Option String)
  | overrideSettings
  | check
  | serialize
  | save (path : Option String)
  | level (override : Option String)
  | logPath (override : Option String)
  | setUp (wanted : Wanted)
  /-- one record, its message so many times over -/
  | log (name : String) (severity : Severity) (message : String) (times : Nat)
  /-- the same about a prompt -/
  | logAbout (title : String) (severity : Severity) (message : String) (times : Nat)
  | tag (title message : String)
  /-- a prompt on a surface that does nothing -/
  | prompt (title : String) (verbs : List Verb)
  | command (words : List String) (play : Play)

inductive Answer where
  | nothing
  | text (excerpt : Excerpt)
  | path (text : String)
  /-- names under a location with the sizes of files -/
  | listing (names : List (String × Option Nat))
  | settings (settings : Settings)
  | messages (messages : List String)
  | entries (entries : List (String × Yaml.Value))
  | level (rank : Nat)
  | handlers (log : Logbook)
  | tagged (text : String)
  | answers (answers : List Prompt.Answer)
  | ending (ending : Ending) (log : Logbook)

/-- why a step has no answer -/
inductive Problem where
  | settings (trouble : Settings.Trouble)
  | prompt (fault : Prompt.Fault)
deriving DecidableEq, Repr

def Problem.message : Problem → String
  | settings t => t.message
  | prompt f => f.message

/-- what comes of a step -/
structure Outcome where
  answer : Except Problem Answer
  state : State
  /-- what the terminal shows -/
  shown : String
  lost : Nat

namespace State

/-- a step that shows nothing -/
def quietly (st : State) (answer : Except Problem Answer) : Outcome := ⟨answer, st, "", 0⟩

/-- a step that gives nothing, or trouble -/
def change (st : State) (r : Except Settings.Trouble Surroundings) : Outcome :=
  match r with
  | .ok surroundings => { st with surroundings }.quietly (.ok .nothing)
  | .error t => st.quietly (.error (.settings t))

/-- an answer got from values, or trouble -/
def answer {α : Type} (st : State) (r : Except Settings.Trouble α) (f : α → Answer) : Outcome :=
  match r with
  | .ok a => st.quietly (.ok (f a))
  | .error t => st.quietly (.error (.settings t))

/-- something done with the settings there are -/
def withSettings (st : State) (wanted : String) (f : Settings → Outcome) : Outcome :=
  match st.settings with
  | some c => f c
  | none => st.quietly (.error (.settings (.noSettings wanted)))

/-- a path with its home directory in full -/
def path (st : State) (text : String) : Except Settings.Trouble Path :=
  Settings.expanded st.surroundings (.ofText text)

/-- an operation on a file, its fault as trouble -/
def onFile {α : Type} (r : Except Files.Fault α) : Except Settings.Trouble α := r.mapError .files

/-! ## Files -/

/-- write bytes to a path, making the directories above it -/
def writeBytes (st : State) (path : String) (bytes : ByteArray) : Outcome :=
  match st.path path with
  | .error t => st.quietly (.error (.settings t))
  | .ok p =>
    match st.surroundings.makeDirectories p.parent with
    | (some f, surroundings) => { st with surroundings }.quietly (.error (.settings (.files f)))
    | (none, surroundings) =>
      { st with surroundings }.change
        ((onFile (surroundings.openToWrite p)).map fun (r : Nat × Surroundings) => r.2.append r.1 bytes)

def makeDirectory (st : State) (path : String) : Outcome :=
  match st.path path with
  | .error t => st.quietly (.error (.settings t))
  | .ok p =>
    match st.surroundings.makeDirectories p with
    | (some f, surroundings) => { st with surroundings }.quietly (.error (.settings (.files f)))
    | (none, surroundings) => { st with surroundings }.quietly (.ok .nothing)

/-- the text of a file as it is looked at -/
def readText (st : State) (path : String) : Except Settings.Trouble Excerpt := do
  let bytes ← onFile (st.surroundings.read (← st.path path))
  match String.fromUTF8? bytes with
  | none => throw .undecodable
  | some text => pure (.of (masked (unified text)))

/-- what stands under a location, by names from there, in the order of the names -/
def listing (st : State) (root : Location) : List (String × Option Nat) :=
  let tree := st.surroundings.tree
  let found := tree.entries.filterMap fun (l, e) =>
    if root.isSuffixOf l && l != root then
      let name := "/".intercalate (l.take (l.length - root.length)).reverse
      match e with
      | .directory => some (name, none)
      | .file n => some (name, some (tree.content n).size)
    else none
  found.mergeSort fun a b => decide (a.1 ≤ b.1)

/-! ## The log -/

/-- records sent to the log, with an answer -/
def record (st : State) (records : List Record) (answer : Except Problem Answer) : Outcome :=
  let (log, e) := st.log.addAll records st.surroundings
  ⟨answer, { st with log, surroundings := e.surroundings }, e.shown, e.lost⟩

/-- a text so many times over -/
def times (message : String) (n : Nat) : String := String.join (List.replicate n message)

/-- the name of a logger under the program's own -/
def loggerName (name : String) : String := "textprompt." ++ name

/-- the name of the logger of prompts -/
def promptLogger : String := loggerName "prompt"

/-! ## Prompts -/

/-- a prompt with handlers that do nothing -/
def plainScene (title : String) (threshold : Nat) : Scene :=
  { request := fun _ => { Request.titled title with onAlternate := some [] }
    surface := fun _ => ⟨[], []⟩
    threshold
    cancelLabel := Settings.standard.cancelLabel
    escapeDismisses := true }

/-- the answers up to the first fault -/
def firstAnswers : List Report → Except Prompt.Fault (List Prompt.Answer)
  | [] => .ok []
  | r :: rest => r.answer.bind fun a => (firstAnswers rest).map (a :: ·)

/-- the reports up to and with the first fault -/
def upToFault : List Report → List Report
  | [] => []
  | r :: rest => if r.answer.toOption.isSome then r :: upToFault rest else [r]

def runPrompt (st : State) (title : String) (verbs : List Verb) : Outcome :=
  let sc := plainScene title st.log.effective
  let done := upToFault (reports sc (verbs.map (.prompt title)) .empty)
  st.record (recordsOf (done.flatMap (·.marks)))
    (match firstAnswers done with
      | .ok answers => .ok (.answers answers)
      | .error f => .error (.prompt f))

/-! ## Commands -/

def runCommand (st : State) (words : List String) (play : Play) : Outcome :=
  let f := CommandLine.run words play st.log st.surroundings
  ⟨.ok (.ending f.ending f.log), { st with log := f.log, surroundings := f.surroundings }, "", 0⟩

/-! ## Steps -/

/-- write settings, or what there is of them -/
def save (st : State) (path : Option String) : Outcome :=
  let (trouble, surroundings) :=
    match st.settings, Settings.nonempty? path with
    | some c, _ => c.save st.surroundings path
    | none, some p =>
      Settings.writeFile st.surroundings (.ofText p) (.error (.noSettings "default_cancel_label"))
    | none, none => (some (.noSettings "source_path"), st.surroundings)
  { st with surroundings }.quietly
    (match trouble with
      | none => .ok .nothing
      | some t => .error (.settings t))

def loadSettings (st : State) (path : Option String) : Outcome :=
  match Settings.load st.surroundings path with
  | .ok c => { st with settings := some c }.quietly (.ok (.settings c))
  | .error t => st.quietly (.error (.settings t))

def setUp (st : State) (w : Wanted) : Outcome :=
  let (trouble, log, surroundings) := Log.setUp st.settings w st.surroundings
  { st with log, surroundings }.quietly
    (match trouble with
      | none => .ok (.handlers log)
      | some t => .error (.settings t))

/-- one step -/
def perform (st : State) : Step → Outcome
  | .write path bytes => st.writeBytes path bytes
  | .makeDirectory path => st.makeDirectory path
  | .remove path => st.change ((st.path path).bind fun p => onFile (st.surroundings.remove p))
  | .enter path => st.change ((st.path path).bind fun p => onFile (st.surroundings.enter p))
  | .read path => st.answer (st.readText path) .text
  | .list root => st.quietly (.ok (.listing (st.listing root)))
  | .setVariable name value => st.change (.ok (st.surroundings.setVariable name value))
  | .take settings => { st with settings := some settings }.quietly (.ok (.settings settings))
  | .load path => st.loadSettings path
  | .overrideSettings => st.withSettings "apply_env_overrides" fun c =>
      let c := c.overridden st.surroundings
      { st with settings := some c }.quietly (.ok (.settings c))
  | .check => st.withSettings "validate" fun c => st.answer (c.errors st.surroundings) .messages
  | .serialize => st.withSettings "default_cancel_label" fun c => st.quietly (.ok (.entries c.entries))
  | .save path => st.save path
  | .level override => st.quietly (.ok (.level (Settings.threshold st.settings override)))
  | .logPath override => st.answer (Settings.logPath st.surroundings st.settings override) fun p => .path p.text
  | .setUp w => st.setUp w
  | .log name severity message n =>
    st.record [⟨severity, loggerName name, .ok (times message n)⟩] (.ok (.path (loggerName name)))
  | .logAbout title severity message n =>
    st.record [.about severity promptLogger title (times message n) []] (.ok .nothing)
  | .tag title message => st.quietly (.ok (.tagged (tagged title message)))
  | .prompt title verbs => st.runPrompt title verbs
  | .command words play => st.runCommand words play

end State

/-- the outcomes of steps, one after another -/
def outcomes : List Step → State → List Outcome
  | [], _ => []
  | step :: rest, st =>
    let o := st.perform step
    o :: outcomes rest o.state

/-! ## The beginning -/

/-- The surroundings a session starts in: an empty directory to work in and an empty home directory, both under a
location all of whose directories are there. The time stands still: a session is the same whenever it is held. -/
def startingAt (root : Location) : Surroundings :=
  let directories := Location.upward root ++ ["work" :: root, "home" :: root]
  { tree := directories.foldl (fun t l => t.putDirectory l) .empty
    cwd := "work" :: root
    environment := [("HOME", (Path.ofLocation ("home" :: root)).text)]
    accounts := [("root", "/root")]
    account := "root"
    clock := "2000-01-01 00:00:00" }

def State.start (root : Location) : State := ⟨startingAt root, none, .untouched⟩

end LinePrompt.Session
