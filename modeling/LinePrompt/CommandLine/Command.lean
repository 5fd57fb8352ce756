/-
The commands, their options, and what is printed about them.
-/
import LinePrompt.CommandLine.Words
import LinePrompt.Text.Quoted

namespace LinePrompt.CommandLine

/-- the program as a whole, and its two commands -/
inductive Command where
  | main
  | ask
  | validate
deriving DecidableEq, Repr

namespace Command

def path : Command → String
  | main => "textprompt"
  | ask => "textprompt ask"
  | validate => "textprompt validate"

/-- the first line of what is printed about a command -/
def usage : Command → String
  | main => "Usage: textprompt [OPTIONS] COMMAND [ARGS]..."
  | ask => "Usage: textprompt ask [OPTIONS] TITLE"
  | validate => "Usage: textprompt validate [OPTIONS]"

def grammar : Command → Grammar
  | main => ⟨[("--log-level", .logLevel), ("--log-file", .logFile), ("--version", .version), ("--help", .help)], false⟩
  | ask => ⟨[("-i", .initial), ("--initial", .initial), ("-p", .primary), ("--primary", .primary),
      ("-a", .alternate), ("--alternate", .alternate), ("--cancel", .cancel), ("--json", .json),
      ("-c", .config), ("--config", .config), ("--help", .help)], true⟩
  | validate => ⟨[("-c", .config), ("--config", .config), ("--help", .help)], true⟩

def help : Command → String
  | main => "\n".intercalate [
      main.usage,
      "",
      "  textprompt -- ask for a line of text in a modal terminal dialog.",
      "",
      "      textprompt ask \"Rename session\" --initial old-name --primary Rename",
      "      textprompt ask \"Save file\" --initial a.txt --primary Save --alternate Open",
      "",
      "Options:",
      "  --log-level [debug|info|warning|error]",
      "                                  Logging verbosity (default: config or WARNING)",
      "  --log-file PATH                 Log to file",
      "  --version                       Show the version and exit.",
      "  --help                          Show this message and exit.",
      "",
      "Commands:",
      "  ask       Show a prompt titled TITLE and print the entered text.",
      "  validate  Validate the textprompt.yaml configuration.",
      ""]
  | ask => "\n".intercalate [
      ask.usage,
      "",
      "  Show a prompt titled TITLE and print the entered text.",
      "",
      "  Exits 0 on the primary button (or Enter), 3 on the alternate button, and 1 on",
      "  cancel.",
      "",
      "Options:",
      "  -i, --initial TEXT    Pre-filled text",
      "  -p, --primary TEXT    [default: OK]",
      "  -a, --alternate TEXT  Third button label",
      "  --cancel TEXT         Cancel button label",
      "  --json                Print outcome and text as JSON",
      "  -c, --config PATH     Path to textprompt.yaml",
      "  --help                Show this message and exit.",
      ""]
  | validate => "\n".intercalate [
      validate.usage,
      "",
      "  Validate the textprompt.yaml configuration.",
      "",
      "Options:",
      "  -c, --config PATH  Path to textprompt.yaml",
      "  --help             Show this message and exit.",
      ""]

def ofName? : String → Option Command
  | "ask" => some ask
  | "validate" => some validate
  | _ => none

/-- the names of the commands -/
def names : List String := ["ask", "validate"]

end Command

def versionText : String := "textprompt, version 0.1.0\n"

/-- the names that a log level can be given by, in any case -/
def levelChoices : List String := ["DEBUG", "INFO", "WARNING", "ERROR"]

/-! ## Complaints -/

/-- what is wrong with a command line -/
inductive Complaint where
  | word (fault : WordFault)
  | unknownCommand (name : String) (similar : List String)
  | missingCommand
  | missingTitle
  | extraWords (words : List String)
  | badLevel (value : String)
  | noSuchPath (value : String)
deriving DecidableEq, Repr

/-- names that could have been meant, as they follow a complaint -/
def suggestion : List String → String
  | [] => ""
  | [name] => " Did you mean " ++ Text.quoted name ++ "?"
  | names => " (Did you mean one of: " ++ ", ".intercalate (names.map Text.quoted) ++ "?)"

def Complaint.message : Complaint → String
  | word (.unknown name similar) => "No such option " ++ Text.quoted name ++ "." ++ suggestion similar
  | word (.valueMissing name) => "Option " ++ Text.quoted name ++ " requires an argument."
  | word (.valueUnwanted name) => "Option " ++ Text.quoted name ++ " does not take a value."
  | unknownCommand name similar => "No such command " ++ Text.quoted name ++ "." ++ suggestion similar
  | missingCommand => "Missing command."
  | missingTitle => "Missing argument 'TITLE'."
  | extraWords [w] => "Got unexpected extra argument (" ++ w ++ ")"
  | extraWords ws => "Got unexpected extra arguments (" ++ " ".intercalate ws ++ ")"
  | badLevel value =>
    "Invalid value for '--log-level': " ++ Text.quoted value ++ " is not one of " ++
      ", ".intercalate (levelChoices.map fun c => Text.quoted c.toLower) ++ "."
  | noSuchPath value => "Invalid value for '-c' / '--config': Path " ++ Text.quoted value ++ " does not exist."

/-- is the complaint about an option's value being there or not? Such a one is printed without the usage. -/
def Complaint.isBare : Complaint → Bool
  | word (.valueMissing _) => true
  | word (.valueUnwanted _) => true
  | _ => false

/-- what is printed when a command's words are wrong -/
def Complaint.report (c : Complaint) (command : Command) : String :=
  (if c.isBare then "" else command.usage ++ "\nTry '" ++ command.path ++ " --help' for help.\n\n") ++
    "Error: " ++ c.message ++ "\n"

end LinePrompt.CommandLine
