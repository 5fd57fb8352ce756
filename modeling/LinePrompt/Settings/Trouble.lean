/-
What goes wrong with settings: with the file they are read from, with the place they are written to, or with the file
for the log that they name.
-/
import LinePrompt.Files.Fault
import LinePrompt.Yaml.Fault

namespace LinePrompt.Settings

inductive Trouble where
  /-- no file stands at the path that was asked for -/
  | noFile (path : String)
  /-- the file is no YAML -/
  | unreadable (path : String)
  /-- the file's value is no mapping -/
  | noMapping (path typeName : String)
  /-- the switch for the escape key is no truth value, but this -/
  | noSwitch (shown : String)
  /-- a value in the file is none -/
  | value (fault : Yaml.Fault)
  /-- the file's bytes are no text -/
  | undecodable
  | files (fault : Files.Fault)
  /-- a tilde stands for no home directory -/
  | noHome
  /-- a value of this type names no file -/
  | noPath (typeName : String)
  /-- bytes name no file -/
  | bytesPath
  /-- something was wanted of settings that are not there -/
  | noSettings (wanted : String)
deriving DecidableEq, Repr

def Trouble.message : Trouble → String
  | noFile path => "Config file not found: " ++ path
  | unreadable path => "Cannot parse " ++ path ++ ": " ++ Yaml.Fault.unreadable.message
  | noMapping path typeName => path ++ " must contain a mapping, got " ++ typeName
  | noSwitch shown => "escape_dismisses must be true or false, got " ++ shown
  | value fault => fault.message
  | undecodable => ""
  | files fault => fault.message
  | noHome => "Could not determine home directory."
  | noPath typeName => "expected str, bytes or os.PathLike object, not " ++ typeName
  | bytesPath => "argument should be a str object or an os.PathLike object returning str, not <class 'bytes'>"
  | noSettings wanted => "'NoneType' object has no attribute " ++ Text.quoted wanted

/-- Is the trouble one of the settings' own kinds, that a command reports as an error of its user? -/
def Trouble.isOwn : Trouble → Bool
  | noFile _ => true
  | unreadable _ => true
  | noMapping .. => true
  | noSwitch _ => true
  | _ => false

end LinePrompt.Settings
