/-
Why an operation on files fails.

A fault names its cause and the path as it was given.
-/
import LinePrompt.Text.Quoted

namespace LinePrompt.Files

inductive Cause where
  | missing
  | taken
  | notDirectory
  | isDirectory
  | nameTooLong
  /-- no path may hold the character of code zero -/
  | nullByte
deriving DecidableEq, Repr

structure Fault where
  cause : Cause
  path : String
deriving DecidableEq, Repr

/-- the number the system gives a cause -/
def Cause.number : Cause → Nat
  | missing => 2
  | taken => 17
  | notDirectory => 20
  | isDirectory => 21
  | nameTooLong => 36
  | nullByte => 22

def Cause.text : Cause → String
  | missing => "No such file or directory"
  | taken => "File exists"
  | notDirectory => "Not a directory"
  | isDirectory => "Is a directory"
  | nameTooLong => "File name too long"
  | nullByte => "embedded null byte"

def Fault.message (f : Fault) : String :=
  if f.cause = .nullByte then f.cause.text
  else "[Errno " ++ toString f.cause.number ++ "] " ++ f.cause.text ++ ": " ++ Text.quoted f.path

end LinePrompt.Files
