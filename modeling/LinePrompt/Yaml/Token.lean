/-
The tokens of a YAML text.

Block structure is told by indentation, so its beginnings and ends are tokens that stand for no character. A key that
is not marked as one is found out at its colon; its token is then put in front of what was already read.
-/
import LinePrompt.Yaml.Fault

namespace LinePrompt.Yaml

/-- how a scalar is written -/
inductive Style where
  | plain
  | single
  | double
  | literal
  | folded
deriving DecidableEq, Repr

/-- a tag as written: the handle in front, none if the tag stands in full, and the rest -/
structure TagName where
  handle : Option String
  suffix : String
deriving DecidableEq, Repr

inductive Token where
  | versionDirective (major minor : Nat)
  | tagDirective (handle replacement : String)
  | otherDirective
  | documentStart
  | documentEnd
  | blockSequenceStart
  | blockMappingStart
  | blockEnd
  | flowSequenceStart
  | flowMappingStart
  | flowSequenceEnd
  | flowMappingEnd
  | blockEntry
  | flowEntry
  | key
  | value
  | alias (name : String)
  | anchor (name : String)
  | tag (name : TagName)
  | scalar (text : String) (style : Style)
  /-- the scanner came no further, by a fault that is none of the text's form -/
  | broken (fault : Fault)
deriving DecidableEq, Repr

end LinePrompt.Yaml
