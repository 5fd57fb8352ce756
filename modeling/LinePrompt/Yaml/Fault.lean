/-
Why a YAML text gives no value.

Most of what is wrong with a text is one fault, `unreadable`: it is no YAML, or a tag or a key in it has no meaning for
plain values. The other faults are of scalars that look like a number, a date or a truth value and name none.
-/
import LinePrompt.Text.Quoted

namespace LinePrompt.Yaml

/-- the part of a date that is out of its range -/
inductive DatePart where
  | year (n : Nat)
  | month
  | day
  | hour
  | minute
  | second
deriving DecidableEq, Repr

inductive Fault where
  | unreadable
  /-- an escape names a number that is no character's -/
  | badCode (code : Nat)
  /-- a whole number with no characters left after its sign -/
  | emptyNumber
  | badInt (base : Nat) (text : String)
  /-- a decimal number with too many digits to be read -/
  | longInt (digits : Nat)
  /-- a number with too many digits to be written -/
  | longText
  | badFloat (text : String)
  /-- a power of sixty beyond the floating numbers -/
  | hugeFactor
  | badBool (word : String)
  | badTimestamp
  /-- a date is looked for in the entries of a mapping -/
  | noText
  | badDate (part : DatePart)
  /-- a distance from universal time of a day or more, in minutes -/
  | badOffset (minutes : Int)
deriving DecidableEq, Repr

def DatePart.message : DatePart → String
  | year n => "year " ++ toString n ++ " is out of range"
  | month => "month must be in 1..12"
  | day => "day is out of range for month"
  | hour => "hour must be in 0..23"
  | minute => "minute must be in 0..59"
  | second => "second must be in 0..59"

/-- a span of time by its days and seconds, as messages and quoted values name it -/
def spanText (minutes : Int) : String :=
  let days := Int.fdiv minutes 1440
  let seconds := (minutes - 1440 * days) * 60
  let parts := (if days = 0 then [] else ["days=" ++ toString days]) ++
    (if seconds = 0 then [] else ["seconds=" ++ toString seconds])
  "datetime.timedelta(" ++ (if parts.isEmpty then "0" else ", ".intercalate parts) ++ ")"

def Fault.message : Fault → String
  | unreadable => "<yaml>"
  | badCode n =>
    if n < 2147483648 then "chr() arg not in range(0x110000)" else "Python int too large to convert to C int"
  | emptyNumber => "string index out of range"
  | badInt base text =>
    "invalid literal for int() with base " ++ toString base ++ ": " ++
      String.ofList ((Text.quoted text).toList.take 200)
  | longInt digits =>
    "Exceeds the limit (4300 digits) for integer string conversion: value has " ++ toString digits ++
      " digits; use sys.set_int_max_str_digits() to increase the limit"
  | longText =>
    "Exceeds the limit (4300 digits) for integer string conversion; " ++
      "use sys.set_int_max_str_digits() to increase the limit"
  | badFloat text => "could not convert string to float: " ++ Text.quoted text
  | hugeFactor => "int too large to convert to float"
  | badBool word => Text.quoted word
  | badTimestamp => "'NoneType' object has no attribute 'groupdict'"
  | noText => "expected string or bytes-like object, got 'list'"
  | badDate part => part.message
  | badOffset minutes =>
    "offset must be a timedelta strictly between -timedelta(hours=24) and timedelta(hours=24), not " ++
      spanText minutes ++ "."

end LinePrompt.Yaml
