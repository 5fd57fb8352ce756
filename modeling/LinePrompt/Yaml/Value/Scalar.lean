/-
From the text of a scalar to its value, once its type is known.
-/
import LinePrompt.Decimal.Numeral
import LinePrompt.Text.Base64
import LinePrompt.Text.CaseMap
import LinePrompt.Yaml.Fault
import LinePrompt.Yaml.Tag
import LinePrompt.Yaml.Value

namespace LinePrompt.Yaml

open LinePrompt.Decimal

/-! ## Truth and numbers -/

def readBool (s : String) : Except Fault Scalar :=
  let word := Text.toSmall s
  if ["yes", "true", "on"].contains word then .ok (.bool true)
  else if ["no", "false", "off"].contains word then .ok (.bool false)
  else .error (.badBool word)

/-- a whole number in a base, its failure as a fault -/
def readIn (base : Nat) (cs : List Char) : Except Fault Int :=
  match readInt base cs with
  | .ok n => .ok n
  | .error .invalid => .error (.badInt base (String.ofList cs))
  | .error (.tooLong digits) => .error (.longInt digits)

/-- the parts between colons -/
def splitColons (cs : List Char) : List (List Char) :=
  ((String.ofList cs).splitOn ":").map String.toList

/-- the number that its digits to base sixty make, the last digit first -/
def sixtyValue : List Int → Int
  | [] => 0
  | d :: rest => d + 60 * sixtyValue rest

/-- a sign taken off the front -/
def takeSign (cs : List Char) : Except Fault (Bool × List Char) :=
  match cs with
  | [] => .error .emptyNumber
  | '-' :: rest => .ok (true, rest)
  | '+' :: rest => .ok (false, rest)
  | _ => .ok (false, cs)

/-- a whole number without its sign -/
def readUnsigned (cs : List Char) : Except Fault Int :=
  match cs with
  | ['0'] => .ok 0
  | '0' :: 'b' :: rest => readIn 2 rest
  | '0' :: 'x' :: rest => readIn 16 rest
  | '0' :: _ => readIn 8 cs
  | [] => .error .emptyNumber
  | _ =>
    if cs.contains ':' then ((splitColons cs).mapM (readIn 10)).map fun ds => sixtyValue ds.reverse
    else readIn 10 cs

def readWhole (s : String) : Except Fault Scalar := do
  let (negative, cs) ← takeSign (s.toList.filter (· != '_'))
  let n ← readUnsigned cs
  pure (.int (if negative then -n else n))

/-- a floating number from a text, its failure as a fault -/
def readPart (cs : List Char) : Except Fault Binary :=
  match readFloat? cs with
  | some x => .ok x
  | none => .error (.badFloat (String.ofList cs))

/-- digits to base sixty added up, the last one first -/
def sixtyFloat : Nat → Binary → List Binary → Except Fault Binary
  | _, sum, [] => .ok sum
  | factor, sum, d :: rest =>
    if (Binary.ofNat factor).equalsInt 0 || Binary.ofNat factor == .infinite false then .error .hugeFactor
    else sixtyFloat (60 * factor) (sum.add (d.mulNat factor)) rest

/-- a floating number without its sign -/
def readUnsignedFloat (cs : List Char) : Except Fault Binary :=
  if cs = ".inf".toList then .ok (.infinite false)
  else if cs = ".nan".toList then .ok .notANumber
  else if cs.contains ':' then do
    let ds ← (splitColons cs).mapM readPart
    sixtyFloat 1 (.finite false 0 (-1074)) ds.reverse
  else readPart cs

def readFloating (s : String) : Except Fault Scalar := do
  let (negative, cs) ← takeSign (Text.toSmall (String.ofList (s.toList.filter (· != '_')))).toList
  let x ← readUnsignedFloat cs
  pure (.float (if negative && x != .notANumber then x.negate else x))

/-! ## Dates and times -/

def isLeapYear (y : Nat) : Bool := y % 4 = 0 && (y % 100 != 0 || y % 400 = 0)

def daysInMonth (y m : Nat) : Nat :=
  if m = 2 then (if isLeapYear y then 29 else 28)
  else if m = 4 ∨ m = 6 ∨ m = 9 ∨ m = 11 then 30
  else 31

def checkDate (y m d : Nat) : Except Fault Date :=
  if y = 0 then .error (.badDate (.year y))
  else if m = 0 ∨ 12 < m then .error (.badDate .month)
  else if d = 0 ∨ daysInMonth y m < d then .error (.badDate .day)
  else .ok ⟨y, m, d⟩

/-- the first six digits after the point, as millionths -/
def microOf (fraction : List Char) : Nat :=
  let ds := fraction.take 6
  digitsToNat ds * tenTo (6 - ds.length)

/-- a date, or a date with a time: the zone is looked at first, then date and time from the left -/
def readMoment (s : String) : Except Fault Cell :=
  let cs := s.toList
  -- a line feed at the very end is not seen
  let cs := if cs.getLast? = some '\n' then cs.dropLast else cs
  match readDate? cs with
  | none => .error .badTimestamp
  | some (parts, _) =>
    match parts.time with
    | none => (checkDate parts.year parts.month parts.day).map .date
    | some t => do
      match t.offset with
      | some n => if n ≤ -1440 ∨ 1440 ≤ n then throw (.badOffset n)
      | none => pure ()
      let date ← checkDate parts.year parts.month parts.day
      if 23 < t.hour then throw (.badDate .hour)
      if 59 < t.minute then throw (.badDate .minute)
      if 59 < t.second then throw (.badDate .second)
      pure (.moment ⟨date, t.hour, t.minute, t.second, microOf t.fraction, t.offset⟩)

/-! ## Bytes -/

def readBytes (s : String) : Except Fault Scalar :=
  if s.toList.all fun c => c.toNat < 128 then
    match Text.Base64.decode? s.toList with
    | some bytes => .ok (.bytes bytes)
    | none => .error .unreadable
  else .error .unreadable

end LinePrompt.Yaml
