/-
Numbers read from a text by the widest rules: blanks around them, a sign, digits of any script, and for a floating
number a point, an exponent and the words for infinity and for what is no number.

The digits of a decimal whole number are counted before they are read: a number of more than 4300 digits is refused.
Bases that are powers of two have no such limit.
-/
import LinePrompt.Decimal.Binary
import LinePrompt.Text.Blank
import LinePrompt.Text.Digit
import LinePrompt.Text.Hex

namespace LinePrompt.Decimal

open LinePrompt.Text

/-- why a text is no whole number -/
inductive NumeralFlaw where
  | invalid
  | tooLong (digits : Nat)
deriving DecidableEq, Repr

/-- the most digits a decimal number is read or written with -/
def digitLimit : Nat := 4300

def isAsciiBlank (c : Char) : Bool := c = ' ' || (9 ≤ c.toNat && c.toNat ≤ 13)

/-- a text with digits and blanks of other scripts turned into those of ASCII, whose own characters stay -/
def toAscii (cs : List Char) : List Char :=
  if cs.all fun c => c.toNat < 128 then cs
  else cs.map fun c =>
    if c.toNat < 127 then c
    else if isBlank c then ' '
    else match digitValue? c with
      | some d => Char.ofNat (48 + d)
      | none => c

/-- the value of a digit in a base -/
def digitIn? (base : Nat) (c : Char) : Option Nat := (hexValue? c).filter (· < base)

/-- the number that digits of a base spell -/
def valueIn (base : Nat) (digits : List Char) : Nat :=
  digits.foldl (fun n c => base * n + (digitIn? base c).getD 0) 0

/-- a sign in front -/
def splitSign : List Char → Bool × List Char
  | '-' :: rest => (true, rest)
  | '+' :: rest => (false, rest)
  | cs => (false, cs)

/-- the mark of a base in front of its digits is passed over -/
def skipBaseMark (base : Nat) : List Char → List Char
  | '0' :: c :: rest =>
    let c := c.toLower
    if (base = 16 ∧ c = 'x') ∨ (base = 8 ∧ c = 'o') ∨ (base = 2 ∧ c = 'b') then rest else '0' :: c :: rest
  | cs => cs

/-- a whole number in a base -/
def readInt (base : Nat) (cs : List Char) : Except NumeralFlaw Int :=
  let (negative, cs) := splitSign ((toAscii cs).dropWhile isAsciiBlank)
  let cs := skipBaseMark base cs
  let digits := cs.takeWhile fun c => (digitIn? base c).isSome
  let rest := cs.dropWhile fun c => (digitIn? base c).isSome
  if base = 10 ∧ digitLimit < digits.length then .error (.tooLong digits.length)
  else if digits.isEmpty || !rest.all isAsciiBlank then .error .invalid
  else
    let n : Int := valueIn base digits
    .ok (if negative then -n else n)

/-- digits, a power of ten, and what they make together; a power out of all range is not computed -/
def scaled (negative : Bool) (digits : List Char) (exponent : Int) : Binary :=
  let digits := digits.dropWhile (· = '0')
  let n := valueIn 10 digits
  if n = 0 then .ofRatio negative 0 1
  else if 400 < exponent + digits.length then .infinite negative
  else if exponent + digits.length < -400 then .ofRatio negative 0 1
  else if 0 ≤ exponent then .ofRatio negative (n * tenTo exponent.toNat) 1
  else .ofRatio negative n (tenTo (-exponent).toNat)

/-- the exponent after its letter, all of the text -/
def readExponent? : List Char → Option Int
  | [] => some 0
  | c :: rest =>
    if c = 'e' ∨ c = 'E' then
      let (negative, digits) := splitSign rest
      if digits.isEmpty || !digits.all Char.isDigit then none
      else some (if negative then -(valueIn 10 digits : Int) else valueIn 10 digits)
    else none

/-- a floating number -/
def readFloat? (cs : List Char) : Option Binary :=
  let (negative, cs) := splitSign (trim isAsciiBlank (toAscii cs))
  let word := String.ofList (cs.map Char.toLower)
  if word = "inf" ∨ word = "infinity" then some (.infinite negative)
  else if word = "nan" then some .notANumber
  else
    let whole := cs.takeWhile Char.isDigit
    let (part, rest) := match cs.dropWhile Char.isDigit with
      | '.' :: rest => (rest.takeWhile Char.isDigit, rest.dropWhile Char.isDigit)
      | rest => ([], rest)
    if whole.isEmpty && part.isEmpty then none
    else (readExponent? rest).map fun e => scaled negative (whole ++ part) (e - part.length)

end LinePrompt.Decimal
