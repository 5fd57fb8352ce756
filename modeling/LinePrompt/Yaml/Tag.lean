/-
The types of YAML values, and which of them a plain scalar has.

A plain scalar is of the first type whose form it has: a truth word, a floating number, a whole number, the merge key, a
null, a date or time, the value key; without any of these forms it is a text. The forms are those of YAML 1.1: low
lines between digits, octal numbers with a leading zero, numbers to base sixty with colons.
-/
namespace LinePrompt.Yaml

inductive Tag where
  | null
  | bool
  | int
  | float
  | binary
  | timestamp
  | omap
  | pairs
  | set
  | text
  | sequence
  | mapping
  /-- the key that takes in other mappings -/
  | merge
  /-- the key whose value stands for the whole mapping -/
  | value
  | other (name : String)
deriving DecidableEq, Repr

/-- the names of the standard types all start like this -/
def standardPart : String := "tag:yaml.org,2002:"

def Tag.ofName (name : String) : Tag :=
  match name with
  | "tag:yaml.org,2002:null" => .null
  | "tag:yaml.org,2002:bool" => .bool
  | "tag:yaml.org,2002:int" => .int
  | "tag:yaml.org,2002:float" => .float
  | "tag:yaml.org,2002:binary" => .binary
  | "tag:yaml.org,2002:timestamp" => .timestamp
  | "tag:yaml.org,2002:omap" => .omap
  | "tag:yaml.org,2002:pairs" => .pairs
  | "tag:yaml.org,2002:set" => .set
  | "tag:yaml.org,2002:str" => .text
  | "tag:yaml.org,2002:seq" => .sequence
  | "tag:yaml.org,2002:map" => .mapping
  | "tag:yaml.org,2002:merge" => .merge
  | "tag:yaml.org,2002:value" => .value
  | _ => .other name

/-! ## Forms of plain scalars -/

def isDigit (c : Char) : Bool := 48 ≤ c.toNat && c.toNat ≤ 57

/-- a digit or a low line -/
def isDigitOrLow (c : Char) : Bool := isDigit c || c = '_'

def dropSign : List Char → List Char
  | '+' :: rest => rest
  | '-' :: rest => rest
  | cs => cs

def truthWords : List String :=
  ["yes", "Yes", "YES", "no", "No", "NO", "true", "True", "TRUE", "false", "False", "FALSE", "on", "On", "ON", "off",
  "Off", "OFF"]

def isBoolForm (cs : List Char) : Bool := truthWords.contains (String.ofList cs)

def isNullForm (cs : List Char) : Bool := ["", "~", "null", "Null", "NULL"].contains (String.ofList cs)

/-- nothing, or an exponent with its sign -/
def isExponentForm : List Char → Bool
  | [] => true
  | e :: sign :: rest => (e = 'e' || e = 'E') && (sign = '+' || sign = '-') && !rest.isEmpty && rest.all isDigit
  | _ => false

/-- a point, digits and an exponent -/
def isFractionForm : List Char → Bool
  | '.' :: rest => isExponentForm (rest.dropWhile isDigitOrLow)
  | _ => false

/-- one or two digits below sixty in front, after a colon: what follows them -/
def dropSixty? : List Char → List (List Char)
  | ':' :: a :: rest =>
    if isDigit a then
      match rest with
      | b :: rest' => (if isDigit b && a.toNat < 54 then [rest', b :: rest'] else [b :: rest'])
      | [] => [[]]
    else []
  | _ => []

/-- groups of base sixty, at least one, and then what satisfies a test -/
def sixties (accept : List Char → Bool) : Nat → List Char → Bool
  | 0, _ => false
  | bound + 1, cs => (dropSixty? cs).any fun rest => accept rest || sixties accept bound rest

/-- digits with low lines, the first a digit, and then groups of base sixty -/
def isSixtyForm (first : Char → Bool) (accept : List Char → Bool) (cs : List Char) : Bool :=
  match cs with
  | c :: rest => first c && sixties accept cs.length (rest.dropWhile isDigitOrLow)
  | [] => false

def isFloatForm (cs : List Char) : Bool :=
  let unsigned := dropSign cs
  let word := String.ofList unsigned
  (match unsigned with
    | c :: rest => isDigit c && isFractionForm (rest.dropWhile isDigitOrLow)
    | [] => false) ||
  (match cs with
    | '.' :: c :: rest => isDigit c && isExponentForm (rest.dropWhile isDigitOrLow)
    | _ => false) ||
  isSixtyForm isDigit (fun rest => rest.head? = some '.' && (rest.drop 1).all isDigitOrLow) unsigned ||
  [".inf", ".Inf", ".INF"].contains word || [".nan", ".NaN", ".NAN"].contains (String.ofList cs)

def isNonzeroDigit (c : Char) : Bool := isDigit c && c != '0'

def isHexOrLow (c : Char) : Bool :=
  isDigitOrLow c || ('a' ≤ c && c ≤ 'f') || ('A' ≤ c && c ≤ 'F')

def isIntForm (cs : List Char) : Bool :=
  let unsigned := dropSign cs
  (match unsigned with
    | '0' :: 'b' :: rest => !rest.isEmpty && rest.all fun c => c = '0' || c = '1' || c = '_'
    | _ => false) ||
  (match unsigned with
    | '0' :: rest => rest.all fun c => ('0' ≤ c && c ≤ '7') || c = '_'
    | _ => false) ||
  (match unsigned with
    | c :: rest => isNonzeroDigit c && rest.all isDigitOrLow
    | [] => false) ||
  (match unsigned with
    | '0' :: 'x' :: rest => !rest.isEmpty && rest.all isHexOrLow
    | _ => false) ||
  isSixtyForm isNonzeroDigit List.isEmpty unsigned

/-! ## Dates and times -/

/-- a date with a time of day, as written -/
structure TimeParts where
  hour : Nat
  minute : Nat
  second : Nat
  /-- the digits after the point -/
  fraction : List Char
  /-- minutes from universal time, none if no zone is named -/
  offset : Option Int
deriving DecidableEq, Repr

structure DateParts where
  year : Nat
  month : Nat
  day : Nat
  time : Option TimeParts
deriving DecidableEq, Repr

def digitsToNat (cs : List Char) : Nat := cs.foldl (fun n c => 10 * n + (c.toNat - 48)) 0

/-- between `least` and `most` digits in front, as many as there are -/
def takeDigits? (least most : Nat) (cs : List Char) : Option (Nat × Nat × List Char) :=
  let ds := (cs.take most).takeWhile isDigit
  if least ≤ ds.length then some (digitsToNat ds, ds.length, cs.drop ds.length) else none

def expect? (c : Char) : List Char → Option (List Char)
  | d :: rest => if c = d then some rest else none
  | [] => none

def isGap (c : Char) : Bool := c = ' ' || c = '\t'

/-- the zone at the end: none, universal time, or a distance from it; blanks may stand before a zone -/
def readZone? (cs : List Char) : Option (Option Int) :=
  if cs.isEmpty then some none
  else
    match cs.dropWhile isGap with
    | ['Z'] => some (some 0)
    | sign :: rest =>
      if sign = '+' || sign = '-' then do
        let (hours, _, rest) ← takeDigits? 1 2 rest
        let minutes ← (match rest with
          | [] => some 0
          | ':' :: rest => do
            let (minutes, _, rest) ← takeDigits? 2 2 rest
            if rest.isEmpty then some minutes else none
          | _ => none)
        let n : Int := 60 * hours + minutes
        some (some (if sign = '-' then -n else n))
      else none
    | [] => none

/-- the time of day with its zone, to the end -/
def readTime? (cs : List Char) : Option TimeParts := do
  let (hour, _, cs) ← takeDigits? 1 2 cs
  let cs ← expect? ':' cs
  let (minute, _, cs) ← takeDigits? 2 2 cs
  let cs ← expect? ':' cs
  let (second, _, cs) ← takeDigits? 2 2 cs
  let (fraction, cs) := match cs with
    | '.' :: rest => (rest.takeWhile isDigit, rest.dropWhile isDigit)
    | _ => ([], cs)
  let offset ← readZone? cs
  some ⟨hour, minute, second, fraction, offset⟩

/-- a date, with a time after it or not. The answer tells also whether month and day have two digits each. -/
def readDate? (cs : List Char) : Option (DateParts × Bool) := do
  let (year, _, cs) ← takeDigits? 4 4 cs
  let cs ← expect? '-' cs
  let (month, m, cs) ← takeDigits? 1 2 cs
  let cs ← expect? '-' cs
  let (day, d, cs) ← takeDigits? 1 2 cs
  match cs with
  | [] => some (⟨year, month, day, none⟩, m = 2 && d = 2)
  | c :: rest =>
    if c = 'T' || c = 't' then do
      let time ← readTime? rest
      some (⟨year, month, day, some time⟩, m = 2 && d = 2)
    else if isGap c then do
      let time ← readTime? (rest.dropWhile isGap)
      some (⟨year, month, day, some time⟩, m = 2 && d = 2)
    else none

/-- a date alone has two digits for month and day; with a time one is enough -/
def isTimestampForm (cs : List Char) : Bool :=
  match readDate? cs with
  | some (parts, full) => full || parts.time.isSome
  | none => false

/-! ## The type of a plain scalar -/

/-- a truth word is looked for only behind one of the letters that start one, and so on: no form starts like another -/
def resolveChars (cs : List Char) : Tag :=
  if isBoolForm cs then .bool
  else if isFloatForm cs then .float
  else if isIntForm cs then .int
  else if cs = ['<', '<'] then .merge
  else if isNullForm cs then .null
  else if isTimestampForm cs then .timestamp
  else if cs = ['='] then .value
  else if cs = ['!'] || cs = ['&'] || cs = ['*'] then .other "tag:yaml.org,2002:yaml"
  else .text

/-- the type of a plain scalar -/
def resolve (s : String) : Tag := resolveChars s.toList

end LinePrompt.Yaml
