/-
The values that JSON texts stand for.

A value is read off the front of a text, and what stands behind it is left over. Blanks may stand around every mark and
every value; a whole text has nothing but blanks behind its value. A number is kept as it is written, and the entries of
an object in their order. Half a pair of units is no character, so a text with an escape of such a half alone has no
value here.
-/
import LinePrompt.Text.Hex

namespace LinePrompt.Text.Json

inductive Value where
  | null
  | bool (b : Bool)
  | number (written : String)
  | string (s : String)
  | array (items : List Value)
  | object (entries : List (String × Value))
deriving Repr

/-! ## Strings -/

/-- a unit of sixteen bits by its four digits -/
def readUnit? : List Char → Option (Nat × List Char)
  | a :: b :: c :: d :: rest => (hexNumber? [a, b, c, d]).map (·, rest)
  | _ => none

/-- the character that a letter behind a backslash stands for -/
def ofLetter? : Char → Option Char
  | '"' => some '"'
  | '\\' => some '\\'
  | '/' => some '/'
  | 'b' => some '\x08'
  | 'f' => some '\x0c'
  | 'n' => some '\n'
  | 'r' => some '\r'
  | 't' => some '\t'
  | _ => none

/-- the second half of a pair, as an escape of its own -/
def readLowHalf? : List Char → Option (Nat × List Char)
  | '\\' :: 'u' :: rest => (readUnit? rest).filter fun (n, _) => 0xDC00 ≤ n ∧ n ≤ 0xDFFF
  | _ => none

/-- a character by its unit, or by the two halves of a pair -/
def readUnits? (cs : List Char) : Option (Char × List Char) :=
  match readUnit? cs with
  | none => none
  | some (n, rest) =>
    if n < 0xD800 ∨ 0xDFFF < n then some (Char.ofNat n, rest)
    else if 0xDBFF < n then none
    else (readLowHalf? rest).map fun (m, rest) => (Char.ofNat (0x10000 + (n - 0xD800) * 0x400 + (m - 0xDC00)), rest)

/-- a character between the quotes -/
def readChar? : List Char → Option (Char × List Char)
  | '\\' :: 'u' :: rest => readUnits? rest
  | '\\' :: c :: rest => (ofLetter? c).map (·, rest)
  | c :: rest => if c = '"' ∨ c = '\\' ∨ c.toNat < 32 then none else some (c, rest)
  | [] => none

/-- the characters up to the closing quote; each takes one at least, so the length bounds their number -/
def readChars? : Nat → List Char → Option (List Char × List Char)
  | 0, _ => none
  | _ + 1, '"' :: rest => some ([], rest)
  | bound + 1, cs =>
    match readChar? cs with
    | none => none
    | some (c, rest) => (readChars? bound rest).map fun (read, rest) => (c :: read, rest)

/-- a string whose opening quote has been read -/
def readString? (cs : List Char) : Option (String × List Char) :=
  (readChars? cs.length cs).map fun (read, rest) => (String.ofList read, rest)

/-! ## Numbers -/

/-- what stands behind digits, of which there is one at least -/
def skipDigits? : List Char → Option (List Char)
  | c :: rest => if c.isDigit then some (rest.dropWhile Char.isDigit) else none
  | [] => none

/-- what stands behind a whole number, which starts with a zero only if it is one -/
def skipWhole? : List Char → Option (List Char)
  | '0' :: rest => some rest
  | cs => skipDigits? cs

def skipFraction? : List Char → Option (List Char)
  | '.' :: rest => skipDigits? rest
  | cs => some cs

def skipSign : List Char → List Char
  | '+' :: rest => rest
  | '-' :: rest => rest
  | cs => cs

def skipExponent? : List Char → Option (List Char)
  | 'e' :: rest => skipDigits? (skipSign rest)
  | 'E' :: rest => skipDigits? (skipSign rest)
  | cs => some cs

/-- a number, as it is written -/
def readNumber? (cs : List Char) : Option (Value × List Char) := do
  let whole ← skipWhole? (if cs.head? = some '-' then cs.tail else cs)
  let rest ← skipExponent? (← skipFraction? whole)
  pure (.number (String.ofList (cs.take (cs.length - rest.length))), rest)

/-! ## Values -/

/-- a blank between the marks -/
def isBlank (c : Char) : Bool := c = ' ' || c = '\t' || c = '\n' || c = '\r'

def skipBlanks (cs : List Char) : List Char := cs.dropWhile isBlank

/-- the words that are values -/
def words : List (String × Value) := [("null", .null), ("true", .bool true), ("false", .bool false)]

def readWord? (cs : List Char) : Option (Value × List Char) :=
  (words.find? fun w => w.1.toList.isPrefixOf cs).map fun w => (w.2, cs.drop w.1.length)

section Groups

variable {α : Type} (read : List Char → Option (α × List Char)) (closing : Char)

/-- items with commas between them, up to the closing mark; each is followed by a mark, so the length bounds their
number -/
def readItems? : Nat → List Char → Option (List α × List Char)
  | 0, _ => none
  | bound + 1, cs =>
    match read cs with
    | none => none
    | some (item, rest) =>
      match skipBlanks rest with
      | [] => none
      | mark :: rest =>
        if mark = closing then some ([item], rest)
        else if mark = ',' then (readItems? bound rest).map fun (items, rest) => (item :: items, rest)
        else none

/-- what stands between two marks, of which the opening one has been read -/
def readGroup? (cs : List Char) : Option (List α × List Char) :=
  match skipBlanks cs with
  | [] => none
  | mark :: rest => if mark = closing then some ([], rest) else readItems? read closing cs.length cs

end Groups

/-- a name, a colon and a value -/
def readPair? (readValue? : List Char → Option (Value × List Char)) (cs : List Char) :
    Option ((String × Value) × List Char) :=
  match skipBlanks cs with
  | '"' :: rest => do
    let (name, rest) ← readString? rest
    match skipBlanks rest with
    | ':' :: rest => (readValue? rest).map fun (v, rest) => ((name, v), rest)
    | _ => none
  | _ => none

/-- a value, in no more than so many others -/
def readValue? : Nat → List Char → Option (Value × List Char)
  | 0, _ => none
  | depth + 1, cs =>
    match skipBlanks cs with
    | '"' :: rest => (readString? rest).map fun (s, rest) => (.string s, rest)
    | '[' :: rest => (readGroup? (readValue? depth) ']' rest).map fun (items, rest) => (.array items, rest)
    | '\x7b' :: rest =>
      (readGroup? (readPair? (readValue? depth)) '\x7d' rest).map fun (entries, rest) => (.object entries, rest)
    | cs => (readWord? cs).orElse fun _ => readNumber? cs

/-- The value of a text. Each array and each object takes its opening mark, so the length bounds the depth. -/
def decode (text : String) : Option Value :=
  match readValue? (text.length + 1) text.toList with
  | none => none
  | some (v, rest) => if (skipBlanks rest).isEmpty then some v else none

/-- blanks, escapes, a pair, a nested value and a number -/
example : decode " \x7b\"a\\n\" : [\"\\ud83d\\ude00\", null , -0.5e+2]\x7d\n" =
    some (.object [("a\n", .array [.string "😀", .null, .number "-0.5e+2"])]) := by cbv

/-- half a pair, a comma too many, a number with a zero in front, and two values -/
example : ["\"\\ud83d\"", "[1,]", "01", "1 2"].map decode = [none, none, none, none] := by cbv

end LinePrompt.Text.Json
