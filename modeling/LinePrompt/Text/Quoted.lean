/-
The quoted form of a text, as it stands in log tags and error messages.

The text is put between apostrophes, or between double quotes when it holds an apostrophe and no double quote. The
mark and the backslash are escaped by a backslash, tab, line feed and carriage return by their letters, and every
other character that is not printable by its code point: two hexadecimal digits, four or eight. The quoted form holds
printable characters alone, so it never breaks a line.
-/
import LinePrompt.Text.Hex
import LinePrompt.Text.Printable

namespace LinePrompt.Text

/-- the mark around a quoted text -/
def quoteMark (s : List Char) : Char :=
  if '\x27' ∈ s ∧ '"' ∉ s then '"' else '\x27'

/-- a code point as an escape of the shortest of the three widths -/
def codeEscape (c : Char) : List Char :=
  let n := c.toNat
  if n < 0x100 then ['\\', 'x'] ++ hexDigits 2 n
  else if n < 0x10000 then ['\\', 'u'] ++ hexDigits 4 n
  else ['\\', 'U'] ++ hexDigits 8 n

/-- a character as it stands between marks -/
def quoteChar (mark c : Char) : List Char :=
  if c = mark ∨ c = '\\' then ['\\', c]
  else if c = '\t' then ['\\', 't']
  else if c = '\n' then ['\\', 'n']
  else if c = '\r' then ['\\', 'r']
  else if isPrintable c then [c]
  else codeEscape c

/-- the quoted form of a list of characters -/
def quoteChars (s : List Char) : List Char :=
  let mark := quoteMark s
  mark :: (s.flatMap (quoteChar mark) ++ [mark])

/-- the quoted form of a text -/
def quoted (s : String) : String := String.ofList (quoteChars s.toList)

/-- a byte as it stands between marks: ASCII as it is, all else by its number -/
def quoteByte (mark : Char) (b : UInt8) : List Char :=
  let c := Char.ofNat b.toNat
  if c = mark ∨ c = '\\' then ['\\', c]
  else if c = '\t' then ['\\', 't']
  else if c = '\n' then ['\\', 'n']
  else if c = '\r' then ['\\', 'r']
  else if 32 ≤ b.toNat ∧ b.toNat < 127 then [c]
  else ['\\', 'x'] ++ hexDigits 2 b.toNat

/-- the quoted form of a sequence of bytes, marked by a leading `b` -/
def quotedBytes (bytes : List UInt8) : String :=
  let mark := quoteMark (bytes.map fun b => Char.ofNat b.toNat)
  String.ofList ('b' :: mark :: (bytes.flatMap (quoteByte mark) ++ [mark]))

theorem quoteMark_eq (s : List Char) : quoteMark s = '"' ∨ quoteMark s = '\x27' := by
  unfold quoteMark
  split <;> simp

end LinePrompt.Text
