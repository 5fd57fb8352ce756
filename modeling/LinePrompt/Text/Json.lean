/-
A text as a JSON string of ASCII characters.

Quote and backslash are escaped by a backslash, five control characters by a letter, and every other character that is
no printable ASCII by its UTF-16 units, of which a character beyond the first plane has two.
-/
import LinePrompt.Text.Hex

namespace LinePrompt.Text.Json

/-- a unit of sixteen bits as an escape -/
def unit (n : Nat) : List Char := ['\\', 'u'] ++ hexDigits 4 n

/-- a character by its units -/
def units (c : Char) : List Char :=
  let n := c.toNat
  if n < 0x10000 then unit n
  else unit (0xD800 + (n - 0x10000) / 0x400) ++ unit (0xDC00 + (n - 0x10000) % 0x400)

/-- a character as it stands in a string -/
def spell (c : Char) : List Char :=
  if c = '"' ∨ c = '\\' then ['\\', c]
  else if c = '\n' then ['\\', 'n']
  else if c = '\r' then ['\\', 'r']
  else if c = '\t' then ['\\', 't']
  else if c.toNat = 8 then ['\\', 'b']
  else if c.toNat = 12 then ['\\', 'f']
  else if 32 ≤ c.toNat ∧ c.toNat ≤ 126 then [c]
  else units c

/-- the string with its quotes -/
def string (cs : List Char) : List Char := '"' :: (cs.flatMap spell ++ ['"'])

end LinePrompt.Text.Json
