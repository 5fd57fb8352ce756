/-
Bytes written with 64 characters, six bits each.

Reading is lenient: characters outside the alphabet are passed over, and the text ends at the padding that completes
a group of four. Writing gives groups of four and breaks lines after 76 characters, each line ended.
-/
namespace LinePrompt.Text.Base64

/-- six bits as a character -/
def letter (n : Nat) : Char :=
  if n < 26 then Char.ofNat (65 + n)
  else if n < 52 then Char.ofNat (71 + n)
  else if n < 62 then Char.ofNat (n - 4)
  else if n = 62 then '+'
  else '/'

/-- the six bits of a character of the alphabet -/
def value? (c : Char) : Option Nat :=
  let n := c.toNat
  if 65 ≤ n ∧ n ≤ 90 then some (n - 65)
  else if 97 ≤ n ∧ n ≤ 122 then some (n - 71)
  else if 48 ≤ n ∧ n ≤ 57 then some (n + 4)
  else if c = '+' then some 62
  else if c = '/' then some 63
  else none

/-- reading: `inGroup` characters of a group of four are read, `left` holds their bits that no byte has yet, and
`pads` paddings stand directly before -/
def decodeFrom (inGroup left pads : Nat) : List Char → Option (List UInt8)
  | [] => if inGroup = 0 then some [] else none
  | c :: rest =>
    if c = '=' then
      if 2 ≤ inGroup then
        if 4 ≤ inGroup + pads + 1 then some [] else decodeFrom inGroup left (pads + 1) rest
      else decodeFrom inGroup left pads rest
    else
      match value? c with
      | none => decodeFrom inGroup left pads rest
      | some v =>
        match inGroup with
        | 0 => decodeFrom 1 v 0 rest
        | 1 => (decodeFrom 2 (v % 16) 0 rest).map (((left * 4 + v / 16) % 256).toUInt8 :: ·)
        | 2 => (decodeFrom 3 (v % 4) 0 rest).map (((left * 16 + v / 4) % 256).toUInt8 :: ·)
        | _ => (decodeFrom 0 0 0 rest).map (((left * 64 + v) % 256).toUInt8 :: ·)

/-- the bytes a text stands for; none if its last group is not complete -/
def decode? (cs : List Char) : Option (List UInt8) := decodeFrom 0 0 0 cs

/-- bytes in groups of four characters -/
def encodeGroups : List UInt8 → List Char
  | a :: b :: c :: rest =>
    let n := a.toNat * 65536 + b.toNat * 256 + c.toNat
    letter (n / 262144) :: letter (n / 4096 % 64) :: letter (n / 64 % 64) :: letter (n % 64) :: encodeGroups rest
  | [a, b] =>
    let n := a.toNat * 1024 + b.toNat * 4
    [letter (n / 4096), letter (n / 64 % 64), letter (n % 64), '=']
  | [a] =>
    let n := a.toNat * 16
    [letter (n / 64), letter (n % 64), '=', '=']
  | [] => []

/-- characters in lines of 76, each ended by a line feed -/
def inLines : Nat → List Char → List Char
  | 0, _ => []
  | bound + 1, cs => if cs.isEmpty then [] else cs.take 76 ++ '\n' :: inLines bound (cs.drop 76)

/-- bytes in lines of 76 characters -/
def encode (bytes : List UInt8) : List Char :=
  let cs := encodeGroups bytes
  inLines (cs.length + 1) cs

end LinePrompt.Text.Base64
