/-
The shortest decimal that reads back as a given binary number.

The reals that round to a number form an interval around it, its ends included when the mantissa is even. For one
digit, two digits and so on the number's two neighbours on that decimal grid are tried; the first grid that has a point
in the interval wins, and of two points the one nearer to the number, of two equally near the even one.
-/
import LinePrompt.Decimal.Binary

namespace LinePrompt.Decimal

/-- the decimal `0.d₁d₂... * 10 ^ point` -/
structure Digits where
  digits : Nat
  /-- how many digits there are -/
  count : Nat
  point : Int
deriving DecidableEq, Repr

/-- the interval of the reals that round to `m * 2 ^ e`, all in quarters of `2 ^ e` over a common denominator -/
structure Interval where
  low : Nat
  value : Nat
  high : Nat
  den : Nat
  /-- the ends round to the number too -/
  closed : Bool
deriving DecidableEq, Repr

/-- the interval of a positive number -/
def Interval.of (m : Nat) (e : Int) : Interval :=
  let up := twoTo e.toNat
  let down := twoTo (-e).toNat
  -- just above a power of two the numbers below lie twice as close
  let below := if m = twoTo 52 ∧ -1074 < e then 1 else 2
  ⟨(4 * m - below) * up, 4 * m * up, (4 * m + 2) * up, 4 * down, m % 2 = 0⟩

/-- is `n * 10 ^ k` in the interval? -/
def Interval.has (i : Interval) (n : Nat) (k : Int) : Bool :=
  let scaled := n * tenTo k.toNat * i.den
  let unit := tenTo (-k).toNat
  if i.closed then i.low * unit ≤ scaled && scaled ≤ i.high * unit
  else i.low * unit < scaled && scaled < i.high * unit

/-- the largest `n` with `n * 10 ^ k` not above the value -/
def Interval.floorAt (i : Interval) (k : Int) : Nat :=
  if 0 ≤ k then i.value / (i.den * tenTo k.toNat) else i.value * tenTo (-k).toNat / i.den

/-- is `n * 10 ^ k` nearer to the value than `(n + 1) * 10 ^ k`? Of two that are equally near the even one is. -/
def Interval.lowerIsNearer (i : Interval) (n : Nat) (k : Int) : Bool :=
  let twice := 2 * i.value * tenTo (-k).toNat
  let middle := (2 * n + 1) * tenTo k.toNat * i.den
  twice < middle || (twice = middle && n % 2 = 0)

/-- the point of the grid of `10 ^ k` that stands for the value, if there is one -/
def Interval.gridPoint? (i : Interval) (k : Int) : Option Nat :=
  let n := i.floorAt k
  let lower := n != 0 && i.has n k
  let upper := i.has (n + 1) k
  if lower && upper then some (if i.lowerIsNearer n k then n else n + 1)
  else if lower then some n
  else if upper then some (n + 1)
  else none

/-- the number of decimal digits -/
def digitCount : Nat → Nat → Nat
  | 0, _ => 0
  | bound + 1, n => if n < 10 then 1 else digitCount bound (n / 10) + 1

/-- the decimal exponent of a positive value: `10 ^ (p - 1) ≤ value < 10 ^ p`, starting from a guess below it -/
def Interval.pointFrom (i : Interval) : Nat → Int → Int
  | 0, p => p
  | bound + 1, p => if i.floorAt p = 0 then p else i.pointFrom bound (p + 1)

/-- the first grid with a point, from `count` digits on -/
def Interval.search (i : Interval) (point : Int) : Nat → Nat → Digits
  | 0, count => ⟨i.floorAt (point - count), count, point⟩
  | bound + 1, count =>
    match i.gridPoint? (point - count) with
    | some n => if n = tenTo count then ⟨1, 1, point + 1⟩ else ⟨n, count, point⟩
    | none => i.search point bound (count + 1)

/-- the shortest digits of `m * 2 ^ e`, which is positive -/
def shortest (m : Nat) (e : Int) : Digits :=
  let i := Interval.of m e
  let guess := ((m.log2 : Int) + e) * 30103 / 100000 - 1
  i.search (i.pointFrom 5 guess) 17 1

/-- how numbers are laid out: positional from `0.0001` up to 16 digits before the point, else with an exponent of at
least two digits -/
def layout (d : Digits) : String :=
  let text := toString d.digits
  if -4 < d.point && d.point ≤ 16 then
    if d.point ≤ 0 then "0." ++ String.ofList (List.replicate (-d.point).toNat '0') ++ text
    else if d.count ≤ d.point.toNat then
      text ++ String.ofList (List.replicate (d.point.toNat - d.count) '0') ++ ".0"
    else String.ofList (text.toList.take d.point.toNat) ++ "." ++ String.ofList (text.toList.drop d.point.toNat)
  else
    let head := String.ofList (text.toList.take 1)
    let tail := text.toList.drop 1
    let exponent := d.point - 1
    let size := toString exponent.natAbs
    head ++ (if tail.isEmpty then "" else "." ++ String.ofList tail) ++ "e" ++ (if exponent < 0 then "-" else "+") ++
      (if size.length < 2 then "0" ++ size else size)

/-- the text of a number -/
def Binary.text : Binary → String
  | .notANumber => "nan"
  | .infinite s => if s then "-inf" else "inf"
  | .finite s m e =>
    (if s then "-" else "") ++ (if m = 0 then "0.0" else layout (shortest m e))

end LinePrompt.Decimal
