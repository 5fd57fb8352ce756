/-
Binary floating-point numbers of 64 bits, as exact data.

A finite number is `m * 2 ^ e` with `m < 2 ^ 53` and `-1074 ≤ e ≤ 971`; where `m` could be doubled without leaving
that range it has been, so each value has one form per sign. `ofRatio` rounds a quotient to the nearest number, a tie
to the even mantissa, and gives infinity beyond the range. Sums and products are the rounded exact results.
-/
import LinePrompt.Decimal.Power

namespace LinePrompt.Decimal

inductive Binary where
  | finite (negative : Bool) (mantissa : Nat) (exponent : Int)
  | infinite (negative : Bool)
  | notANumber
deriving DecidableEq, Repr

namespace Binary

/-- a quotient rounded to the nearest whole number, a tie to the even one -/
def roundDiv (num den : Nat) : Nat :=
  let q := num / den
  let r := num % den
  if 2 * r < den then q else if den < 2 * r then q + 1 else q + q % 2

/-- `num / (den * 2 ^ e)`, rounded -/
def scaledDiv (num den : Nat) (e : Int) : Nat :=
  if 0 ≤ e then roundDiv num (den * twoTo e.toNat) else roundDiv (num * twoTo (-e).toNat) den

/-- the same rounded down -/
def scaledFloor (num den : Nat) (e : Int) : Nat :=
  if 0 ≤ e then num / (den * twoTo e.toNat) else num * twoTo (-e).toNat / den

/-- the exponent that leaves 53 bits of the quotient, or the least exponent -/
def exponentFor (num den : Nat) : Int :=
  let guess : Int := (num.log2 : Int) - den.log2 - 52
  let e := if scaledFloor num den guess < twoTo 52 then guess - 1 else guess
  max e (-1074)

/-- the number nearest to a quotient -/
def ofRatio (negative : Bool) (num den : Nat) : Binary :=
  if num = 0 then finite negative 0 (-1074)
  else
    let e := exponentFor num den
    let m := scaledDiv num den e
    let (m, e) := if m = twoTo 53 then (twoTo 52, e + 1) else (m, e)
    if 971 < e then infinite negative else finite negative m e

/-- the number nearest to a whole number -/
def ofNat (n : Nat) : Binary := ofRatio false n 1

def negate : Binary → Binary
  | finite s m e => finite (!s) m e
  | infinite s => infinite (!s)
  | notANumber => notANumber

def isZero : Binary → Bool
  | finite _ 0 _ => true
  | _ => false

/-- a finite value as a signed multiple of the least power of two -/
def units (negative : Bool) (m : Nat) (e : Int) : Int :=
  let n : Int := (m * twoTo (e + 1074).toNat : Nat)
  if negative then -n else n

/-- the number nearest to a multiple of the least power of two; `zero` is the sign of a zero -/
def ofUnits (zero : Bool) (n : Int) : Binary :=
  ofRatio (if n = 0 then zero else n < 0) n.natAbs (twoTo 1074)

def add : Binary → Binary → Binary
  | finite s m e, finite s' m' e' => ofUnits (s && s') (units s m e + units s' m' e')
  | infinite s, infinite s' => if s = s' then infinite s else notANumber
  | infinite s, finite .. => infinite s
  | finite .., infinite s => infinite s
  | _, _ => notANumber

/-- a number times a whole number, which is rounded first -/
def mulNat (x : Binary) (n : Nat) : Binary :=
  match x, ofNat n with
  | finite s m e, finite _ m' e' =>
    let sum := e + e'
    if 0 ≤ sum then ofRatio s (m * m' * twoTo sum.toNat) 1 else ofRatio s (m * m') (twoTo (-sum).toNat)
  | finite s m _, infinite _ => if m = 0 then notANumber else infinite s
  | infinite s, y => if y.isZero then notANumber else infinite s
  | _, _ => notANumber

/-- is it this whole number exactly? -/
def equalsInt (x : Binary) (n : Int) : Bool :=
  match x with
  | finite s m e => units s m e == n * (twoTo 1074 : Nat)
  | _ => false

/-- equality of numbers: the zeros are equal, and what is no number equals nothing -/
def same : Binary → Binary → Bool
  | finite s m e, finite s' m' e' => (m == 0 && m' == 0) || (s == s' && m == m' && e == e')
  | infinite s, infinite s' => s == s'
  | _, _ => false

theorem roundDiv_le (num den : Nat) : roundDiv num den ≤ num / den + 1 := by
  unfold roundDiv
  simp only
  split
  · omega
  · split <;> omega

theorem le_roundDiv (num den : Nat) : num / den ≤ roundDiv num den := by
  unfold roundDiv
  simp only
  split
  · omega
  · split <;> omega

end Binary

end LinePrompt.Decimal
