/-
Non-negative binary floating point of 53 bits, in exact integer arithmetic.

A value is `significand * 2 ^ exponent`. Every operation is the exact quotient rounded once, to
the nearest value and to the even one of two equally near, so nothing here depends on the
machine's own floating point.
-/
namespace ShardSearch.Decimal

/-- The number `significand * 2 ^ exponent`. Values made by `ofRatio` have a significand below
`2 ^ 53` and an exponent of at least -1074. -/
structure Binary64 where
  significand : Nat
  exponent : Int
deriving DecidableEq, Repr

/-- The quotient rounded to the nearest integer, a half to the even one. -/
def roundedQuotient (num den : Nat) : Nat :=
  let q := num / den
  let r := num % den
  if 2 * r < den then q
  else if den < 2 * r then q + 1
  else if q % 2 = 0 then q
  else q + 1

namespace Binary64

/-- The smallest exponent. -/
def leastExponent : Int := -1074

/-- The largest exponent. -/
def greatestExponent : Int := 971

/-- Zero. -/
def zero : Binary64 := ⟨0, leastExponent⟩

/-- The numerator of a value as a fraction. -/
def num (x : Binary64) : Nat := x.significand * Nat.pow 2 x.exponent.toNat

/-- The denominator of a value as a fraction. -/
def den (x : Binary64) : Nat := Nat.pow 2 (-x.exponent).toNat

/-- The largest `e` with `2 ^ e ≤ num / den`, for a positive quotient. -/
def floorLog (num den : Nat) : Int :=
  let e : Int := (num.log2 : Int) - (den.log2 : Int)
  if den * Nat.pow 2 e.toNat ≤ num * Nat.pow 2 (-e).toNat then e else e - 1

/-- The value nearest to `num / den`; absent if it is beyond the largest value. -/
def ofRatio (num den : Nat) : Option Binary64 :=
  if num = 0 then some zero
  else
    let q := max (floorLog num den - 52) leastExponent
    let n := roundedQuotient (num * Nat.pow 2 (-q).toNat) (den * Nat.pow 2 q.toNat)
    let x : Binary64 := if n = Nat.pow 2 53 then ⟨Nat.pow 2 52, q + 1⟩ else ⟨n, q⟩
    if greatestExponent < x.exponent then none else some x

/-- The rounded product. -/
def mul (x y : Binary64) : Option Binary64 := ofRatio (x.num * y.num) (x.den * y.den)

/-- The rounded quotient. -/
def div (x y : Binary64) : Option Binary64 := ofRatio (x.num * y.den) (x.den * y.num)

/-- The power of ten with this exponent, rounded. -/
def tenPow (k : Nat) : Option Binary64 := ofRatio (Nat.pow 10 k) 1

/-- Multiplies by a power of ten in steps of at most `10 ^ 308`, each step rounded; absent if
the result is beyond the largest value. -/
def scale (x : Binary64) (e : Int) : Option Binary64 :=
  if e.natAbs ≤ 308 then
    (tenPow e.natAbs).bind fun p => if 0 ≤ e then x.mul p else x.div p
  else if x.significand = 0 then some x
  else if 0 < e then none
  else ((tenPow 308).bind x.div).bind fun y => y.scale (e + 308)
termination_by (-e).toNat
decreasing_by omega

end Binary64

end ShardSearch.Decimal
