/-
The shortest decimal text of a binary floating point value: the fewest digits that read back as
the value, and of those the nearest to it.

The decimals that read back are those of the rounding interval, whose ends lie halfway to the
neighbouring values and belong to it exactly when the significand is even. For 1, 2, ... 17
digits the two grid points around the value are tested in integer arithmetic.
-/
import ShardSearch.Decimal.Binary64

namespace ShardSearch.Decimal

/-- The decimal `digits * 10 ^ exponent`. -/
structure Digits where
  digits : Nat
  exponent : Int
deriving DecidableEq, Repr

namespace Digits

/-- Compares `d.digits * 10 ^ d.exponent` with `m * 2 ^ e`. -/
def compareTo (d : Digits) (m : Nat) (e : Int) : Ordering :=
  compare (d.digits * Nat.pow 10 d.exponent.toNat * Nat.pow 2 (-e).toNat)
    (m * Nat.pow 2 e.toNat * Nat.pow 10 (-d.exponent).toNat)

end Digits

namespace Binary64

/-- Whether a decimal lies in the rounding interval of a value. Ends are counted in quarters of
the last place, because below a power of two the neighbour is twice as near. -/
def readsBack (x : Binary64) (d : Digits) : Bool :=
  let below := if x.significand = Nat.pow 2 52 ∧ leastExponent < x.exponent then 1 else 2
  let closed := x.significand % 2 = 0
  let atLow := d.compareTo (4 * x.significand - below) (x.exponent - 2)
  let atHigh := d.compareTo (4 * x.significand + 2) (x.exponent - 2)
  (atLow = .gt || (closed && atLow = .eq)) && (atHigh = .lt || (closed && atHigh = .eq))

/-- The largest `e` with `10 ^ e ≤ x`, for a positive value: searched downward from an upper
bound of the binary logarithm. -/
def floorLogTen (x : Binary64) : Nat → Int
  | 0 => -324
  | fuel + 1 =>
    let e : Int := (fuel : Int) - 324
    if (Digits.mk 1 e).compareTo x.significand x.exponent ≠ .gt then e else x.floorLogTen fuel

/-- The nearer of two decimals that enclose a value, the even one if both are equally near. -/
def nearer (x : Binary64) (lo hi : Digits) : Digits :=
  let both := Digits.mk (lo.digits + hi.digits) lo.exponent
  match both.compareTo (2 * x.significand) x.exponent with
  | .gt => lo
  | .lt => hi
  | .eq => if lo.digits % 2 = 0 then lo else hi

/-- A decimal of `n` digits; the one above the largest of them is written with one digit. -/
def carried (n : Nat) (d : Digits) : Digits :=
  if d.digits = Nat.pow 10 n then ⟨1, d.exponent + n⟩ else d

/-- The decimal with `n` digits that reads back, if there is one. -/
def withDigits (x : Binary64) (log : Int) (n : Nat) : Option Digits :=
  let p := log - n + 1
  let c := (x.num * Nat.pow 10 (-p).toNat) / (x.den * Nat.pow 10 p.toNat)
  let lo := Digits.mk c p
  let hi := Digits.mk (c + 1) p
  match x.readsBack lo, x.readsBack hi with
  | true, true => some (carried n (x.nearer lo hi))
  | true, false => some lo
  | false, true => some (carried n hi)
  | false, false => none

/-- The shortest decimal that reads back as a positive value. -/
def shortest (x : Binary64) : Digits :=
  let log := x.floorLogTen 634
  ((List.range 17).findSome? fun n => x.withDigits log (n + 1)).getD ⟨x.significand, 0⟩

end Binary64

end ShardSearch.Decimal
